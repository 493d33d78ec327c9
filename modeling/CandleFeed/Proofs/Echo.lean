import CandleFeed.Proofs.Message
import CandleFeed.Proofs.Request
import CandleFeed.Proofs.Symbol

namespace CandleFeed
open Json Json.Codec Json.Members

/-- The symbol has no separators in it, and an interval is not empty and has no blanks at its ends;
a candle topic has one of the nine intervals. -/
structure Topic.Requestable (t : Topic) : Prop where
  symbol_nonempty : t.symbol.name ≠ ""
  symbol_plain : ∀ c ∈ t.symbol.name.toList, c ≠ ':' ∧ c ≠ '/' ∧ Text.isBlank c = false
  interval_trimmed : ∀ interval ∈ t.interval, interval ≠ "" ∧ Text.trim interval = interval
  kline_interval : t.channel = .kline → ∃ i : Interval, t.interval = some i.code

theorem MessageType.ofCode?_eq_some_iff {code : String} {type : MessageType} :
    ofCode? code = some type ↔ Text.sameIgnoringCase type.code code = true := by
  constructor
  · intro found
    unfold ofCode? at found
    simpa using List.find?_some found
  · intro same
    have own (other : MessageType) : Text.sameIgnoringCase other.code code =
        Text.sameIgnoringCase other.code type.code := by
      rw [Text.sameIgnoringCase, ← Text.sameIgnoringCase_iff.mp same]
      rfl
    rw [ofCode?, funext own]
    cases type <;> decide

namespace Symbol

theorem plain_iff {s : Symbol} :
    (s.name ≠ "" ∧ ∀ c ∈ s.name.toList, c ≠ ':' ∧ c ≠ '/' ∧ Text.isBlank c = false) ↔
      s.WellFormed ∧ '/' ∉ s.name.toList := by
  have slash : '/' ∉ s.name.toList ↔ ∀ c ∈ s.name.toList, c ≠ '/' := by
    rw [← List.forall_mem_ne]
    exact forall₂_congr fun c _ => ne_comm
  rw [slash, WellFormed, and_assoc, ← forall₂_and]
  refine and_congr_right fun _ => forall₂_congr fun c _ => ?_
  rw [isSeparator, Bool.or_eq_false_iff, beq_eq_false_iff_ne, and_right_comm, and_assoc]

end Symbol

namespace Request

theorem given_some {s : String} (nonempty : s ≠ "") (trimmed : Text.trim s = s) :
    given (some s) = some s := by
  simp [given, trimmed, nonempty]

theorem requestable_of_topicOf {raw : RawRequest} {t : Topic} (ok : topicOf raw = .ok t) :
    t.Requestable := by
  obtain ⟨-, ⟨pair, -, found⟩, checked, interval⟩ := topicOf_eq_ok_iff.mp ok
  obtain ⟨nonempty, plain⟩ := Symbol.plain_iff.mpr (Symbol.wellFormed_of_ofPair? found)
  refine ⟨nonempty, plain, ?_, ?_⟩
  · intro own given
    exact trimmed_of_given (interval.trans given)
  · intro candles
    rw [candles, interval] at checked
    exact checkInterval_kline checked

theorem checkInterval_of_requestable {t : Topic} (requestable : t.Requestable) :
    checkInterval t.channel t.interval = .ok () := by
  unfold checkInterval
  split
  · rename_i candles
    obtain ⟨i, named⟩ := requestable.kline_interval candles
    rw [named]
    simp [Interval.ofCode?_code]
  · rfl

def asking (type : String) (t : Topic) : RawRequest :=
  ⟨some type, some t.channel.code, some t.symbol.name, t.interval⟩

theorem topicOf_asking {t : Topic} (requestable : t.Requestable) (type : String) :
    topicOf (asking type t) = .ok t := by
  have channel : given (some t.channel.code) = some t.channel.code := by
    cases t.channel <;> decide
  have dark (c : Char) (mem : c ∈ t.symbol.name.toList) := (requestable.symbol_plain c mem).2.2
  have symbol : given (some t.symbol.name) = some t.symbol.name := by
    apply given_some requestable.symbol_nonempty
    rw [Text.trim, Text.strip_of_dark dark, String.ofList_toList]
  have interval : given t.interval = t.interval := by
    cases own : t.interval with
    | none => rfl
    | some interval =>
        obtain ⟨nonempty, trimmed⟩ := requestable.interval_trimmed interval own
        exact given_some nonempty trimmed
  obtain ⟨wellFormed, noSlash⟩ :=
    Symbol.plain_iff.mp ⟨requestable.symbol_nonempty, requestable.symbol_plain⟩
  have found := Symbol.ofPair?_name wellFormed noSlash
  refine topicOf_eq_ok_iff.mpr ⟨channel, ⟨_, symbol, found⟩, ?_, interval⟩
  rw [asking, interval]
  exact checkInterval_of_requestable requestable

theorem decode_asking (type : String) (t : Topic) (now : Int) :
    RawRequest.codec.decode (object (([("type", quote type)] ++ Message.topicParts t ++
      [("timestamp", Text.signedDigits now)]).map Member.text)) = .ok (asking type t) := by
  have unknown : ∀ other ∈ [("timestamp", Text.signedDigits now)],
      other.1 ∉ ["type", "channel", "symbol", "interval"] := by simp
  have written : ∀ other ∈ [("timestamp", Text.signedDigits now)], Written other.2 := by
    simpa using Written.number now
  have texts := restores_texts
  obtain ⟨channel, symbol, interval⟩ := t
  cases interval with
  | none =>
      refine (decode_among (v := asking type ⟨channel, symbol, none⟩) ?_ ?_ unknown written).trans rfl
      · decide
      · exact ⟨texts _, texts _, texts _, texts _, trivial⟩
  | some interval =>
      refine (decode_among (v := asking type ⟨channel, symbol, some interval⟩) ?_ ?_ unknown
        written).trans rfl
      · decide
      · exact ⟨texts _, texts _, texts _, texts _, trivial⟩

theorem replaceMember_type (t : Topic) (type : String) (now : Int) :
    replaceMember "type" (quote type) ((Message.subscribed t).encode now) =
      .ok (String.ofList (object (([("type", quote type)] ++ Message.topicParts t ++
        [("timestamp", Text.signedDigits now)]).map Member.text))) := by
  rw [replaceMember, Message.members?_encode]
  cases interval : t.interval <;>
    simp [Except.map, Message.parts, Message.subjectParts, Message.explanationParts,
      Message.topicParts, interval]

theorem parse_echo {t : Topic} {type : String} {request : Request} (now : Int)
    (ok : ofRaw (asking type t) = .ok request) :
    ∃ text, replaceMember "type" (quote type) ((Message.subscribed t).encode now) = .ok text ∧
      parse text = .ok request := by
  refine ⟨_, replaceMember_type t type now, parse_eq_ok_iff.mpr ⟨asking type t, ?_, ok⟩⟩
  rw [String.toList_ofList]
  exact decode_asking type t now

theorem ofRaw_asking_subscribe {t : Topic} (requestable : t.Requestable) {type : String}
    (same : Text.sameIgnoringCase "subscribe" type = true) :
    ofRaw (asking type t) = .ok (.subscribe t) := by
  have found : MessageType.ofCode? type = some .subscribe := MessageType.ofCode?_eq_some_iff.mpr same
  exact ofRaw_eq_ok_iff.mpr ⟨type, rfl, found, topicOf_asking requestable type⟩

theorem ofRaw_asking_unsubscribe {t : Topic} (requestable : t.Requestable) {type : String}
    (same : Text.sameIgnoringCase "unsubscribe" type = true) :
    ofRaw (asking type t) = .ok (.unsubscribe t) := by
  have found : MessageType.ofCode? type = some .unsubscribe :=
    MessageType.ofCode?_eq_some_iff.mpr same
  exact ofRaw_eq_ok_iff.mpr ⟨type, rfl, found, topicOf_asking requestable type⟩

theorem requestable_iff_and_echo :
    (∀ t, (∃ text, parse text = .ok (.subscribe t)) ↔ t.Requestable) ∧
    (∀ t, (∃ text, parse text = .ok (.unsubscribe t)) ↔ t.Requestable) ∧
    ∀ t, t.Requestable → ∀ now type,
      (Text.sameIgnoringCase "subscribe" type = true →
        ∃ text, replaceMember "type" (quote type) ((Message.subscribed t).encode now) = .ok text ∧
          parse text = .ok (.subscribe t)) ∧
      (Text.sameIgnoringCase "unsubscribe" type = true →
        ∃ text, replaceMember "type" (quote type) ((Message.subscribed t).encode now) = .ok text ∧
          parse text = .ok (.unsubscribe t)) := by
  refine ⟨fun t => ⟨?_, fun requestable => ?_⟩, fun t => ⟨?_, fun requestable => ?_⟩, ?_⟩
  · rintro ⟨text, parsed⟩
    obtain ⟨raw, -, ok⟩ := parse_eq_ok_iff.mp parsed
    obtain ⟨type, -, -, topic⟩ := ofRaw_eq_ok_iff.mp ok
    exact requestable_of_topicOf topic
  · obtain ⟨text, -, parsed⟩ := parse_echo 0
      (ofRaw_asking_subscribe requestable (Text.sameIgnoringCase_refl "subscribe"))
    exact ⟨text, parsed⟩
  · rintro ⟨text, parsed⟩
    obtain ⟨raw, -, ok⟩ := parse_eq_ok_iff.mp parsed
    obtain ⟨type, -, -, topic⟩ := ofRaw_eq_ok_iff.mp ok
    exact requestable_of_topicOf topic
  · obtain ⟨text, -, parsed⟩ := parse_echo 0
      (ofRaw_asking_unsubscribe requestable (Text.sameIgnoringCase_refl "unsubscribe"))
    exact ⟨text, parsed⟩
  · intro t requestable now type
    exact ⟨fun same => parse_echo now (ofRaw_asking_subscribe requestable same),
      fun same => parse_echo now (ofRaw_asking_unsubscribe requestable same)⟩

def quotedTopic : Topic :=
  ⟨.depth, ⟨"A\\B-\"C\""⟩, some "\"1\n2\""⟩

theorem quotedTopic_echo :
    quotedTopic.Requestable ∧ Text.sameIgnoringCase "unsubscribe" "UnSubscribe" = true ∧
    ∃ text, replaceMember "type" (quote "UnSubscribe") ((Message.subscribed quotedTopic).encode 7) =
        .ok text ∧ parse text = .ok (.unsubscribe quotedTopic) := by
  have plain : quotedTopic.symbol.name.toList.all fun c =>
      c ≠ ':' && c ≠ '/' && !Text.isBlank c := by decide
  have symbol : ∀ c ∈ quotedTopic.symbol.name.toList, c ≠ ':' ∧ c ≠ '/' ∧ Text.isBlank c = false := by
    intro c mem
    simpa [and_assoc] using List.all_eq_true.mp plain c mem
  have requestable : quotedTopic.Requestable := ⟨by decide, symbol, by decide, nofun⟩
  have same : Text.sameIgnoringCase "unsubscribe" "UnSubscribe" = true := by decide
  have echo := requestable_iff_and_echo.2.2 quotedTopic requestable 7 "UnSubscribe"
  exact ⟨requestable, same, echo.2 same⟩

end Request

end CandleFeed
