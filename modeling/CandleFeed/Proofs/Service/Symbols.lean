import CandleFeed.Proofs.Service.Containment
import CandleFeed.Proofs.Service.Subscribing
import CandleFeed.Proofs.Symbol

namespace CandleFeed

theorem Request.wellFormed_of_parse {text : String} {topic : Topic}
    (parsed : parse text = .ok (.subscribe topic)) : topic.symbol.WellFormed := by
  obtain ⟨raw, ok⟩ := exists_topicOf_of_parse parsed
  obtain ⟨-, ⟨pair, -, found⟩, -⟩ := topicOf_eq_ok_iff.mp ok
  exact (Symbol.wellFormed_of_ofPair? found).1

theorem TradeEvent.wellFormed_of_toTick {event : TradeEvent} {tick : Tick}
    (read : event.toTick = .ok tick) : tick.symbol.WellFormed :=
  (Symbol.wellFormed_of_ofPair? (toTick_ok read).symbol).1

namespace Seat

variable {topics : List Topic} {limit : Nat} {topic : Topic}

theorem mem_of_mem_perform {request : Request} {after : List Topic} {message : Message}
    (performed : perform topics limit request = .ok (after, message)) (mem : topic ∈ after) :
    topic ∈ topics ∨ request = .subscribe topic := by
  cases (performed_of_eq_ok performed).1 with
  | ping => exact .inl mem
  | again other old => exact .inl mem
  | added other new room =>
      rcases List.mem_append.mp mem with old | own
      · exact .inl old
      · exact .inr (congrArg _ (List.mem_singleton.mp own).symm)
  | removed other => exact .inl (List.mem_of_mem_erase mem)

theorem mem_of_mem_answer {text : String} (mem : topic ∈ (answer topics limit text).topics) :
    topic ∈ topics ∨ Request.parse text = .ok (.subscribe topic) := by
  rcases answer_cases topics limit text with
    ⟨cause, refused⟩ | ⟨request, after, message, parsed, performed, answered⟩
  · rw [refused] at mem
    exact .inl mem
  · rw [answered] at mem
    rcases mem_of_mem_perform performed mem with old | rfl
    · exact .inl old
    · exact .inr parsed

theorem mem_of_mem_act {seat : Seat} {now : Int} {act : Act}
    (mem : topic ∈ (seat.act limit now act).1.topics) :
    topic ∈ seat.topics ∨ ∃ text, act = .text text ∧ Request.parse text = .ok (.subscribe topic) := by
  unfold Seat.act asOwner at mem
  cases act with
  | text text =>
      dsimp only at mem
      split at mem
      · exact (mem_of_mem_answer mem).imp id fun parsed => ⟨text, rfl, parsed⟩
      · exact .inl mem
  | requestClose | close reason | drop =>
      dsimp only at mem
      split at mem
      · first | exact .inl mem | cases mem
      · exact .inl mem
  | start capacity policy | receive | abandon => exact .inl mem

end Seat

namespace Engine

theorem change_none {command : Command} {key : CandleKey} {c : Candle}
    (made : command.change key none = some c) :
    ∃ tick nanos, command = .ingest tick nanos ∧ tick.symbol = key.symbol := by
  cases command with
  | ingest tick nanos =>
      rw [change_ingest] at made
      split at made
      · rename_i touches
        exact ⟨tick, nanos, rfl, touches.2.1⟩
      · cases made
  | complete own =>
      rw [change_complete] at made
      split at made <;> cases made
  | advance span wall => cases made
  | purge => cases made

end Engine

namespace Service

variable {s : Service} {id : ConnectionId} {topic : Topic}

theorem Sound.holds_iff (sound : s.Sound) : s.Holds id topic ↔ topic ∈ s.registry.wants id := by
  refine ⟨Holds.mem_wants, ?_⟩
  intro mem
  obtain ⟨relation, agrees⟩ := sound.agrees
  obtain ⟨entry, known⟩ := (agrees.registered id).mp (agrees.known id topic (agrees.mem_wants.mp mem))
  obtain ⟨-, outbox, placed, owner, -⟩ :=
    (sound.registered id _).mp (Registry.handle?_of_get? known)
  exact ⟨_, seat?_of_outbox (sound.outbox?_eq_some_iff.mpr ⟨owner, _, placed⟩), mem⟩

theorem Sound.holds_of_step (sound : s.Sound) {command : Command}
    (holds : (s.step command).Holds id topic) :
    s.Holds id topic ∨
      ∃ text, command = .act id (.text text) ∧ Request.parse text = .ok (.subscribe topic) := by
  obtain ⟨after, seated, mem⟩ := holds
  cases command with
  | news news =>
      obtain ⟨seat, before, rfl⟩ :=
        Option.map_eq_some_iff.mp (((sound.hear news).seats id).symm.trans seated)
      exact .inl ⟨seat, before, mem⟩
  | act own act =>
      obtain ⟨reseats, -⟩ := sound.act own act
      by_cases mine : id = own
      · subst mine
        have now := reseats.own.symm.trans seated
        cases before : s.seat? id with
        | none =>
            rw [before] at now
            cases act <;> cases now
            cases mem
        | some seat =>
            rw [before] at now
            obtain rfl := Option.some.inj now
            rcases Seat.mem_of_mem_act mem with old | ⟨text, rfl, parsed⟩
            · exact .inl ⟨seat, before, old⟩
            · exact .inr ⟨text, rfl, parsed⟩
      · exact .inl ⟨after, (reseats.others id mine).symm.trans seated, mem⟩

structure Named (s : Service) : Prop where
  topics : ∀ id topic, s.Holds id topic → topic.symbol.WellFormed
  rows : ∀ key c, s.store.view key = some c → key.symbol.WellFormed

theorem named_create (settings : Settings) (now : Nat) (wall : Instant) (ids : Nat → Uuid) :
    Named (Gateway.create settings (.empty now wall ids)).service where
  topics id topic holds := by
    obtain ⟨seat, found, -⟩ := holds
    cases found
  rows key c found := by cases found

theorem Sound.view_step (sound : s.Sound) {command : Command} {key : CandleKey} {c : Candle}
    (made : (s.step command).store.view key = some c) :
    (∃ old, s.store.view key = some old) ∨ ∃ event nanos tick,
      command = .news (.event event nanos) ∧ event.toTick = .ok tick ∧ tick.symbol = key.symbol := by
  cases command with
  | act own act =>
      have same : (s.step (.act own act)).store = s.store := store_act s own act
      exact .inl ⟨c, same ▸ made⟩
  | news news =>
      have heard : (s.step (.news news)).store = (s.toIngester.hear news).store := s.store_hear news
      rw [heard] at made
      rcases hear_store s.toIngester news with same | ⟨command, same, source⟩
      · exact .inl ⟨c, same ▸ made⟩
      · rw [same, (Engine.step_spec sound.coherent command).view] at made
        cases before : s.store.view key with
        | some old => exact .inl ⟨old, rfl⟩
        | none =>
            rw [before] at made
            obtain ⟨tick, nanos, traded, own⟩ := Engine.change_none made
            obtain ⟨event, rfl, read⟩ := source tick nanos traded
            exact .inr ⟨event, nanos, tick, rfl, read, own⟩

theorem Named.step (named : s.Named) (sound : s.Sound) (command : Command) :
    (s.step command).Named where
  topics id topic holds := by
    rcases sound.holds_of_step holds with before | ⟨text, -, parsed⟩
    · exact named.topics id topic before
    · exact Request.wellFormed_of_parse parsed
  rows key c made := by
    rcases sound.view_step made with ⟨old, before⟩ | ⟨event, nanos, tick, -, read, own⟩
    · exact named.rows key old before
    · exact own ▸ TradeEvent.wellFormed_of_toTick read

theorem Named.run (named : s.Named) (sound : s.Sound) (commands : List Command) :
    (s.run commands).Named := by
  induction commands generalizing s with
  | nil => exact named
  | cons command rest ih => exact ih (named.step sound command) (sound.step command)

structure Checked (s : Service) : Prop where
  subscribed : ∀ id topic, s.registry.isSubscribed id topic = true → topic.symbol.WellFormed
  told : ∀ id topic id' topic', s.registry.isSubscribed id topic = true →
    s.registry.isSubscribed id' topic' = true → topic.key = topic'.key → topic = topic'
  stored : ∀ key row, s.store.rows.get? key = some row → row.key = key ∧ key.symbol.WellFormed
  read : ∀ key c, (s.store.readCache key).2 = .ok (some c) → c.key = key ∧ key.symbol.WellFormed

theorem Named.checked (named : s.Named) (sound : s.Sound) : s.Checked := by
  have subscribed (id : ConnectionId) (topic : Topic)
      (own : s.registry.isSubscribed id topic = true) : topic.symbol.WellFormed :=
    named.topics id topic (sound.holds_iff.mpr ((s.registry.isSubscribed_iff id topic).mp own))
  have stored (key : CandleKey) (row : Candle) (found : s.store.rows.get? key = some row) :
      row.key = key ∧ key.symbol.WellFormed :=
    ⟨sound.coherent.keyed key row found,
      named.rows key _ (congrArg (Option.map Candle.unstamped) found)⟩
  constructor
  case subscribed => exact subscribed
  case told =>
    intro id topic id' topic' own own'
    exact Topic.key_injective (subscribed id topic own) (subscribed id' topic' own')
  case stored => exact stored
  case read =>
    intro key c read
    obtain ⟨row, present, rfl⟩ := sound.coherent.exists_row_of_read read
    exact stored key row present

/-- A symbol that is given as a name or as a pair is checked. One that is decoded is not: by itself
it is any string that a text holds, and so it is in the values that have one. In every run of a
service, the topics, the rows and the candles that the cache answers with have symbols that were
checked. -/
theorem symbols_checked (s : Symbol) (cs : List Char) (settings : Settings) (now : Nat)
    (wall : Instant) (ids : Nat → Uuid) (commands : List Command) :
    ((∃ name, Symbol.parse? name = some s) ↔ s.WellFormed) ∧
    ((∃ pair, Symbol.ofPair? pair = some s) ↔ s.WellFormed ∧ '/' ∉ s.name.toList) ∧
    (Symbol.codec.decode cs = .ok s ↔ Json.Codec.text.decode cs = .ok s.name) ∧
    Unchecked Symbol.codec (fun _ => True) (fun s => s) (fun _ s => s) ∧
    Unchecked CandleKey.codec CandleKey.Fits CandleKey.symbol (fun key s => { key with symbol := s }) ∧
    Unchecked Candle.codec Candle.Fits Candle.symbol (fun c s => { c with symbol := s }) ∧
    Unchecked Tick.codec (fun _ => True) Tick.symbol (fun tick s => { tick with symbol := s }) ∧
    Unchecked PublicTrade.codec PublicTrade.Fits PublicTrade.symbol
      (fun report s => { report with symbol := s }) ∧
    Unchecked Depth.codec Depth.Fits Depth.symbol (fun book s => { book with symbol := s }) ∧
    Unchecked Ticker.codec Ticker.Fits Ticker.symbol (fun stats s => { stats with symbol := s }) ∧
    Checked ((Gateway.create settings (.empty now wall ids)).service.run commands) := by
  refine ⟨Symbol.exists_parse?_iff, Symbol.exists_ofPair?_iff, Symbol.decode_codec_iff,
    Symbol.unchecked, CandleKey.unchecked, Candle.unchecked, Tick.unchecked, PublicTrade.unchecked,
    Depth.unchecked, Ticker.unchecked, ?_⟩
  have named := (named_create settings now wall ids).run (sound_create settings now wall ids) commands
  exact named.checked (sound_run settings now wall ids commands)

end Service

end CandleFeed
