import CandleFeed.Message

namespace CandleFeed

def Topic.published (symbol : Symbol) : List Topic :=
  Interval.all.map (kline symbol) ++ [trade symbol, depth symbol, ticker symbol, dayStats symbol]

theorem Topic.kline_eq (symbol : Symbol) (i : Interval) :
    kline symbol i = ⟨.kline, symbol, some i.code⟩ := by
  have named : i.code ≠ "" := by cases i <;> decide
  simp [kline, of, named]

def Payload.interval? : Payload → Option String
  | kline candle => some candle.interval.code
  | _ => none

theorem Payload.topic_eq (payload : Payload) :
    payload.topic = ⟨payload.channel, payload.symbol, payload.interval?⟩ := by
  cases payload with
  | kline candle => exact Topic.kline_eq candle.symbol candle.interval
  | _ => rfl

theorem Topic.mem_published_iff (topic : Topic) :
    topic ∈ published topic.symbol ↔
      if topic.channel = .kline then ∃ i : Interval, topic.interval = some i.code
      else topic.interval = none := by
  obtain ⟨channel, symbol, interval⟩ := topic
  have candles : ⟨channel, symbol, interval⟩ ∈ Interval.all.map (kline symbol) ↔
      channel = .kline ∧ ∃ i : Interval, interval = some i.code := by
    simp only [List.mem_map, kline_eq, mk.injEq, true_and, Interval.mem_all]
    constructor
    · rintro ⟨i, rfl, rfl⟩
      exact ⟨rfl, i, rfl⟩
    · rintro ⟨rfl, i, rfl⟩
      exact ⟨i, rfl, rfl⟩
  unfold published
  rw [List.mem_append, candles]
  cases channel <;> simp [trade, depth, ticker, dayStats, of]

namespace Request

theorem checkInterval_kline {interval : Option String}
    (ok : checkInterval .kline interval = .ok ()) : ∃ i : Interval, interval = some i.code := by
  unfold checkInterval at ok
  rw [if_pos rfl] at ok
  cases interval with
  | none => cases ok
  | some code =>
      cases found : Interval.ofCode? code with
      | none => simp [found] at ok
      | some i => exact ⟨i, congrArg some (Interval.ofCode?_eq_some_iff.mp found).symm⟩

theorem trimmed_of_given {parameter : Option String} {s : String} (found : given parameter = some s) :
    s ≠ "" ∧ Text.trim s = s := by
  obtain ⟨trimmed, nonempty⟩ := Option.filter_eq_some_iff.mp found
  obtain ⟨own, -, rfl⟩ := Option.map_eq_some_iff.mp trimmed
  exact ⟨by simpa using nonempty, Text.trim_trim own⟩

theorem of_given (channel : Channel) (symbol : Symbol) (parameter : Option String) :
    Topic.of channel symbol (given parameter) = ⟨channel, symbol, given parameter⟩ := by
  cases found : given parameter with
  | none => rfl
  | some s => simp [Topic.of, (trimmed_of_given found).1]

theorem topicOf_eq_ok_iff {raw : RawRequest} {t : Topic} :
    topicOf raw = .ok t ↔ given raw.channel = some t.channel.code ∧
      (∃ pair, given raw.symbol = some pair ∧ Symbol.ofPair? pair = some t.symbol) ∧
      checkInterval t.channel (given raw.interval) = .ok () ∧ given raw.interval = t.interval := by
  obtain ⟨channel, symbol, interval⟩ := t
  unfold topicOf
  cases given raw.channel with
  | none => simp
  | some code =>
      cases given raw.symbol with
      | none => simp
      | some pair =>
          simp only [Option.some.injEq, exists_eq_left']
          rw [eq_comm (a := code), ← Channel.ofCode?_eq_some_iff]
          cases Channel.ofCode? code with
          | none => simp
          | some own =>
              cases Symbol.ofPair? pair with
              | none => simp
              | some name =>
                  dsimp only
                  rw [of_given]
                  simp only [Option.some.injEq]
                  constructor
                  · intro ok
                    cases checked : checkInterval own (given raw.interval) with
                    | error cause =>
                        rw [checked] at ok
                        cases ok
                    | ok =>
                        rw [checked] at ok
                        cases ok
                        exact ⟨rfl, rfl, checked, rfl⟩
                  · rintro ⟨rfl, rfl, checked, rfl⟩
                    rw [checked]
                    rfl

theorem ofRaw_eq_ok_iff {raw : RawRequest} {request : Request} :
    ofRaw raw = .ok request ↔ ∃ type, raw.type = some type ∧
      match request with
      | .ping => MessageType.ofCode? type = some .ping
      | .subscribe t => MessageType.ofCode? type = some .subscribe ∧ topicOf raw = .ok t
      | .unsubscribe t => MessageType.ofCode? type = some .unsubscribe ∧ topicOf raw = .ok t := by
  unfold ofRaw
  cases raw.type with
  | none => simp
  | some type =>
      simp only [Option.some.injEq, exists_eq_left']
      cases MessageType.ofCode? type with
      | none => cases request <;> simp
      | some kind =>
          cases kind with
          | subscribe | unsubscribe => cases topicOf raw <;> cases request <;> simp [Except.map]
          | _ => cases request <;> simp

theorem parse_eq_ok_iff {text : String} {request : Request} :
    parse text = .ok request ↔
      ∃ raw, RawRequest.codec.decode text.toList = .ok raw ∧ ofRaw raw = .ok request := by
  unfold parse
  cases RawRequest.codec.decode text.toList <;> simp

theorem exists_topicOf_of_parse {text : String} {topic : Topic}
    (parsed : parse text = .ok (.subscribe topic)) : ∃ raw, topicOf raw = .ok topic := by
  obtain ⟨raw, -, ok⟩ := parse_eq_ok_iff.mp parsed
  obtain ⟨type, -, -, found⟩ := ofRaw_eq_ok_iff.mp ok
  exact ⟨raw, found⟩

theorem kline_interval_of_parse {text : String} {topic : Topic}
    (parsed : parse text = .ok (.subscribe topic)) (candles : topic.channel = .kline) :
    ∃ i : Interval, topic.interval = some i.code := by
  obtain ⟨raw, ok⟩ := exists_topicOf_of_parse parsed
  obtain ⟨-, -, checked, interval⟩ := topicOf_eq_ok_iff.mp ok
  rw [candles, interval] at checked
  exact checkInterval_kline checked

theorem mem_published_of_parse {text : String} {topic : Topic}
    (parsed : parse text = .ok (.subscribe topic)) :
    topic ∈ Topic.published topic.symbol ↔ topic.channel = .kline ∨ topic.interval = none := by
  rw [Topic.mem_published_iff]
  split
  · rename_i candles
    exact iff_of_true (kline_interval_of_parse parsed candles) (.inl candles)
  · rename_i other
    exact (or_iff_right other).symm

theorem exists_unpublished_subscription :
    ¬ ∀ text topic, parse text = .ok (.subscribe topic) → topic ∈ Topic.published topic.symbol := by
  intro heard
  have deaf : ¬ (⟨.depth, ⟨"BTC-USDT"⟩, some "1m"⟩ : Topic) ∈ Topic.published ⟨"BTC-USDT"⟩ := by
    decide
  apply deaf
  exact heard
    "\x7b\"type\":\"subscribe\",\"channel\":\"depth\",\"symbol\":\"BTC-USDT\",\"interval\":\"1m\"\x7d" _ rfl

end Request

end CandleFeed
