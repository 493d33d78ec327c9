import CandleFeed.Proofs.Service.Containment

namespace CandleFeed.Http

structure CandleQuery.Names (q : CandleQuery) (symbol : Symbol) (interval : Interval) (limit : Nat) :
    Prop where
  symbol : Symbol.ofPair? q.symbol = some symbol
  interval : Interval.ofCode? q.interval = some interval
  given : limit = q.limit.getD 100
  limit_pos : 1 ≤ limit
  limit_le : limit ≤ 1000

structure CandleQuery.Answered (q : CandleQuery) (limit : Nat) (rows found : List Candle) :
    Prop where
  few : found.length ≤ limit
  subset : found ⊆ rows
  times : q.startTime.isSome = q.endTime.isSome
  newest : q.startTime = none → found = rows.reverse.take limit ∧
    found.Pairwise fun a b => b.openTime < a.openTime
  oldest : ∀ start stop, q.startTime = some start → q.endTime = some stop → start < stop ∧
    found = (rows.filter fun row => start ≤ row.openTime ∧ row.openTime < stop).take limit ∧
    (found.Pairwise fun a b => a.openTime < b.openTime) ∧
    ∀ row ∈ found, start ≤ row.openTime ∧ row.openTime < stop

theorem exists_of_bind_ok {first : Except ε α} {next : α → Except ε β} {b : β}
    (ok : first >>= next = .ok b) : ∃ a, first = .ok a ∧ next a = .ok b := by
  cases first with
  | error cause => cases ok
  | ok a => exact ⟨a, rfl, ok⟩

theorem readSymbol_ok {pair : String} {symbol : Symbol} (ok : readSymbol pair = .ok symbol) :
    Symbol.ofPair? pair = some symbol := by
  unfold readSymbol at ok
  split at ok
  · cases ok
    assumption
  · cases ok

theorem readInterval_ok {code : String} {interval : Interval}
    (ok : readInterval code = .ok interval) : Interval.ofCode? code = some interval := by
  unfold readInterval at ok
  split at ok
  · cases ok
    assumption
  · cases ok

theorem readLimit_ok {given : Option Nat} {limit : Nat} (ok : readLimit given = .ok limit) :
    limit = given.getD 100 ∧ 1 ≤ limit ∧ limit ≤ 1000 := by
  unfold readLimit CandleQuery.standardLimit CandleQuery.maxLimit at ok
  dsimp only at ok
  split at ok
  · cases ok
  · cases ok
    exact ⟨rfl, by omega, by omega⟩

theorem query_ok {store : Store} {interval : Interval} {run : Rows → α} {a : α}
    (ok : (store.query interval run).mapError RequestError.ofStore = .ok a) :
    a = run store.rows := by
  unfold Store.query at ok
  split at ok <;> cases ok
  rfl

section
variable {store : Store} {symbol : Symbol} {interval : Interval} {limit : Nat} {found : List Candle}

theorem runQuery_ok {startTime endTime : Option Int}
    (ok : runQuery store symbol interval limit startTime endTime = .ok found) :
    (startTime = none ∧ endTime = none ∧ found = store.rows.latest symbol interval limit) ∨
      ∃ start stop, startTime = some start ∧ endTime = some stop ∧ start < stop ∧
        found = store.rows.range symbol interval start stop limit := by
  cases startTime with
  | none =>
      cases endTime with
      | none => exact .inl ⟨rfl, rfl, query_ok ok⟩
      | some stop => cases ok
  | some start =>
      cases endTime with
      | none => cases ok
      | some stop =>
          simp only [runQuery] at ok
          split at ok
          · cases ok
          · exact .inr ⟨start, stop, rfl, rfl, by omega, query_ok ok⟩

theorem findCandles_ok {q : CandleQuery} (ok : findCandles store q = .ok found) :
    ∃ symbol interval limit, q.Names symbol interval limit ∧
      runQuery store symbol interval limit q.startTime q.endTime = .ok found := by
  unfold findCandles at ok
  obtain ⟨symbol, symbolRead, ok⟩ := exists_of_bind_ok ok
  obtain ⟨interval, intervalRead, ok⟩ := exists_of_bind_ok ok
  obtain ⟨limit, limitRead, ok⟩ := exists_of_bind_ok ok
  obtain ⟨given, positive, bounded⟩ := readLimit_ok limitRead
  exact ⟨symbol, interval, limit, ⟨readSymbol_ok symbolRead, readInterval_ok intervalRead, given,
    positive, bounded⟩, ok⟩

theorem answered_of_runQuery {q : CandleQuery} {rows : List Candle}
    (answers : store.rows.Answers symbol interval rows)
    (ok : runQuery store symbol interval limit q.startTime q.endTime = .ok found) :
    q.Answered limit rows found := by
  rcases runQuery_ok ok with ⟨noStart, noEnd, rfl⟩ | ⟨start, stop, starts, ends, order, rfl⟩
  · rw [answers.latest]
    have part := List.take_sublist limit rows.reverse
    constructor
    case few => exact List.length_take_le _ _
    case subset => exact fun row mem => List.mem_reverse.mp (part.subset mem)
    case times => rw [noStart, noEnd]
    case newest => exact fun _ => ⟨rfl, (List.pairwise_reverse.mpr answers.ascending).sublist part⟩
    case oldest => simp [noStart]
  · rw [answers.range]
    have part := List.take_sublist limit
      (rows.filter fun row => start ≤ row.openTime ∧ row.openTime < stop)
    constructor
    case few => exact List.length_take_le _ _
    case subset => exact fun row mem => (List.mem_filter.mp (part.subset mem)).1
    case times => rw [starts, ends]; rfl
    case newest => simp [starts]
    case oldest =>
      intro start' stop' starts' ends'
      obtain rfl : start = start' := Option.some.inj (starts.symm.trans starts')
      obtain rfl : stop = stop' := Option.some.inj (ends.symm.trans ends')
      refine ⟨order, rfl, answers.ascending.sublist (part.trans List.filter_sublist), ?_⟩
      intro row mem
      simpa using (List.mem_filter.mp (part.subset mem)).2

end

variable {s : Service} {call : Call}

theorem findCandles_of_candles (success : (candles s call).status = 200) :
    ∃ q found, CandleQuery.ofForm (Form.fields call.target.query) = .ok q ∧
      findCandles s.store q = .ok found ∧ candles s call = .ok (Candle.codec.list.write found) := by
  unfold candles at success ⊢
  split at success
  · cases success
  · rename_i q read
    split at success
    · rename_i cause refused
      cases cause <;> cases success
    · rename_i found ok
      exact ⟨q, found, read, ok, rfl⟩

theorem respond_candles (get : call.method = "GET") (path : call.target.path = "/api/v1/klines")
    {wsPath : String} {nanos : Nat} (success : (respond s wsPath call nanos).2.status = 200) :
    ∃ q found, CandleQuery.ofForm (Form.fields call.target.query) = .ok q ∧
      findCandles s.store q = .ok found ∧
      respond s wsPath call nanos = (s, .ok (Candle.codec.list.write found)) := by
  have known : Route.fixed.lookup "/api/v1/klines" = some .candles := by decide
  by_cases same : wsPath = "/api/v1/klines"
  · have refused : respond s wsPath call nanos = (s, .bare 400) := by
      simp [respond, get, path, Route.atPath, known, same, Route.methods, run]
    rw [refused] at success
    cases success
  · have granted : respond s wsPath call nanos = (s, candles s call) := by
      simp [respond, get, path, Route.atPath, known, same, Route.methods, run]
    rw [granted] at success ⊢
    obtain ⟨q, found, read, ok, answer⟩ := findCandles_of_candles success
    exact ⟨q, found, read, ok, by rw [answer]⟩

/-- The rows that the table answers with are those of the series, whatever was upserted: in the time
that is asked for and the earliest first, or the latest first. So a call that succeeds has candles
of its series, in that order, and no more than its limit. -/
theorem series_answered :
    (∀ (ids : Nat → Uuid) (upserts : List Upsert) (symbol : Symbol) (interval : Interval),
      (∀ key, ((Rows.run ids upserts).get? key).map Candle.unstamped =
        (Rows.last? upserts key).map Candle.unstamped) ∧
      (Rows.run ids upserts).Filed ∧
      ∃ rows, (Rows.run ids upserts).Answers symbol interval rows) ∧
    ∀ (settings : Settings) (now : Nat) (wall : Instant) (ids : Nat → Uuid) (trials : List Service.Trial)
      (wsPath : String) (call : Call) (nanos : Nat),
      let s := (Gateway.create settings (.empty now wall ids)).service.endure trials
      call.method = "GET" → call.target.path = "/api/v1/klines" →
      (respond s wsPath call nanos).2.status = 200 →
      ∃ q symbol interval limit rows found,
        CandleQuery.ofForm (Form.fields call.target.query) = .ok q ∧
        q.Names symbol interval limit ∧ s.store.rows.Answers symbol interval rows ∧
        q.Answered limit rows found ∧
        respond s wsPath call nanos = (s, .ok (Candle.codec.list.write found)) := by
  constructor
  · intro ids upserts symbol interval
    have filed : (Rows.run ids upserts).Filed := Rows.filed_run upserts
    exact ⟨Rows.get?_run upserts, filed, _, filed.answers symbol interval⟩
  · intro settings now wall ids trials wsPath call nanos s get path success
    obtain ⟨q, found, read, ok, answer⟩ := respond_candles get path success
    obtain ⟨symbol, interval, limit, names, ran⟩ := findCandles_ok ok
    have answers := (Service.tidy_endure settings now wall ids trials).filed.answers symbol interval
    exact ⟨q, symbol, interval, limit, _, found, read, names, answers,
      answered_of_runQuery answers ran, answer⟩

def neighbouringTrades : List Service.Trial :=
  let one := Decimal.powerOfTen 0 Decimal.zero_le_maxScale
  [.ingest ⟨⟨"BTC-USD"⟩, one, one, .epoch⟩ 0, .ingest ⟨⟨"BTC-USDT"⟩, one, one, .epoch⟩ 0]

def callForCandles : Call where
  method := "GET"
  target := ⟨"/api/v1/klines", "symbol=BTC/USD&interval=1m&limit=2&startTime=0&endTime=60".toList⟩
  contentType := none
  body := []

theorem neighbouring_series_answered :
    let s := (Gateway.create .standard (.empty 0 .epoch Uuid.serial)).service.endure neighbouringTrades
    (respond s "/ws" callForCandles 0).2.status = 200 ∧
      ∃ q symbol interval limit rows found,
        CandleQuery.ofForm (Form.fields callForCandles.target.query) = .ok q ∧
        q.Names symbol interval limit ∧ s.store.rows.Answers symbol interval rows ∧
        q.Answered limit rows found ∧
        respond s "/ws" callForCandles 0 = (s, .ok (Candle.codec.list.write found)) := by
  have success : (respond ((Gateway.create .standard (.empty 0 .epoch Uuid.serial)).service.endure
      neighbouringTrades) "/ws" callForCandles 0).2.status = 200 := by decide +kernel
  exact ⟨success, series_answered.2 .standard 0 .epoch Uuid.serial neighbouringTrades "/ws" callForCandles 0
    rfl rfl success⟩

end CandleFeed.Http
