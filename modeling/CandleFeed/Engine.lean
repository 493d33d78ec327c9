import CandleFeed.Metrics
import CandleFeed.Settings
import CandleFeed.Store
import CandleFeed.Trade

namespace CandleFeed

inductive AggregationError
  | store (cause : StoreError)
  | invalidTrade (cause : InvalidTrade)
deriving DecidableEq

def AggregationError.message : AggregationError → String
  | store cause => "Store error: " ++ cause.message
  | invalidTrade cause => "Invalid trade: " ++ cause.reason

structure Series where
  symbol : Symbol
  interval : Interval
deriving DecidableEq

structure Engine where
  store : Store
  policy : CachePolicy
  series : List Series
  metrics : Metrics

namespace Engine

def create (store : Store) (policy : CachePolicy) : Engine :=
  ⟨store, policy, [], {}⟩

def advance (e : Engine) (span : Nat) : Engine :=
  { e with store := e.store.advance span }

def touch (e : Engine) (symbol : Symbol) (interval : Interval) : Engine :=
  { e with series := e.series.insert ⟨symbol, interval⟩ }

def openTtl (e : Engine) (interval : Interval) : Lifetime :=
  e.policy.openLifetime interval

def completedTtl (e : Engine) : Lifetime :=
  e.policy.completedLifetime

def countWritten (m : Metrics) : Origin → Metrics
  | .created => m.candleCreated
  | .cache | .durable => m.candleUpdated

def store? (e : Engine) (tick : Tick) (candle : Candle) (origin : Origin) :
    Except AggregationError (Engine × Candle) :=
  match candle.applyTrade tick.price tick.quantity with
  | .error cause => .error (.invalidTrade cause)
  | .ok candle =>
      match e.store.persist candle (e.openTtl candle.interval) with
      | .error cause => .error (.store cause)
      | .ok (store, row) =>
          .ok ({ e with store, metrics := countWritten e.metrics origin }, row)

def aggregate (e : Engine) (tick : Tick) (interval : Interval) :
    Engine × Except AggregationError Candle :=
  let e := e.touch tick.symbol interval
  let (store, found) :=
    e.store.getOrCreate tick.symbol interval (interval.bucket tick.time) tick.price
  let e := { e with store }
  match found with
  | .error cause => (e, .error (.store cause))
  | .ok (candle, origin) =>
      match e.store? tick candle origin with
      | .error cause => (e, .error cause)
      | .ok (e, row) => (e, .ok row)

def aggregateNext (tick : Tick) (state : Engine × List Candle) (interval : Interval) :
    Engine × List Candle :=
  match state.1.aggregate tick interval with
  | (e, .ok row) => (e, state.2 ++ [row])
  | (e, .error _) => ({ e with metrics := e.metrics.intervalFailure }, state.2)

/-- Folds a trade into all intervals, and answers with the rows written, shortest interval first.
`nanos` is the time that it took. -/
def ingest (e : Engine) (tick : Tick) (nanos : Nat) : Engine × List Candle :=
  match tick.validate with
  | .error _ => ({ e with metrics := e.metrics.rejectedTrade }, [])
  | .ok () =>
      let (e, written) := Interval.all.foldl (aggregateNext tick) (e, [])
      ({ e with metrics := e.metrics.tradeIngested nanos }, written)

def markCompleted (e : Engine) (key : CandleKey) :
    Engine × Except AggregationError (Option Candle) :=
  let e := e.touch key.symbol key.interval
  match e.store.getRow key with
  | .error cause => (e, .error (.store cause))
  | .ok none => (e, .ok none)
  | .ok (some row) =>
      match e.store.persist { row with completed := true } e.completedTtl with
      | .error cause => (e, .error (.store cause))
      | .ok (store, row) =>
          ({ e with store, metrics := e.metrics.candleCompleted }, .ok (some row))

section
variable {e after : Engine} {tick : Tick} {candle row : Candle} {interval : Interval}
  {origin : Origin} {store : Store}

theorem store?_parts (ok : e.store? tick candle origin = .ok (after, row)) :
    ∃ traded store, candle.applyTrade tick.price tick.quantity = .ok traded ∧
      e.store.persist traded (e.openTtl traded.interval) = .ok (store, row) ∧
      after = { e with store, metrics := countWritten e.metrics origin } := by
  unfold store? at ok
  split at ok
  · cases ok
  · rename_i traded folded
    split at ok
    · cases ok
    · rename_i store _ written
      cases ok
      exact ⟨traded, store, folded, written, rfl⟩

theorem aggregate_of_error {cause : StoreError}
    (opened : e.store.getOrCreate tick.symbol interval (interval.bucket tick.time) tick.price =
      (store, .error cause)) :
    e.aggregate tick interval =
      ({ e.touch tick.symbol interval with store }, .error (.store cause)) := by
  have same : (e.touch tick.symbol interval).store = e.store := rfl
  unfold aggregate
  dsimp only
  rw [same, opened]

theorem aggregate_of_ok
    (opened : e.store.getOrCreate tick.symbol interval (interval.bucket tick.time) tick.price =
      (store, .ok (candle, origin))) :
    e.aggregate tick interval =
      match Engine.store? { e.touch tick.symbol interval with store } tick candle origin with
      | .error cause => ({ e.touch tick.symbol interval with store }, .error cause)
      | .ok (after, row) => (after, .ok row) := by
  have same : (e.touch tick.symbol interval).store = e.store := rfl
  unfold aggregate
  dsimp only
  rw [same, opened]

end

theorem ingest_of_invalid {e : Engine} {tick : Tick} {cause : InvalidTrade}
    (invalid : tick.validate = .error cause) (nanos : Nat) :
    e.ingest tick nanos = ({ e with metrics := e.metrics.rejectedTrade }, []) := by
  simp [ingest, invalid]

end Engine

end CandleFeed
