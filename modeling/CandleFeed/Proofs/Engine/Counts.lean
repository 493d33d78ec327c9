import CandleFeed.Ingester
import CandleFeed.Proofs.Engine.Stepwise

namespace CandleFeed

namespace Engine

def counting (e : Engine) (m : Metrics) : Engine :=
  { e with metrics := m }

theorem store?_counting (e : Engine) (m : Metrics) (tick : Tick) (candle : Candle)
    (origin : Origin) :
    ∃ m', (e.counting m).store? tick candle origin =
      (e.store? tick candle origin).map fun (after, row) => (after.counting m', row) := by
  unfold store?
  cases candle.applyTrade tick.price tick.quantity with
  | error cause => exact ⟨m, rfl⟩
  | ok traded =>
      have same : (e.counting m).store.persist traded ((e.counting m).openTtl traded.interval) =
          e.store.persist traded (e.openTtl traded.interval) := rfl
      dsimp only
      rw [same]
      cases e.store.persist traded (e.openTtl traded.interval) with
      | error cause => exact ⟨m, rfl⟩
      | ok stored => exact ⟨countWritten m origin, rfl⟩

theorem aggregate_counting (e : Engine) (m : Metrics) (tick : Tick) (interval : Interval) :
    ∃ m', (e.counting m).aggregate tick interval =
      ((e.aggregate tick interval).1.counting m', (e.aggregate tick interval).2) := by
  unfold aggregate
  have touched : (e.counting m).touch tick.symbol interval =
      (e.touch tick.symbol interval).counting m := rfl
  have same (e : Engine) : (e.counting m).store = e.store := rfl
  have located (e : Engine) (store : Store) :
      ({ e.counting m with store := store } : Engine) = counting { e with store := store } m := rfl
  dsimp only
  rw [touched, same]
  generalize e.touch tick.symbol interval = e
  rcases e.store.getOrCreate tick.symbol interval (interval.bucket tick.time) tick.price with
    ⟨store, cause | ⟨candle, origin⟩⟩
  · exact ⟨m, rfl⟩
  · dsimp only
    rw [located]
    obtain ⟨m', counted⟩ := store?_counting { e with store := store } m tick candle origin
    rw [counted]
    cases store? { e with store := store } tick candle origin with
    | error cause => exact ⟨m, rfl⟩
    | ok stored => exact ⟨m', rfl⟩

theorem aggregateNext_counting (e : Engine) (m : Metrics) (tick : Tick) (written : List Candle)
    (interval : Interval) :
    ∃ m', aggregateNext tick (e.counting m, written) interval =
      ((aggregateNext tick (e, written) interval).1.counting m',
        (aggregateNext tick (e, written) interval).2) := by
  obtain ⟨m', counted⟩ := aggregate_counting e m tick interval
  unfold aggregateNext
  rw [counted]
  dsimp only
  rcases e.aggregate tick interval with ⟨after, cause | row⟩
  · exact ⟨m'.intervalFailure, rfl⟩
  · exact ⟨m', rfl⟩

theorem foldl_aggregate_counting (e : Engine) (m : Metrics) (tick : Tick) (written : List Candle)
    (intervals : List Interval) :
    ∃ m', intervals.foldl (aggregateNext tick) (e.counting m, written) =
      ((intervals.foldl (aggregateNext tick) (e, written)).1.counting m',
        (intervals.foldl (aggregateNext tick) (e, written)).2) := by
  induction intervals generalizing e m written with
  | nil => exact ⟨m, rfl⟩
  | cons interval rest ih =>
      obtain ⟨m', counted⟩ := aggregateNext_counting e m tick written interval
      rw [List.foldl_cons, List.foldl_cons, counted]
      exact ih _ m' _

theorem ingest_counting (e : Engine) (m : Metrics) (tick : Tick) (nanos : Nat) :
    ∃ m', (e.counting m).ingest tick nanos =
      ((e.ingest tick nanos).1.counting m', (e.ingest tick nanos).2) := by
  unfold ingest
  cases tick.validate with
  | error cause => exact ⟨m.rejectedTrade, rfl⟩
  | ok =>
      obtain ⟨m', counted⟩ := foldl_aggregate_counting e m tick [] Interval.all
      dsimp only
      rw [counted]
      generalize Interval.all.foldl (aggregateNext tick) (e, []) = done
      exact ⟨m'.tradeIngested nanos, rfl⟩

theorem markCompleted_counting (e : Engine) (m : Metrics) (key : CandleKey) :
    ∃ m', (e.counting m).markCompleted key =
      ((e.markCompleted key).1.counting m', (e.markCompleted key).2) := by
  unfold markCompleted
  have touched : (e.counting m).touch key.symbol key.interval =
      (e.touch key.symbol key.interval).counting m := rfl
  have same (e : Engine) : (e.counting m).store = e.store := rfl
  have ttl (e : Engine) : (e.counting m).completedTtl = e.completedTtl := rfl
  dsimp only
  rw [touched, same, ttl]
  generalize e.touch key.symbol key.interval = e
  rcases e.store.getRow key with cause | _ | row
  · exact ⟨m, rfl⟩
  · exact ⟨m, rfl⟩
  · dsimp only
    cases e.store.persist { row with completed := true } e.completedTtl with
    | error cause => exact ⟨m, rfl⟩
    | ok stored => exact ⟨m.candleCompleted, rfl⟩

theorem wall_ingest (e : Engine) (tick : Tick) (nanos : Nat) :
    (e.ingest tick nanos).1.store.wall = e.store.wall :=
  stepwise_wall.ingest e tick nanos

theorem wall_markCompleted (e : Engine) (key : CandleKey) :
    (e.markCompleted key).1.store.wall = e.store.wall :=
  stepwise_wall.markCompleted e key

end Engine

end CandleFeed
