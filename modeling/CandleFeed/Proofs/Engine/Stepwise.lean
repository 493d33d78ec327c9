import CandleFeed.Engine

namespace CandleFeed

/-- A relation that each lookup and each write of a store keeps to. -/
structure Stepwise (R : Store → Store → Prop) : Prop where
  refl : ∀ s, R s s
  trans : ∀ {s s' s''}, R s s' → R s' s'' → R s s''
  lookup : ∀ (s : Store) symbol interval bucket seed,
    R s (s.getOrCreate symbol interval bucket seed).1
  write : ∀ {s after : Store} {candle row ttl}, s.persist candle ttl = .ok (after, row) → R s after

namespace Stepwise
open Engine

variable {R : Store → Store → Prop}

theorem store? (stepwise : Stepwise R) {e after : Engine} {tick : Tick} {candle row : Candle}
    {origin : Origin} (ok : e.store? tick candle origin = .ok (after, row)) :
    R e.store after.store := by
  obtain ⟨traded, store, -, written, rfl⟩ := store?_parts ok
  exact stepwise.write written

theorem aggregate (stepwise : Stepwise R) (e : Engine) (tick : Tick) (interval : Interval) :
    R e.store (e.aggregate tick interval).1.store := by
  have kept := stepwise.lookup e.store tick.symbol interval (interval.bucket tick.time) tick.price
  rcases opened : e.store.getOrCreate tick.symbol interval (interval.bucket tick.time) tick.price with
    ⟨store, cause | ⟨candle, origin⟩⟩
  · rw [opened] at kept
    rw [aggregate_of_error opened]
    exact kept
  · rw [opened] at kept
    rw [aggregate_of_ok opened]
    split
    · exact kept
    · rename_i written
      exact stepwise.trans kept (stepwise.store? written)

theorem foldl_aggregate (stepwise : Stepwise R) (tick : Tick) (intervals : List Interval)
    (state : Engine × List Candle) :
    R state.1.store (intervals.foldl (aggregateNext tick) state).1.store := by
  induction intervals generalizing state with
  | nil => exact stepwise.refl _
  | cons interval rest ih =>
      have first := stepwise.aggregate state.1 tick interval
      have same : (aggregateNext tick state interval).1.store =
          (state.1.aggregate tick interval).1.store := by
        unfold aggregateNext
        rcases state.1.aggregate tick interval with ⟨after, cause | row⟩ <;> rfl
      rw [← same] at first
      exact stepwise.trans first (ih _)

theorem ingest (stepwise : Stepwise R) (e : Engine) (tick : Tick) (nanos : Nat) :
    R e.store (e.ingest tick nanos).1.store := by
  have all := stepwise.foldl_aggregate tick Interval.all (e, [])
  unfold Engine.ingest
  generalize Interval.all.foldl (aggregateNext tick) (e, []) = done at all
  split
  · exact stepwise.refl _
  · exact all

theorem markCompleted (stepwise : Stepwise R) (e : Engine) (key : CandleKey) :
    R e.store (e.markCompleted key).1.store := by
  unfold Engine.markCompleted
  dsimp only
  split
  · exact stepwise.refl _
  · exact stepwise.refl _
  · split
    · exact stepwise.refl _
    · rename_i ok
      exact stepwise.write ok

end Stepwise

theorem stepwise_wall : Stepwise fun s after => after.wall = s.wall where
  refl _ := rfl
  trans first second := second.trans first
  lookup s symbol interval bucket seed := by
    rcases s.getOrCreate_cache symbol interval bucket seed with same | evicted
    · rw [same]
    · rw [evicted]
  write ok := (Store.persist_parts ok).2.2.2.1

end CandleFeed
