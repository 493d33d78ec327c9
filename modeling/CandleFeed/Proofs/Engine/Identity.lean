import CandleFeed.Proofs.Engine.Containment
import CandleFeed.Proofs.Engine.Stepwise
import CandleFeed.Proofs.Store.Identity

namespace CandleFeed

theorem stepwise_keeps : Stepwise fun s after => s.rows.Keeps after.rows where
  refl s := Rows.Keeps.refl s.rows
  trans := Rows.Keeps.trans
  lookup s symbol interval bucket seed := by
    rcases s.getOrCreate_cache symbol interval bucket seed with same | evicted
    · rw [same]
      exact Rows.Keeps.refl s.rows
    · rw [evicted]
      exact Rows.Keeps.refl s.rows
  write ok := by
    rw [(Store.rows_persist ok).2]
    exact Rows.keeps_upsert _ _ _

namespace Engine
open Store

variable {e e' : Engine} {tick : Tick} {i : Interval}

theorem keeps_step (e : Engine) (command : Command) :
    e.store.rows.Keeps (e.step command).store.rows := by
  cases command with
  | ingest tick nanos => exact stepwise_keeps.ingest e tick nanos
  | complete key => exact stepwise_keeps.markCompleted e key
  | advance span wall => exact Rows.Keeps.refl e.store.rows
  | purge => exact Rows.Keeps.refl e.store.rows

theorem current_plain (identified : e.store.Identified) (tick : Tick) (i : Interval)
    (missing : e.store.rows.get? (keyOf tick i) = none) : (e.current tick i).id = none := by
  unfold current
  rw [identified.cached?_of_missing missing, missing]
  rfl

theorem identified_store? (identified : e.store.Identified) (positive : .zero < tick.price)
    {candle row : Candle} {origin : Origin} (storable : candle.Storable)
    (plain : e.store.rows.get? candle.key = none → candle.id = none)
    (ok : e.store? tick candle origin = .ok (e', row)) : e'.store.Identified := by
  obtain ⟨traded, store, outcome, written, rfl⟩ := store?_parts ok
  have keyed := Candle.key_applyTrade outcome
  have id : traded.id = candle.id := by
    obtain ⟨volume, amount, quoteAmount, -, -, -, rfl⟩ := Candle.applyTrade_eq_ok outcome
    rfl
  exact identified.persist (storable.applyTrade positive outcome) (keyed ▸ id ▸ plain) written

theorem identified_aggregate (identified : e.store.Identified) (positive : .zero < tick.price)
    (i : Interval) : (e.aggregate tick i).1.store.Identified := by
  have kept := identified.getOrCreate tick.symbol i (i.bucket tick.time) tick.price
  have rows := e.store.spares_getOrCreate tick.symbol i (i.bucket tick.time) tick.price
  obtain ⟨keyed, storable⟩ := current_spec identified.toTidy positive i
  have plain := current_plain identified tick i
  rcases lookup_cases e tick i with ⟨-, after, cause, opened⟩ | ⟨-, after, origin, opened⟩
  · rw [opened] at kept
    rw [aggregate_of_error opened]
    exact kept
  · rw [opened] at kept rows
    rw [aggregate_of_ok opened]
    split
    · exact kept
    · rename_i ok
      refine identified_store? kept positive storable ?_ ok
      rw [keyed]
      intro missing
      exact plain ((rows.rows _ trivial).symm.trans missing)

theorem identified_ingest (identified : e.store.Identified) (tick : Tick) (nanos : Nat) :
    (e.ingest tick nanos).1.store.Identified := by
  cases valid : tick.validate with
  | error cause =>
      rw [ingest_of_invalid valid]
      exact identified
  | ok =>
      obtain ⟨state, all, ingested⟩ := ingest_induction
        (motive := fun _ state => state.1.store.Identified) identified
        (fun _ before => store_aggregateNext tick _ _ ▸ identified_aggregate before (price_pos valid) _)
        valid nanos
      rw [ingested]
      exact all

theorem identified_markCompleted (identified : e.store.Identified) (key : CandleKey) :
    (e.markCompleted key).1.store.Identified := by
  unfold markCompleted
  dsimp only
  split
  · exact identified
  · exact identified
  · rename_i row found
    have present : e.store.rows.get? key = some row := get?_of_getRow found
    have stored := identified.storable key row present
    have keyed : Candle.key { row with completed := true } = key := identified.keyed key row present
    have storable : Candle.Storable { row with completed := true } := { stored with }
    split
    · exact identified
    · rename_i written
      refine identified.persist storable ?_ written
      intro missing
      rw [keyed] at missing
      cases present.symm.trans missing

theorem identified_step (identified : e.store.Identified) (command : Command) :
    (e.step command).store.Identified := by
  cases command with
  | ingest tick nanos => exact identified_ingest identified tick nanos
  | complete key => exact identified_markCompleted identified key
  | advance span wall => exact identified.of_fewer rfl fun _ _ found => found
  | purge => exact identified.of_fewer rfl fun _ _ found => get?_purge found

end Engine

end CandleFeed
