import CandleFeed.Proofs.Engine.Containment

namespace CandleFeed.Engine
open Store

structure Written (tick : Tick) (done : List Interval) (state : Engine × List Candle) : Prop where
  coherent : state.1.store.Coherent
  inOrder : (state.2.map Candle.interval).Sublist done
  stored : ∀ row ∈ state.2,
    row.key = keyOf tick row.interval ∧ state.1.store.rows.get? row.key = some row

theorem ingest_stored {e : Engine} (tidy : e.store.Tidy) {tick : Tick} {nanos : Nat} {row : Candle}
    (mem : row ∈ (e.ingest tick nanos).2) :
    row.key = keyOf tick row.interval ∧ (e.ingest tick nanos).1.store.rows.get? row.key = some row := by
  cases valid : tick.validate with
  | error cause =>
      rw [ingest_of_invalid valid] at mem
      cases mem
  | ok =>
      obtain ⟨state, contained, ingested⟩ := ingest_contained tidy valid nanos
      rw [ingested] at mem ⊢
      obtain ⟨own, -, stored⟩ := contained.written row mem
      exact ⟨own, stored⟩

theorem ingest_written {e : Engine} (coherent : e.store.Coherent) (tick : Tick) (nanos : Nat) :
    Written tick Interval.all (e.ingest tick nanos) := by
  refine ⟨(ingest_spec coherent tick nanos).coherent, ?_, fun row mem => ingest_stored coherent.tidy mem⟩
  cases valid : tick.validate with
  | error cause =>
      rw [ingest_of_invalid valid]
      exact List.nil_sublist _
  | ok =>
      obtain ⟨state, contained, ingested⟩ := ingest_contained coherent.tidy valid nanos
      rw [ingested, contained.intervals]
      exact List.filter_sublist

theorem markCompleted_stored {e : Engine} {key : CandleKey} {row : Candle}
    (completed : (e.markCompleted key).2 = .ok (some row)) :
    (e.markCompleted key).1.store.rows.get? row.key = some row := by
  unfold markCompleted at completed ⊢
  dsimp only at completed ⊢
  split
  · rename_i failed
    rw [failed] at completed
    cases completed
  · rename_i missing
    rw [missing] at completed
    cases completed
  · rename_i old found
    rw [found] at completed
    dsimp only at completed
    split
    · rename_i failed
      rw [failed] at completed
      cases completed
    · rename_i after stored ok
      rw [ok] at completed
      cases completed
      have own : row.key = Candle.key { old with completed := true } := by
        rw [(Store.rows_persist ok).1, Rows.key_rowFor]
      rw [own]
      exact Store.get?_rows_persist ok

end CandleFeed.Engine
