import CandleFeed.Proofs.Engine.Containment
import Mathlib.Algebra.BigOperators.Group.List.Basic
import Mathlib.Algebra.Ring.Nat

namespace CandleFeed

theorem sum_putEntry {κ α : Type} [DecidableEq κ] (weight : α → Nat) (key : κ) (value : α)
    (entries : List (κ × α)) :
    ((putEntry key value entries).map fun entry => weight entry.2).sum +
        ((entries.lookup key).map weight).getD 0 =
      (entries.map fun entry => weight entry.2).sum + weight value := by
  induction entries with
  | nil => simp [putEntry]
  | cons entry rest ih =>
      obtain ⟨own, mine⟩ := entry
      by_cases same : own = key
      · subst same
        simp [putEntry]
        omega
      · have other : key ≠ own := fun h => same h.symm
        simp only [putEntry, same, if_false, List.map_cons, List.sum_cons,
          Table.lookup_cons_ite, other]
        omega

theorem Table.sum_insert {κ α : Type} [DecidableEq κ] (t : Table κ α) (weight : α → Nat) (key : κ)
    (value : α) :
    ((t.insert key value).values.map weight).sum + ((t.get? key).map weight).getD 0 =
      (t.values.map weight).sum + weight value := by
  have sum := sum_putEntry weight key value t.entries
  unfold Table.values
  rw [List.map_map, List.map_map]
  exact sum

/-- A sum of words of 64 bits after so many more trades. Any of the words may have begun anew. -/
structure Grown (before trades after : Nat) : Prop where
  le : after ≤ before + trades
  word : after % UInt64.size = (before + trades) % UInt64.size

theorem Grown.refl (n : Nat) : Grown n 0 n :=
  ⟨Nat.le_refl _, rfl⟩

theorem Grown.trans {a b c m n : Nat} (first : Grown a m b) (second : Grown b n c) :
    Grown a (m + n) c where
  le := by have := first.le; have := second.le; omega
  word := by rw [second.word, Nat.add_mod, first.word, ← Nat.add_mod, Nat.add_assoc]

theorem Grown.eq_of_lt {trades after : Nat} (grown : Grown 0 trades after)
    (few : trades < UInt64.size) : after = trades := by
  have le := grown.le
  have word := grown.word
  rw [Nat.zero_add] at le word
  rwa [Nat.mod_eq_of_lt few, Nat.mod_eq_of_lt (by omega)] at word

namespace Rows

def told (r : Rows) (i : Interval) : Nat :=
  ((r.table.values.filter fun row => row.interval = i).map Candle.tradeCount).sum

def share (i : Interval) (row : Candle) : Nat :=
  if row.interval = i then row.tradeCount else 0

theorem told_eq (r : Rows) (i : Interval) : r.told i = (r.table.values.map (share i)).sum := by
  unfold told
  induction r.table.values with
  | nil => rfl
  | cons row rest ih =>
      by_cases own : row.interval = i
      · simp [share, own, ih]
      · simp [share, own, ih]

theorem told_insert {r r' : Rows} {key : CandleKey} {row : Candle}
    (rows : r'.table = r.table.insert key row) (i : Interval) :
    r'.told i + ((r.get? key).map (share i)).getD 0 = r.told i + share i row := by
  rw [told_eq, told_eq, rows]
  exact r.table.sum_insert (share i) key row

end Rows

namespace Engine
open Store

variable {e e' : Engine} {tick : Tick} {i : Interval}

theorem origin_of_getOrCreate {s after : Store} (coherent : s.Coherent) {symbol : Symbol}
    {interval : Interval} {bucket : Bucket} {seed : Decimal} {candle : Candle} {origin : Origin}
    (opened : s.getOrCreate symbol interval bucket seed = (after, .ok (candle, origin))) :
    origin = .created ↔ s.rows.get? ⟨symbol, interval, bucket.opening⟩ = none := by
  have found := s.getOrCreate_found symbol interval bucket seed
  rw [opened] at found
  rcases found with ⟨own, cached, found⟩ | ⟨-, ⟨cause, -, failed⟩ | ⟨-, found⟩⟩
  · cases found
    rcases coherent.cached?_cases ⟨symbol, interval, bucket.opening⟩ with
      missing | ⟨row, present, -⟩
    · rw [missing] at cached
      cases cached
    · simp [present]
  · cases failed
  · rcases found with ⟨row, present, found⟩ | ⟨missing, found⟩
    · cases found
      simp [present]
    · cases found
      simp [missing]

structure Booked (e : Engine) (row : Candle) (e' : Engine) : Prop where
  coherent : e'.store.Coherent
  rows : e'.store.rows.table = e.store.rows.table.insert row.key row
  count : row.tradeCount = (((e.store.rows.get? row.key).map Candle.tradeCount).getD 0 + 1) %
    UInt64.size
  metrics : e'.metrics = if (e.store.rows.get? row.key).isSome then e.metrics.candleUpdated
    else e.metrics.candleCreated

structure Unbooked (e e' : Engine) : Prop where
  coherent : e'.store.Coherent
  rows : e'.store.rows = e.store.rows
  metrics : e'.metrics = e.metrics

theorem store?_booked (coherent : e.store.Coherent) {candle : Candle} (storable : candle.Storable)
    (positive : .zero < tick.price) {origin : Origin}
    (new : origin = .created ↔ e.store.rows.get? candle.key = none)
    (count : candle.tradeCount =
      ((e.store.rows.get? candle.key).map Candle.tradeCount).getD 0) :
    (∃ cause, e.store? tick candle origin = .error cause) ∨
      ∃ e' row, e.store? tick candle origin = .ok (e', row) ∧ row.key = candle.key ∧
        Booked e row e' := by
  unfold store?
  cases outcome : candle.applyTrade tick.price tick.quantity with
  | error cause => exact .inl ⟨_, rfl⟩
  | ok traded =>
      have own := Candle.key_applyTrade outcome
      obtain ⟨after, row, ok, coherent', rows⟩ :=
        coherent.persist (storable.applyTrade positive outcome) (e.openTtl traded.interval)
      obtain ⟨made, -⟩ := rows_persist ok
      have key : row.key = candle.key := by rw [made, Rows.key_rowFor, own]
      dsimp only
      rw [ok]
      refine .inr ⟨_, row, rfl, key, ?_⟩
      constructor
      case coherent => exact coherent'
      case rows =>
        change after.rows.table = _
        rw [rows, key, ← own, made]
        rfl
      case count =>
        obtain ⟨volume, amount, quoteAmount, -, -, -, rfl⟩ := Candle.applyTrade_eq_ok outcome
        rw [key, made, ← count]
        rfl
      case metrics =>
        change countWritten e.metrics origin = _
        rw [key]
        cases present : e.store.rows.get? candle.key with
        | none =>
            obtain rfl := new.mpr present
            rfl
        | some old =>
            cases origin with
            | created => cases present.symm.trans (new.mp rfl)
            | _ => rfl

theorem tradeCount_of_found {fresh candle : Candle} {row : Option Candle}
    (found : Candle.Found fresh row candle) (empty : fresh.tradeCount = 0) :
    candle.tradeCount = (row.map Candle.tradeCount).getD 0 := by
  cases row with
  | none => exact (congrArg Candle.tradeCount found).trans empty
  | some row => rcases found with rfl | rfl <;> rfl

theorem aggregate_booked (coherent : e.store.Coherent) (positive : .zero < tick.price)
    (i : Interval) :
    (∃ cause, (e.aggregate tick i).2 = .error cause ∧ Unbooked e (e.aggregate tick i).1) ∨
      ∃ row, (e.aggregate tick i).2 = .ok row ∧ row.interval = i ∧
        Booked e row (e.aggregate tick i).1 := by
  obtain ⟨after, candle, origin, opened, kept, rows, found⟩ :=
    coherent.getOrCreate tick.symbol i (i.bucket tick.time) tick.price
  have new := origin_of_getOrCreate coherent opened
  have storable := found.storable (Candle.storable_openBucket _ _ _ positive)
    (coherent.storable (keyOf tick i))
  have keyed : candle.key = keyOf tick i := found.key (coherent.keyed (keyOf tick i))
  have new' : origin = .created ↔ after.rows.get? candle.key = none := by
    rw [keyed, rows]
    exact new
  have count : candle.tradeCount =
      ((after.rows.get? candle.key).map Candle.tradeCount).getD 0 := by
    rw [keyed, rows]
    exact tradeCount_of_found found rfl
  have stored := store?_booked (e := { e.touch tick.symbol i with store := after }) kept storable
    positive new' count
  rw [aggregate_of_ok opened]
  rcases stored with ⟨cause, refused⟩ | ⟨e', row, ok, key, booked⟩
  · rw [refused]
    exact .inl ⟨cause, rfl, kept, rows, rfl⟩
  · rw [ok]
    refine .inr ⟨row, rfl, congrArg CandleKey.interval (key.trans keyed), ?_⟩
    exact { booked with
      rows := by rw [booked.rows, rows]
      count := by rw [booked.count, rows]
      metrics := by rw [booked.metrics, rows]; rfl }

/-! ## What the rows tell -/

section
variable {row : Candle} (coherent : e.store.Coherent)
include coherent

theorem told_of_insert (rows : e'.store.rows.table = e.store.rows.table.insert row.key row)
    (i : Interval) :
    e'.store.rows.told i +
        (if row.interval = i then
          ((e.store.rows.get? row.key).map Candle.tradeCount).getD 0 else 0) =
      e.store.rows.told i + if row.interval = i then row.tradeCount else 0 := by
  have sum := Rows.told_insert rows i
  cases present : e.store.rows.get? row.key with
  | none =>
      rw [present] at sum
      simpa [Rows.share] using sum
  | some old =>
      have own : old.interval = row.interval :=
        congrArg CandleKey.interval (coherent.keyed row.key old present)
      rw [present] at sum
      simpa [Rows.share, own] using sum

theorem Booked.grown (booked : Booked e row e') (i : Interval) :
    Grown (e.store.rows.told i) (if row.interval = i then 1 else 0) (e'.store.rows.told i) := by
  have sum := told_of_insert coherent booked.rows i
  have wraps : UInt64.size = 18446744073709551616 := rfl
  rw [booked.count] at sum
  by_cases own : row.interval = i
  · simp only [own, if_true, wraps] at sum ⊢
    exact ⟨by omega, by rw [wraps]; omega⟩
  · simp only [own, if_false] at sum ⊢
    exact ⟨by omega, congrArg (· % UInt64.size) sum⟩

end

theorem Booked.size {row : Candle} (booked : Booked e row e') :
    e'.store.rows.table.size =
      e.store.rows.table.size + if (e.store.rows.get? row.key).isSome then 0 else 1 := by
  rw [booked.rows, Table.size_insert]
  unfold Rows.get?
  split <;> rfl

/-! ## All intervals -/

structure Balanced (e : Engine) (done : List Interval) (state : Engine × List Candle) : Prop where
  coherent : state.1.store.Coherent
  inOrder : (state.2.map Candle.interval).Sublist done
  told : ∀ i, Grown (e.store.rows.told i) ((state.2.map Candle.interval).count i)
    (state.1.store.rows.told i)
  counted : ∃ created updated failed, created + updated = state.2.length ∧
    state.2.length + failed = done.length ∧
    state.1.store.rows.table.size = e.store.rows.table.size + created ∧
    state.1.metrics =
      { e.metrics with
        intervalFailures := e.metrics.intervalFailures + .ofNat failed
        candlesCreated := e.metrics.candlesCreated + .ofNat created
        candlesUpdated := e.metrics.candlesUpdated + .ofNat updated }

section
variable {done : List Interval} {state : Engine × List Candle} (balanced : Balanced e done state)
include balanced

theorem Balanced.next_failed {cause : AggregationError}
    (refused : (state.1.aggregate tick i).2 = .error cause)
    (unbooked : Unbooked state.1 (state.1.aggregate tick i).1) :
    Balanced e (done ++ [i]) (aggregateNext tick state i) := by
  obtain ⟨created, updated, failed, written, all, size, metrics⟩ := balanced.counted
  rw [aggregateNext_error refused]
  constructor
  case coherent => exact unbooked.coherent
  case inOrder => exact balanced.inOrder.trans (List.sublist_append_left _ _)
  case told =>
    dsimp only
    rw [unbooked.rows]
    exact balanced.told
  case counted =>
    dsimp only
    rw [unbooked.rows, unbooked.metrics, metrics]
    refine ⟨created, updated, failed + 1, written, by simp; omega, size, ?_⟩
    simp [Metrics.intervalFailure, UInt64.ofNat_add, UInt64.add_assoc]

theorem Balanced.next_written {row : Candle} (ok : (state.1.aggregate tick i).2 = .ok row)
    (own : row.interval = i) (booked : Booked state.1 row (state.1.aggregate tick i).1) :
    Balanced e (done ++ [i]) (aggregateNext tick state i) := by
  obtain ⟨created, updated, failed, written, all, size, metrics⟩ := balanced.counted
  have size' := booked.size
  rw [aggregateNext_ok ok]
  constructor
  case coherent => exact booked.coherent
  case inOrder =>
    rw [List.map_append, List.map_singleton, own]
    exact balanced.inOrder.append_right [i]
  case told =>
    intro j
    rw [List.map_append, List.count_append, List.map_singleton, List.count_singleton]
    have grown := booked.grown balanced.coherent j
    simp only [beq_iff_eq]
    exact (balanced.told j).trans grown
  case counted =>
    dsimp only
    rw [size', booked.metrics, metrics]
    split
    · refine ⟨created, updated + 1, failed, by simp; omega, by simp; omega, by omega, ?_⟩
      simp [Metrics.candleUpdated, UInt64.ofNat_add, UInt64.add_assoc]
    · refine ⟨created + 1, updated, failed, by simp; omega, by simp; omega, by omega, ?_⟩
      simp [Metrics.candleCreated, UInt64.ofNat_add, UInt64.add_assoc]

end

theorem balanced_start (coherent : e.store.Coherent) : Balanced e [] (e, []) where
  coherent := coherent
  inOrder := List.nil_sublist _
  told i := .refl _
  counted := ⟨0, 0, 0, rfl, rfl, rfl, by simp⟩

theorem ingest_balanced (coherent : e.store.Coherent) (valid : tick.validate = .ok ()) (nanos : Nat) :
    ∃ state, Balanced e Interval.all state ∧
      e.ingest tick nanos =
        ({ state.1 with metrics := state.1.metrics.tradeIngested nanos }, state.2) := by
  refine ingest_induction (balanced_start coherent) ?_ valid nanos
  intro done i state new balanced
  rcases aggregate_booked balanced.coherent (price_pos valid) i with
    ⟨cause, refused, unbooked⟩ | ⟨row, ok, own, booked⟩
  · exact balanced.next_failed refused unbooked
  · exact balanced.next_written ok own booked

/-! ## Completion -/

theorem markCompleted_balanced (coherent : e.store.Coherent) (key : CandleKey) :
    let after := (e.markCompleted key).1
    after.store.Coherent ∧ after.store.rows.table.size = e.store.rows.table.size ∧
      (∀ i, after.store.rows.told i = e.store.rows.told i) ∧
      ((e.markCompleted key).2 = .ok none ∧ after.metrics = e.metrics ∨
        ∃ row, (e.markCompleted key).2 = .ok (some row) ∧
          after.metrics = e.metrics.candleCompleted) := by
  have read : (e.touch key.symbol key.interval).store.getRow key = .ok (e.store.rows.get? key) :=
    coherent.getRow key
  unfold markCompleted
  dsimp only
  rw [read]
  cases present : e.store.rows.get? key with
  | none => exact ⟨coherent, rfl, fun _ => rfl, .inl ⟨rfl, rfl⟩⟩
  | some row =>
      obtain rfl : row.key = key := coherent.keyed key row present
      let done : Candle := { row with completed := true }
      have stored := coherent.storable row.key row present
      have storable : done.Storable := { stored with }
      have touched : (e.touch row.key.symbol row.key.interval).store.Coherent := coherent
      obtain ⟨after, written, ok, coherent', rows⟩ := touched.persist storable
        (e.touch row.key.symbol row.key.interval).completedTtl
      obtain ⟨made, -⟩ := rows_persist ok
      have same : written.key = row.key := by rw [made]; rfl
      let persisted : Engine := { e with store := after }
      have table : persisted.store.rows.table = e.store.rows.table.insert written.key written := by
        change after.rows.table = _
        rw [rows, made]
        rfl
      dsimp only
      rw [ok]
      refine ⟨coherent', ?_, ?_, .inr ⟨written, rfl, rfl⟩⟩
      · change after.rows.table.size = _
        have found : e.store.rows.table.get? written.key = some row := by
          rw [same]
          exact present
        change persisted.store.rows.table.size = _
        rw [table, Table.size_insert, found]
        rfl
      · intro i
        have sum := told_of_insert coherent table i
        have count : written.tradeCount = row.tradeCount := by rw [made]; rfl
        rw [same, present, count] at sum
        change after.rows.told i = _
        simpa using sum

end Engine

end CandleFeed
