import CandleFeed.Proofs.Candle
import CandleFeed.Proofs.Store.KeyOrder
import Mathlib.Data.List.Induction

namespace CandleFeed

structure Upsert where
  candle : Candle
  fits : candle.Fits
  now : Instant

namespace Rows

def run (ids : Nat → Uuid) (upserts : List Upsert) : Rows :=
  upserts.foldl (fun r u => (r.upsert u.now u.candle).1) (.empty ids)

def last? (upserts : List Upsert) (key : CandleKey) : Option Candle :=
  (upserts.reverse.find? fun u => u.candle.key = key).map Upsert.candle

structure Filed (r : Rows) : Prop where
  keyed : ∀ key row, r.get? key = some row → row.key = key
  opens_low : ∀ key row, r.get? key = some row → Text.minInt64 ≤ row.openTime
  opens_high : ∀ key row, r.get? key = some row → row.openTime ≤ Text.maxInt64

structure Answers (r : Rows) (symbol : Symbol) (interval : Interval) (rows : List Candle) :
    Prop where
  mem_iff : ∀ row, row ∈ rows ↔
    r.get? row.key = some row ∧ row.symbol = symbol ∧ row.interval = interval
  ascending : rows.Pairwise fun a b => a.openTime < b.openTime
  range : ∀ start stop limit, r.range symbol interval start stop limit =
    (rows.filter fun row => start ≤ row.openTime ∧ row.openTime < stop).take limit
  range_empty : ∀ start stop limit, stop ≤ start →
    r.range symbol interval start stop limit = []
  latest : ∀ limit, r.latest symbol interval limit = rows.reverse.take limit
  count : r.count symbol interval = rows.length

variable {r : Rows} {ids : Nat → Uuid}

theorem run_append (upserts : List Upsert) (u : Upsert) :
    run ids (upserts ++ [u]) = ((run ids upserts).upsert u.now u.candle).1 :=
  List.foldl_append

theorem last?_append (upserts : List Upsert) (u : Upsert) (key : CandleKey) :
    last? (upserts ++ [u]) key =
      if key = u.candle.key then some u.candle else last? upserts key := by
  unfold last?
  rw [List.reverse_append, List.reverse_singleton, List.singleton_append, List.find?_cons]
  by_cases same : key = u.candle.key
  · simp [same]
  · have other : u.candle.key ≠ key := fun h => same h.symm
    simp [same, other]

theorem unstamped_rowFor (r : Rows) (now : Instant) (candle : Candle) :
    (r.rowFor now candle).unstamped = candle.unstamped := rfl

theorem get?_run (upserts : List Upsert) (key : CandleKey) :
    ((run ids upserts).get? key).map Candle.unstamped = (last? upserts key).map Candle.unstamped := by
  induction upserts using List.reverseRecOn with
  | nil => rfl
  | append_singleton upserts u ih =>
      rw [run_append, get?_upsert, last?_append]
      split
      · exact congrArg some (unstamped_rowFor _ _ _)
      · exact ih

theorem filed_empty : (empty ids).Filed where
  keyed _ _ found := by cases found
  opens_low _ _ found := by cases found
  opens_high _ _ found := by cases found

theorem Filed.upsert (filed : r.Filed) (u : Upsert) : (r.upsert u.now u.candle).1.Filed where
  keyed := forall_upsert filed.keyed (key_rowFor _ _ _)
  opens_low := forall_upsert filed.opens_low u.fits.opens_low
  opens_high := forall_upsert filed.opens_high u.fits.opens_high

theorem filed_run (upserts : List Upsert) : (run ids upserts).Filed := by
  induction upserts using List.reverseRecOn with
  | nil => exact filed_empty
  | append_singleton upserts u ih =>
      rw [run_append]
      exact ih.upsert u

theorem mem_ordered {entry : CandleKey × Candle} :
    entry ∈ r.ordered ↔ r.get? entry.1 = some entry.2 := by
  unfold ordered
  rw [List.mem_mergeSort]
  exact Table.mem_iff_get? _ _ _

theorem ordered_ascending (r : Rows) : r.ordered.Pairwise fun a b => a.1.lt b.1 = true := by
  have sorted : r.ordered.Pairwise fun a b => a.1.le b.1 = true := by
    unfold ordered
    apply List.pairwise_mergeSort
    · exact fun a b c => CandleKey.le_trans a.1 b.1 c.1
    · exact fun a b => CandleKey.le_total a.1 b.1
  have distinct : (r.ordered.map Prod.fst).Nodup :=
    ((List.mergeSort_perm _ _).map Prod.fst).nodup_iff.mpr r.table.distinct
  apply (sorted.and (List.pairwise_map.mp distinct)).imp
  rintro a b ⟨less, apart⟩
  exact CandleKey.lt_of_le_of_ne less apart

variable {low high : CandleKey} {closed : Bool}

theorem mem_between {row : Candle} (filed : r.Filed) :
    row ∈ r.between low high closed ↔ r.get? row.key = some row ∧ low.le row.key = true ∧
      (if closed then row.key.le high else row.key.lt high) = true := by
  unfold between
  simp only [List.mem_map, List.mem_filter, mem_ordered, Bool.and_eq_true]
  constructor
  · rintro ⟨⟨key, own⟩, ⟨found, inside⟩, rfl⟩
    obtain rfl := filed.keyed key own found
    exact ⟨found, inside⟩
  · rintro ⟨found, inside⟩
    exact ⟨(row.key, row), ⟨found, inside⟩, rfl⟩

theorem between_ascending (filed : r.Filed) :
    (r.between low high closed).Pairwise fun a b => a.key.lt b.key = true := by
  have entries : (r.ordered.filter fun entry => low.le entry.1 &&
      if closed then entry.1.le high else entry.1.lt high).Pairwise fun a b => a.1.lt b.1 = true :=
    r.ordered_ascending.sublist List.filter_sublist
  refine List.pairwise_map.mpr (entries.imp_of_mem ?_)
  intro a b memA memB less
  rw [filed.keyed a.1 a.2 (mem_ordered.mp (List.mem_filter.mp memA).1),
    filed.keyed b.1 b.2 (mem_ordered.mp (List.mem_filter.mp memB).1)]
  exact less

variable {symbol : Symbol} {interval : Interval}

theorem mem_series {row : Candle} (filed : r.Filed) :
    row ∈ r.series symbol interval ↔
      r.get? row.key = some row ∧ row.symbol = symbol ∧ row.interval = interval := by
  unfold series
  rw [mem_between filed]
  constructor
  · rintro ⟨found, inside⟩
    obtain ⟨own, length, -⟩ := CandleKey.between_iff.mp inside
    exact ⟨found, own, length⟩
  · rintro ⟨found, own, length⟩
    exact ⟨found, CandleKey.between_iff.mpr
      ⟨own, length, filed.opens_low _ _ found, filed.opens_high _ _ found⟩⟩

theorem series_ascending (filed : r.Filed) :
    (r.series symbol interval).Pairwise fun a b => a.openTime < b.openTime := by
  refine (between_ascending filed).imp_of_mem ?_
  intro a b memA memB less
  obtain ⟨-, ownA, lengthA⟩ := (mem_series filed).mp memA
  obtain ⟨-, ownB, lengthB⟩ := (mem_series filed).mp memB
  unfold Candle.key at less
  rw [ownA, lengthA, ownB, lengthB] at less
  exact CandleKey.mk_lt_mk.mp less

theorem between_eq_filter (filed : r.Filed) (start stop : Int) :
    r.between ⟨symbol, interval, start⟩ ⟨symbol, interval, stop⟩ false =
      (r.series symbol interval).filter fun row => start ≤ row.openTime ∧ row.openTime < stop := by
  unfold series between
  rw [List.filter_map, List.filter_filter]
  congr 1
  apply List.filter_congr
  rintro ⟨key, row⟩ mem
  have found := mem_ordered.mp mem
  obtain rfl := filed.keyed key row found
  rw [Bool.eq_iff_iff]
  simp only [Function.comp_apply, Bool.and_eq_true, decide_eq_true_eq, if_true, if_false,
    Bool.false_eq_true, CandleKey.between_iff, CandleKey.between_open_iff]
  constructor
  · rintro ⟨own, length, inside⟩
    exact ⟨inside, own, length, filed.opens_low _ _ found, filed.opens_high _ _ found⟩
  · rintro ⟨inside, own, length, -⟩
    exact ⟨own, length, inside⟩

theorem range_eq (filed : r.Filed) (start stop : Int) (limit : Nat) :
    r.range symbol interval start stop limit =
      ((r.series symbol interval).filter fun row =>
        start ≤ row.openTime ∧ row.openTime < stop).take limit := by
  unfold range
  split
  · have none : (r.series symbol interval).filter
        (fun row => decide (start ≤ row.openTime ∧ row.openTime < stop)) = [] := by
      rw [List.filter_eq_nil_iff]
      intro row _
      simp only [decide_eq_true_eq]
      omega
    rw [none, List.take_nil]
  · rw [between_eq_filter filed]

theorem Filed.answers (filed : r.Filed) (symbol : Symbol) (interval : Interval) :
    r.Answers symbol interval (r.series symbol interval) where
  mem_iff _ := mem_series filed
  ascending := series_ascending filed
  range := range_eq filed
  range_empty _ _ _ order := if_pos order
  latest _ := rfl
  count := rfl

end Rows

end CandleFeed
