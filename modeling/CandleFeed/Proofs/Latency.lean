import CandleFeed.Metrics
import CandleFeed.Proofs.Recent
import Mathlib.Data.List.Sort

namespace CandleFeed

namespace Latency

variable {l : Latency} {limit : Nat} {samples : List Nat}

def recordAll (l : Latency) (samples : List Nat) : Latency :=
  samples.foldl record l

structure Retains (l : Latency) (limit : Nat) (samples : List Nat) : Prop where
  limited : l.limit = limit
  last : l.samples = samples.rtake (max 1 limit)

theorem retains_empty (limit : Nat) : (empty limit).Retains limit [] where
  limited := rfl
  last := (List.rtake_nil _).symm

theorem samples_record (l : Latency) (sample : Nat) :
    (l.record sample).samples =
      (if max 1 l.limit ≤ l.samples.length then l.samples.tail else l.samples) ++ [sample] := by
  unfold record
  dsimp only
  congr 1
  split
  · rename_i full
    rw [List.drop_one]
    split
    · rfl
    · rename_i room
      have nothing : l.samples = [] := List.length_eq_zero_iff.mp (by omega)
      rw [nothing, List.tail_nil]
  · rename_i room
    rw [if_neg (by omega)]

theorem Retains.record (retains : l.Retains limit samples) (sample : Nat) :
    (l.record sample).Retains limit (samples ++ [sample]) where
  limited := retains.limited
  last := by
    rw [samples_record, retains.limited, retains.last, rtake_concat (by omega)]

theorem Retains.recordAll (retains : l.Retains limit samples) (later : List Nat) :
    (l.recordAll later).Retains limit (samples ++ later) := by
  induction later generalizing l samples with
  | nil =>
      rw [List.append_nil]
      exact retains
  | cons sample rest ih =>
      rw [List.append_cons]
      exact ih (retains.record sample)

def rank (n p : Nat) : Nat :=
  min p 100 * (n - 1) / 100

theorem rank_zero (n : Nat) : rank n 0 = 0 := by
  rw [rank, Nat.min_eq_left (Nat.zero_le _), Nat.zero_mul, Nat.zero_div]

theorem rank_of_hundred_le (n : Nat) {p : Nat} (top : 100 ≤ p) : rank n p = n - 1 := by
  rw [rank, Nat.min_eq_right top, Nat.mul_div_cancel_left _ (by decide)]

theorem rank_le_rank (n : Nat) {p q : Nat} (le : p ≤ q) : rank n p ≤ rank n q := by
  have capped : min p 100 ≤ min q 100 := by omega
  exact Nat.div_le_div_right (Nat.mul_le_mul_right _ capped)

/-- A sample of the window that comes after `rank` others in the order: these and itself are no
larger, and all from itself on are no smaller. -/
structure AtRank (window : List Nat) (rank sample : Nat) : Prop where
  mem : sample ∈ window
  below : rank + 1 ≤ window.countP (· ≤ sample)
  above : window.length - rank ≤ window.countP (sample ≤ ·)

section Ranks

variable {window : List Nat} {rank sample low high : Nat}

theorem length_le_countP (holds : Nat → Bool) {part : List Nat} (inside : part.Subperm window)
    (all : ∀ other ∈ part, holds other = true) : part.length ≤ window.countP holds := by
  rw [← List.countP_eq_length.mpr all]
  exact inside.countP_le holds

theorem atRank_of_getElem? (found : window.mergeSort[rank]? = some sample) :
    AtRank window rank sample := by
  obtain ⟨inside, rfl⟩ := List.getElem?_eq_some_iff.mp found
  have sorted : window.mergeSort.SortedLE := List.sortedLE_mergeSort
  have perm : window.mergeSort.Perm window := List.mergeSort_perm _ _
  constructor
  case mem => exact perm.mem_iff.mp (List.getElem_mem inside)
  case below =>
    have first := length_le_countP (· ≤ window.mergeSort[rank])
      ((List.take_sublist (rank + 1) _).subperm.trans perm.subperm) (by
        intro other mem
        obtain ⟨place, before, rfl⟩ := List.mem_take_iff_getElem.mp mem
        exact decide_eq_true (sorted.getElem_le_getElem_of_le (by omega)))
    rwa [List.length_take, Nat.min_eq_left inside] at first
  case above =>
    have rest := length_le_countP (window.mergeSort[rank] ≤ ·)
      ((List.drop_sublist rank _).subperm.trans perm.subperm) (by
        intro other mem
        obtain ⟨place, behind, rfl⟩ := List.mem_drop_iff_getElem.mp mem
        exact decide_eq_true (sorted.getElem_le_getElem_of_le (by omega)))
    rwa [List.length_drop, List.length_mergeSort] at rest

theorem countP_add_countP_le (window : List Nat) (lt : low < high) :
    window.countP (· ≤ low) + window.countP (high ≤ ·) ≤ window.length := by
  rw [List.length_eq_countP_add_countP (· ≤ low)]
  refine Nat.add_le_add_left (List.countP_mono_left ?_) _
  intro sample _ above
  simp only [decide_eq_true_eq] at above ⊢
  omega

theorem AtRank.le_of_le {rank' : Nat} (atLow : AtRank window rank low)
    (atHigh : AtRank window rank' high) (le : rank ≤ rank') : low ≤ high := by
  by_contra reversed
  have apart := countP_add_countP_le window (Nat.lt_of_not_le reversed)
  have below := atHigh.below
  have above := atLow.above
  omega

theorem forall_of_length_le_countP {holds : Nat → Bool} (full : window.length ≤ window.countP holds) :
    ∀ other ∈ window, holds other = true :=
  List.countP_eq_length.mp (Nat.le_antisymm List.countP_le_length full)

theorem atRank_zero_iff : AtRank window 0 sample ↔ window.min? = some sample := by
  rw [List.min?_eq_some_iff]
  constructor
  · intro first
    have all := forall_of_length_le_countP first.above
    exact ⟨first.mem, fun other mem => of_decide_eq_true (all other mem)⟩
  · rintro ⟨mem, bound⟩
    constructor
    case mem => exact mem
    case below => exact List.one_le_countP_iff.mpr ⟨sample, mem, decide_eq_true le_rfl⟩
    case above =>
      exact length_le_countP _ (List.Subperm.refl _) fun other mem =>
        decide_eq_true (bound other mem)

theorem atRank_last_iff : AtRank window (window.length - 1) sample ↔ window.max? = some sample := by
  rw [List.max?_eq_some_iff]
  constructor
  · intro last
    have all := forall_of_length_le_countP (Nat.le_of_pred_lt last.below)
    exact ⟨last.mem, fun other mem => of_decide_eq_true (all other mem)⟩
  · rintro ⟨mem, bound⟩
    have one : 1 ≤ window.length := List.length_pos_of_mem mem
    constructor
    case mem => exact mem
    case below =>
      rw [Nat.sub_add_cancel one]
      exact length_le_countP _ (List.Subperm.refl _) fun other mem =>
        decide_eq_true (bound other mem)
    case above =>
      rw [Nat.sub_sub_self one]
      exact List.one_le_countP_iff.mpr ⟨sample, mem, decide_eq_true le_rfl⟩

end Ranks

theorem atRank_of_percentile {p sample : Nat} (found : l.percentile p = some sample) :
    AtRank l.samples (rank l.count p) sample :=
  atRank_of_getElem? found

theorem percentile_eq_some_iff {p sample : Nat} :
    l.percentile p = some sample ↔ AtRank l.samples (rank l.count p) sample := by
  constructor
  · exact atRank_of_percentile
  · intro ranked
    have nonempty : l.samples ≠ [] := List.ne_nil_of_mem ranked.mem
    obtain ⟨other, found⟩ := Option.ne_none_iff_exists'.mp
      (mt (percentile_eq_none_iff l p).mp nonempty)
    have ranked' := atRank_of_percentile found
    rw [found, Nat.le_antisymm (ranked'.le_of_le ranked le_rfl) (ranked.le_of_le ranked' le_rfl)]

theorem percentile_le_percentile {p q low high : Nat} (le : p ≤ q)
    (atLow : l.percentile p = some low) (atHigh : l.percentile q = some high) : low ≤ high :=
  (atRank_of_percentile atLow).le_of_le (atRank_of_percentile atHigh) (rank_le_rank _ le)

theorem percentile_zero (l : Latency) : l.percentile 0 = l.samples.min? := by
  ext sample
  rw [percentile_eq_some_iff, rank_zero, atRank_zero_iff]

theorem percentile_of_hundred_le (l : Latency) {p : Nat} (top : 100 ≤ p) :
    l.percentile p = l.samples.max? := by
  ext sample
  rw [percentile_eq_some_iff, rank_of_hundred_le _ top, count, atRank_last_iff]

/-- After every run, whatever the limit, the samples are the last ones that were recorded. Each
percentile is the sample at its rank among them, rising from the smallest to the largest. -/
theorem percentile_recordAll (limit : Nat) (samples : List Nat) :
    let l : Latency := (empty limit).recordAll samples
    let window := samples.rtake (max 1 limit)
    l.samples = window ∧
      (∀ p, l.percentile p = none ↔ samples = []) ∧
      (∀ p sample, l.percentile p = some sample ↔ AtRank window (rank window.length p) sample) ∧
      (∀ p q low high, p ≤ q → l.percentile p = some low → l.percentile q = some high →
        low ≤ high) ∧
      l.percentile 0 = window.min? ∧
      ∀ p, 100 ≤ p → l.percentile p = window.max? := by
  intro l window
  have last : l.samples = window := ((retains_empty limit).recordAll samples).last
  refine ⟨last, ?_, ?_, ?_, ?_, ?_⟩
  · intro p
    rw [percentile_eq_none_iff, last]
    exact rtake_eq_nil_iff (by omega)
  · intro p sample
    rw [percentile_eq_some_iff, count, last]
  · intro p q low high le atLow atHigh
    exact percentile_le_percentile le atLow atHigh
  · rw [percentile_zero, last]
  · intro p top
    rw [percentile_of_hundred_le l top, last]

example : ((empty 0).recordAll [3, 5]).samples = [5] := by decide

end Latency

end CandleFeed
