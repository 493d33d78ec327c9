import Mathlib.Data.List.DropRight

namespace CandleFeed

variable {α : Type} {xs : List α} {n : Nat}

theorem length_rtake : (xs.rtake n).length = min n xs.length := by
  rw [List.rtake, List.length_drop]
  omega

theorem rtake_eq_nil_iff (positive : 0 < n) : xs.rtake n = [] ↔ xs = [] := by
  rw [← List.length_eq_zero_iff, ← List.length_eq_zero_iff, length_rtake]
  omega

theorem rtake_concat (positive : 0 < n) (x : α) :
    (xs ++ [x]).rtake n =
      (if n ≤ (xs.rtake n).length then (xs.rtake n).tail else xs.rtake n) ++ [x] := by
  obtain ⟨room, rfl⟩ := Nat.exists_eq_add_of_lt positive
  rw [Nat.zero_add, List.rtake_concat_succ, length_rtake]
  congr 1
  unfold List.rtake
  split
  · rw [List.tail_drop]
    congr 1
    omega
  · congr 1
    omega

end CandleFeed
