

namespace CandleFeed

structure Latency where
  samples : List Nat
  limit : Nat
deriving DecidableEq

namespace Latency

def empty (limit : Nat) : Latency :=
  ⟨[], limit⟩

def record (l : Latency) (sample : Nat) : Latency :=
  let kept := if l.limit ≤ l.samples.length then l.samples.drop 1 else l.samples
  { l with samples := kept ++ [sample] }

def count (l : Latency) : Nat :=
  l.samples.length

def sorted (l : Latency) : List Nat :=
  l.samples.mergeSort

/-- The sample below which `p` percent of the others lie; above 100 counts as 100. The product does
not leave the words of 64 bits, unless there are 2 ^ 57 samples. -/
def percentile (l : Latency) (p : Nat) : Option Nat :=
  l.sorted[min p 100 * (l.samples.length - 1) / 100]?

def average (l : Latency) : Option Nat :=
  if l.samples = [] then none else some (l.samples.foldl (· + ·) 0 % UInt64.size / l.samples.length)

theorem percentile_eq_none_iff (l : Latency) (p : Nat) :
    l.percentile p = none ↔ l.samples = [] := by
  have length : l.sorted.length = l.samples.length := List.length_mergeSort _
  rw [percentile, List.getElem?_eq_none_iff, length]
  constructor
  · intro beyond
    have capped : min p 100 * (l.samples.length - 1) / 100 ≤ l.samples.length - 1 := by
      have : min p 100 * (l.samples.length - 1) ≤ 100 * (l.samples.length - 1) :=
        Nat.mul_le_mul_right _ (Nat.min_le_right p 100)
      omega
    exact List.length_eq_zero_iff.mp (by omega)
  · intro none
    simp [none]

end Latency

end CandleFeed
