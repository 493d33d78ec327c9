import CandleFeed.Decimal.Basic

namespace CandleFeed.Decimal

def halfEven (n d : Nat) : Nat :=
  let q := n / d
  let twice := 2 * (n % d)
  if twice < d ∨ (twice = d ∧ q % 2 = 0) then q else q + 1

theorem halfEven_one (n : Nat) : halfEven n 1 = n := by
  simp [halfEven, Nat.mod_one]

theorem two_mul_halfEven_le {n d : Nat} (positive : 0 < d) :
    2 * (halfEven n d * d) ≤ 2 * n + d := by
  have split := Nat.div_add_mod n d
  have comm : n / d * d = d * (n / d) := Nat.mul_comm _ _
  unfold halfEven
  simp only
  split
  · omega
  · rw [Nat.add_mul]
    omega

theorem le_two_mul_halfEven {n d : Nat} (positive : 0 < d) :
    2 * n ≤ 2 * (halfEven n d * d) + d := by
  have split := Nat.div_add_mod n d
  have comm : n / d * d = d * (n / d) := Nat.mul_comm _ _
  have small := Nat.mod_lt n positive
  unfold halfEven
  simp only
  split
  · omega
  · rw [Nat.add_mul]
    omega

/-- `m / 10 ^ s` with the most places, at most `places`, that leave a mantissa in range. -/
def fitWithin (negative : Bool) (m s : Nat) : (places : Nat) → places ≤ 28 → Option Decimal
  | 0, h =>
      let q := halfEven m (Nat.pow 10 s)
      if room : q ≤ maxMantissa then some ⟨negative, q, 0, room, h⟩ else none
  | places + 1, h =>
      let q := halfEven m (Nat.pow 10 (s - (places + 1)))
      if room : q ≤ maxMantissa then some ⟨negative, q, places + 1, room, h⟩
      else fitWithin negative m s places (by omega)

/-- The decimal for `m / 10 ^ s`: as many of its places as there is room for, rounded once to the
nearest, ties to even; `none` if the whole part has no room. -/
def fit (negative : Bool) (m s : Nat) : Option Decimal :=
  fitWithin negative m s (min s 28) (Nat.min_le_right s 28)

theorem fitWithin_self (negative : Bool) {m s : Nat} (hm : m ≤ maxMantissa) (hs : s ≤ 28) :
    fitWithin negative m s s hs = some ⟨negative, m, s, hm, hs⟩ := by
  cases s with
  | zero =>
      unfold fitWithin
      simp only [Nat.pow_eq, Nat.pow_zero, halfEven_one]
      exact dif_pos hm
  | succ s =>
      unfold fitWithin
      simp only [Nat.sub_self, Nat.pow_eq, Nat.pow_zero, halfEven_one]
      exact dif_pos hm

theorem fit_eq_of_le (negative : Bool) {m s : Nat} (hm : m ≤ maxMantissa) (hs : s ≤ 28) :
    fit negative m s = some ⟨negative, m, s, hm, hs⟩ := by
  have same : ∀ places (h : places ≤ 28), places = s →
      fitWithin negative m s places h = some ⟨negative, m, s, hm, hs⟩ := by
    rintro places h rfl
    exact fitWithin_self negative hm h
  exact same _ _ (Nat.min_eq_left hs)

end CandleFeed.Decimal
