import CandleFeed.Decimal.Arithmetic
import Mathlib.Algebra.Order.Field.Basic
import Mathlib.Algebra.Order.Field.Rat
import Mathlib.Tactic.Linarith
import Mathlib.Tactic.NormNum
import Mathlib.Tactic.Positivity
import Mathlib.Tactic.Ring

namespace CandleFeed.Decimal

def value (d : Decimal) : ℚ :=
  d.units / 10 ^ d.scale

theorem ten_pow_pos (n : Nat) : (0 : ℚ) < 10 ^ n := by
  positivity

theorem le_iff_value {a b : Decimal} : a ≤ b ↔ a.value ≤ b.value := by
  rw [value, value, div_le_div_iff₀ (ten_pow_pos _) (ten_pow_pos _), le_iff]
  simp only [Nat.pow_eq]
  exact_mod_cast Iff.rfl

theorem lt_iff_value {a b : Decimal} : a < b ↔ a.value < b.value := by
  rw [value, value, div_lt_div_iff₀ (ten_pow_pos _) (ten_pow_pos _), lt_iff]
  simp only [Nat.pow_eq]
  exact_mod_cast Iff.rfl

theorem same_iff_value {a b : Decimal} : a.same b = true ↔ a.value = b.value := by
  rw [value, value, div_eq_div_iff (ten_pow_pos _).ne' (ten_pow_pos _).ne', same, beq_iff_eq]
  simp only [Nat.pow_eq]
  exact_mod_cast Iff.rfl

theorem le_refl (a : Decimal) : a ≤ a :=
  le_iff_value.mpr le_rfl

theorem le_trans {a b c : Decimal} (first : a ≤ b) (second : b ≤ c) : a ≤ c :=
  le_iff_value.mpr ((le_iff_value.mp first).trans (le_iff_value.mp second))

theorem le_of_lt {a b : Decimal} (less : a < b) : a ≤ b :=
  le_iff_value.mpr (lt_iff_value.mp less).le

theorem le_of_not_lt {a b : Decimal} (notLess : ¬ a < b) : b ≤ a :=
  le_iff_value.mpr (Rat.not_lt.mp fun less => notLess (lt_iff_value.mpr less))

theorem le_of_not_le {a b : Decimal} (notLess : ¬ a ≤ b) : b ≤ a :=
  le_iff_value.mpr (le_of_not_ge fun less => notLess (le_iff_value.mpr less))

theorem div_le_halfEven (n d : Nat) : n / d ≤ halfEven n d := by
  unfold halfEven
  dsimp only
  split <;> omega

theorem fitWithin_spec {negative : Bool} {m s places : Nat} {h : places ≤ 28} {d : Decimal}
    (ok : fitWithin negative m s places h = some d) :
    d.negative = negative ∧ d.scale ≤ places ∧ d.mantissa = halfEven m (10 ^ (s - d.scale)) ∧
      (d.scale < places → maxMantissa < halfEven m (10 ^ (s - (d.scale + 1)))) := by
  induction places with
  | zero =>
      unfold fitWithin at ok
      dsimp only at ok
      split at ok
      · cases ok
        exact ⟨rfl, Nat.le_refl _, rfl, fun less => absurd less (Nat.lt_irrefl _)⟩
      · cases ok
  | succ places ih =>
      unfold fitWithin at ok
      dsimp only at ok
      split at ok
      · cases ok
        exact ⟨rfl, Nat.le_refl _, rfl, fun less => absurd less (Nat.lt_irrefl _)⟩
      · rename_i large
        obtain ⟨sign, scale, mantissa, next⟩ := ih ok
        refine ⟨sign, Nat.le_succ_of_le scale, mantissa, ?_⟩
        intro _
        rcases Nat.lt_or_eq_of_le scale with less | last
        · exact next less
        · rw [last]
          exact Nat.lt_of_not_le large

theorem negative_of_fit {negative : Bool} {m s : Nat} {d : Decimal}
    (ok : fit negative m s = some d) : d.negative = negative :=
  (fitWithin_spec ok).1

theorem le_halfEven_of_overflow {m unit : Nat} (positive : 0 < unit)
    (large : maxMantissa < halfEven m unit) :
    maxMantissa ≤ 10 * halfEven m (10 * unit) := by
  have exact := two_mul_halfEven_le (n := m) positive
  have coarse := le_two_mul_halfEven (n := m) (d := 10 * unit) (by omega)
  have least : (maxMantissa + 1) * unit ≤ halfEven m unit * unit :=
    Nat.mul_le_mul_right unit large
  generalize halfEven m unit * unit = fine at exact least
  generalize halfEven m (10 * unit) = short at coarse ⊢
  -- the largest mantissa ends with a five, so that a tenth of it is rounded up
  have tenth : maxMantissa + 5 = 10 * 7_922_816_251_426_433_759_354_395_034 := by decide
  rw [show maxMantissa + 1 = 10 * 7_922_816_251_426_433_759_354_395_033 + 6 by decide] at least
  by_contra less
  have short_le : short + 1 ≤ 7_922_816_251_426_433_759_354_395_034 := by omega
  have bound : (short + 1) * unit ≤ 7_922_816_251_426_433_759_354_395_034 * unit :=
    Nat.mul_le_mul_right unit short_le
  have scaled : 2 * (short * (10 * unit)) = 20 * (short * unit) := by ring
  rw [Nat.add_mul] at bound
  rw [scaled] at coarse
  generalize short * unit = product at bound coarse
  omega

theorem le_fit {negative : Bool} {m s p t : Nat} {d : Decimal} (ok : fit negative m s = some d)
    (room : p ≤ maxMantissa) (short : t ≤ min s 28) (below : p * 10 ^ (s - t) ≤ m) :
    p * 10 ^ d.scale ≤ d.mantissa * 10 ^ t := by
  obtain ⟨-, scale, mantissa, next⟩ := fitWithin_spec ok
  have within : d.scale ≤ s := scale.trans (Nat.min_le_left _ _)
  have longer : t ≤ s := short.trans (Nat.min_le_left _ _)
  rcases Nat.lt_or_ge d.scale t with coarse | fine
  · have overflow := next (Nat.lt_of_lt_of_le coarse short)
    have unit : 10 ^ (s - d.scale) = 10 * 10 ^ (s - (d.scale + 1)) := by
      rw [← pow_succ']
      congr 1
      omega
    have least := le_halfEven_of_overflow (by positivity) overflow
    rw [← unit, ← mantissa] at least
    calc p * 10 ^ d.scale ≤ 10 * d.mantissa * 10 ^ d.scale :=
          Nat.mul_le_mul_right _ (room.trans least)
      _ = d.mantissa * 10 ^ (d.scale + 1) := by rw [pow_succ]; ring
      _ ≤ d.mantissa * 10 ^ t := Nat.mul_le_mul_left _ (Nat.pow_le_pow_right (by decide) coarse)
  · -- `p` has a place on the grid of the result
    have parts : 10 ^ (s - t) = 10 ^ (d.scale - t) * 10 ^ (s - d.scale) := by
      rw [← pow_add]
      congr 1
      omega
    have grid : p * 10 ^ (d.scale - t) ≤ d.mantissa := by
      rw [mantissa]
      refine Nat.le_trans ?_ (div_le_halfEven _ _)
      rw [Nat.le_div_iff_mul_le (by positivity), Nat.mul_assoc, ← parts]
      exact below
    calc p * 10 ^ d.scale = p * 10 ^ (d.scale - t) * 10 ^ t := by
          rw [Nat.mul_assoc, ← pow_add, Nat.sub_add_cancel fine]
      _ ≤ d.mantissa * 10 ^ t := Nat.mul_le_mul_right _ grid

theorem halfEven_le {n d p : Nat} (positive : 0 < d) (above : n ≤ p * d) : halfEven n d ≤ p := by
  have high := two_mul_halfEven_le (n := n) positive
  have doubled : 2 * halfEven n d * d ≤ (2 * p + 1) * d := by linarith
  have := Nat.le_of_mul_le_mul_right doubled positive
  omega

theorem fit_le {negative : Bool} {m s p t : Nat} {d : Decimal} (ok : fit negative m s = some d)
    (room : p ≤ maxMantissa) (short : t ≤ min s 28) (above : m ≤ p * 10 ^ (s - t)) :
    d.mantissa * 10 ^ t ≤ p * 10 ^ d.scale := by
  obtain ⟨-, scale, mantissa, next⟩ := fitWithin_spec ok
  rcases Nat.lt_or_ge d.scale t with coarse | fine
  · -- one more place would have had room
    have grid : m ≤ p * 10 ^ (s - (d.scale + 1)) :=
      above.trans (Nat.mul_le_mul_left _ (Nat.pow_le_pow_right (by decide) (by omega)))
    have overflow := next (Nat.lt_of_lt_of_le coarse short)
    exact absurd ((halfEven_le (by positivity) grid).trans room) (Nat.not_le.mpr overflow)
  · have within : d.scale ≤ s := scale.trans (Nat.min_le_left _ _)
    have parts : 10 ^ (s - t) = 10 ^ (d.scale - t) * 10 ^ (s - d.scale) := by
      rw [← pow_add]
      congr 1
      omega
    rw [parts, ← Nat.mul_assoc] at above
    calc d.mantissa * 10 ^ t ≤ p * 10 ^ (d.scale - t) * 10 ^ t := by
          rw [mantissa]
          exact Nat.mul_le_mul_right _ (halfEven_le (by positivity) above)
      _ = p * 10 ^ d.scale := by rw [Nat.mul_assoc, ← pow_add, Nat.sub_add_cancel fine]

theorem units_of_not_negative {d : Decimal} (sign : d.negative = false) :
    d.units = d.mantissa := by
  rw [units, sign]
  rfl

theorem not_negative_of_units_pos {d : Decimal} (positive : 0 < d.units) : d.negative = false := by
  cases sign : d.negative with
  | false => rfl
  | true =>
      rw [units, if_pos sign] at positive
      omega

theorem zero_le_of_not_negative {d : Decimal} (sign : d.negative = false) : zero ≤ d := by
  rw [zero_le_iff, units_of_not_negative sign]
  exact Int.natCast_nonneg _

theorem units_pos {d : Decimal} (nonneg : zero ≤ d) (some : d.isZero = false) : 0 < d.units := by
  have apart : d.units ≠ 0 := by
    rw [ne_eq, ← isZero_iff, some]
    exact Bool.false_ne_true
  have := zero_le_iff.mp nonneg
  omega

theorem le_of_isZero {a b : Decimal} (nothing : a.isZero = true) (nonneg : zero ≤ b) : a ≤ b := by
  have positive := Int.natCast_nonneg (10 ^ a.scale)
  rw [le_iff, isZero_iff.mp nothing, Int.zero_mul]
  exact Int.mul_nonneg (zero_le_iff.mp nonneg) positive

theorem add_of_units_pos {a b : Decimal} (first : 0 < a.units) (second : 0 < b.units) :
    a.add b = fit false (a.mantissa * 10 ^ (a.commonScale b - a.scale) +
      b.mantissa * 10 ^ (a.commonScale b - b.scale)) (a.commonScale b) := by
  have some {d : Decimal} (positive : 0 < d.units) : ¬ d.isZero = true :=
    fun nothing => positive.ne' (isZero_iff.mp nothing)
  unfold add
  rw [if_neg (some first), if_neg (some second)]
  dsimp only [unitsAt]
  rw [units_of_not_negative (not_negative_of_units_pos first),
    units_of_not_negative (not_negative_of_units_pos second)]
  have total : (a.mantissa : Int) * Nat.pow 10 (a.commonScale b - a.scale) +
      b.mantissa * Nat.pow 10 (a.commonScale b - b.scale) =
        ((a.mantissa * 10 ^ (a.commonScale b - a.scale) +
          b.mantissa * 10 ^ (a.commonScale b - b.scale) : Nat) : Int) := by
    push_cast [Nat.pow_eq]
    rfl
  rw [total, Int.natAbs_natCast, decide_eq_false (Int.not_lt.mpr (Int.natCast_nonneg _))]

theorem le_add_left {a b c : Decimal} (sum : a.add b = some c) (first : zero ≤ a)
    (second : zero ≤ b) : a ≤ c := by
  cases nothing : a.isZero with
  | true =>
      rw [add, nothing, if_pos rfl] at sum
      cases sum
      exact le_of_isZero nothing second
  | false =>
      cases same : b.isZero with
      | true =>
          rw [add, nothing, same, if_neg Bool.false_ne_true, if_pos rfl] at sum
          cases sum
          exact le_refl a
      | false =>
          have positive := units_pos first nothing
          rw [add_of_units_pos positive (units_pos second same)] at sum
          have shown : a.scale ≤ min (a.commonScale b) 28 :=
            Nat.le_min.mpr ⟨Nat.le_max_left _ _, a.scale_le⟩
          rw [le_iff, units_of_not_negative (not_negative_of_units_pos positive),
            units_of_not_negative (negative_of_fit sum)]
          exact_mod_cast le_fit sum a.mantissa_le shown (Nat.le_add_right _ _)

theorem zero_le_signedByValue {d : Decimal} (nonneg : zero ≤ d) : zero ≤ d.signedByValue := by
  rw [zero_le_iff, units_signedByValue]
  exact zero_le_iff.mp nonneg

theorem zero_le_mul {a b c : Decimal} (product : a.mul b = some c) (first : zero ≤ a)
    (second : zero ≤ b) : zero ≤ c := by
  unfold mul at product
  split at product
  · cases product
    exact le_refl zero
  · rename_i factors
    rw [Bool.or_eq_true, not_or, Bool.not_eq_true, Bool.not_eq_true] at factors
    have sign := not_negative_of_units_pos (units_pos first factors.1)
    have sign' := not_negative_of_units_pos (units_pos second factors.2)
    have nonneg {d : Decimal} (ok : fit (a.negative != b.negative) (a.mantissa * b.mantissa)
        (a.scale + b.scale) = some d) : zero ≤ d := by
      refine zero_le_of_not_negative ((negative_of_fit ok).trans ?_)
      rw [sign, sign']
      rfl
    dsimp only at product
    split at product
    · split at product
      · cases product
        exact le_refl zero
      · obtain ⟨d, ok, rfl⟩ := Option.map_eq_some_iff.mp product
        exact zero_le_signedByValue (nonneg ok)
    · exact nonneg product

end CandleFeed.Decimal
