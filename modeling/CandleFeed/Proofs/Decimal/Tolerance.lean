import CandleFeed.Proofs.Decimal.Value
import Mathlib.Tactic.FieldSimp
import Mathlib.Tactic.Linarith

namespace CandleFeed.Decimal

theorem value_of_isZero {d : Decimal} (nothing : d.isZero = true) : d.value = 0 := by
  rw [value, isZero_iff.mp nothing, Int.cast_zero, zero_div]

theorem value_signedByValue (d : Decimal) : d.signedByValue.value = d.value := by
  unfold value
  rw [units_signedByValue]
  rfl

theorem value_nonneg_iff {d : Decimal} : 0 ≤ d.value ↔ zero ≤ d := by
  rw [le_iff_value, value_of_isZero (d := zero) rfl]

theorem value_pos_iff {d : Decimal} : 0 < d.value ↔ zero < d := by
  rw [lt_iff_value, value_of_isZero (d := zero) rfl]

theorem natAbs_units (d : Decimal) : d.units.natAbs = d.mantissa := by
  unfold units
  split <;> omega

theorem abs_value (d : Decimal) : |d.value| = d.mantissa / 10 ^ d.scale := by
  rw [value, abs_div, abs_of_pos (ten_pow_pos _), ← natAbs_units, Nat.cast_natAbs, Int.cast_abs]

theorem unitsAt_eq (d : Decimal) {s : Nat} (short : d.scale ≤ s) :
    (d.unitsAt s : ℚ) = d.value * 10 ^ s := by
  have parts : (10 : ℚ) ^ s = 10 ^ d.scale * 10 ^ (s - d.scale) := by
    rw [← pow_add, Nat.add_sub_cancel' short]
  rw [value, parts, ← mul_assoc, div_mul_cancel₀ _ (ten_pow_pos _).ne', unitsAt]
  push_cast [Nat.pow_eq]
  rfl

/-! ## Exact results as mantissas -/

theorem add_eq_fit {a b : Decimal} (first : a.isZero = false) (second : b.isZero = false) :
    ∃ total : Int, (total : ℚ) = (a.value + b.value) * 10 ^ a.commonScale b ∧
      a.add b = fit (total < 0) total.natAbs (a.commonScale b) := by
  refine ⟨a.unitsAt (a.commonScale b) + b.unitsAt (a.commonScale b), ?_, ?_⟩
  · rw [Int.cast_add, unitsAt_eq a (s := a.commonScale b) (Nat.le_max_left _ _),
      unitsAt_eq b (s := a.commonScale b) (Nat.le_max_right _ _)]
    ring
  · rw [add, first, second]
    rfl

theorem negative_bne_iff {a b : Decimal} (first : a.isZero = false) (second : b.isZero = false) :
    (a.negative != b.negative) = decide (a.units * b.units < 0) := by
  have pos {d : Decimal} (some : d.isZero = false) : (0 : Int) < d.mantissa := by
    have : d.mantissa ≠ 0 := by simpa [isZero] using some
    omega
  have product := Int.mul_pos (pos first) (pos second)
  unfold units
  cases a.negative <;> cases b.negative <;> simp <;> omega

theorem mul_exact {a b : Decimal} (first : a.isZero = false) (second : b.isZero = false) :
    ∃ product : Int, (product : ℚ) = a.value * b.value * 10 ^ (a.scale + b.scale) ∧
      product.natAbs = a.mantissa * b.mantissa ∧
      (a.negative != b.negative) = decide (product < 0) := by
  refine ⟨a.units * b.units, ?_, ?_, negative_bne_iff first second⟩
  · rw [value, value, pow_add, Int.cast_mul]
    field_simp
  · rw [Int.natAbs_mul, natAbs_units, natAbs_units]

theorem mul_zero_right (a : Decimal) {b : Decimal} (nothing : b.isZero = true) :
    a.mul b = some zero := by
  rw [mul, nothing, Bool.or_true, if_pos rfl]

/-! ## Results with room -/

theorem exists_fit {m : Int} {s : Nat} (room : m.natAbs ≤ maxMantissa) (short : s ≤ 28) :
    ∃ d, fit (m < 0) m.natAbs s = some d ∧ d.scale = s ∧ d.value = m / 10 ^ s := by
  refine ⟨_, fit_eq_of_le _ room short, rfl, ?_⟩
  rw [value, units]
  congr 2
  dsimp only
  split <;> rename_i sign <;> simp only [decide_eq_true_eq] at sign <;> omega

theorem natAbs_le_of_value {m : Int} {exact : ℚ} {s t : Nat} (scaled : (m : ℚ) = exact * 10 ^ t)
    (within : t ≤ s) (room : |exact| * 10 ^ s ≤ maxMantissa) : m.natAbs ≤ maxMantissa := by
  have grows : (10 : ℚ) ^ t ≤ 10 ^ s := pow_le_pow_right₀ (by norm_num) within
  have small : (m.natAbs : ℚ) ≤ maxMantissa := by
    calc (m.natAbs : ℚ) = |(m : ℚ)| := by rw [Nat.cast_natAbs, Int.cast_abs]
      _ = |exact| * 10 ^ t := by rw [scaled, abs_mul, abs_of_pos (ten_pow_pos t)]
      _ ≤ |exact| * 10 ^ s := mul_le_mul_of_nonneg_left grows (abs_nonneg _)
      _ ≤ maxMantissa := room
  exact_mod_cast small

structure Exactly (d : Decimal) (exact : ℚ) (places : Nat) : Prop where
  value : d.value = exact
  scale_le : d.scale ≤ places

theorem exactly_zero (places : Nat) : zero.Exactly 0 places where
  value := value_of_isZero rfl
  scale_le := Nat.zero_le places

theorem Exactly.mono {d : Decimal} {exact : ℚ} {s t : Nat} (exactly : d.Exactly exact s) (le : s ≤ t) :
    d.Exactly exact t where
  value := exactly.value
  scale_le := exactly.scale_le.trans le

theorem exists_add {a b : Decimal} {x y : ℚ} {s : Nat} (first : a.Exactly x s)
    (second : b.Exactly y s) (places : s ≤ 28) (room : |x + y| * 10 ^ s ≤ maxMantissa) :
    ∃ c, a.add b = some c ∧ c.Exactly (x + y) s := by
  obtain ⟨rfl, short⟩ := first
  obtain ⟨rfl, short'⟩ := second
  cases none : a.isZero with
  | true => exact ⟨b, add_zero_left b none, by rw [value_of_isZero none, zero_add], short'⟩
  | false =>
      cases none' : b.isZero with
      | true =>
          exact ⟨a, add_zero_right none none', by rw [value_of_isZero none', add_zero], short⟩
      | false =>
          have common : a.commonScale b ≤ s := max_le short short'
          obtain ⟨total, exact, sum⟩ := add_eq_fit none none'
          obtain ⟨c, ok, scale, value⟩ :=
            exists_fit (natAbs_le_of_value exact common room) (common.trans places)
          refine ⟨c, sum.trans ok, ?_, scale.trans_le common⟩
          rw [value, exact, mul_div_cancel_right₀ _ (ten_pow_pos _).ne']

theorem exists_mul {a b : Decimal} (places : a.scale + b.scale ≤ 28)
    (room : |a.value * b.value| * 10 ^ (a.scale + b.scale) ≤ maxMantissa) :
    ∃ c, a.mul b = some c ∧ c.Exactly (a.value * b.value) (a.scale + b.scale) := by
  cases none : a.isZero with
  | true =>
      rw [mul_zero_left b none, value_of_isZero none, zero_mul]
      exact ⟨zero, rfl, exactly_zero _⟩
  | false =>
      cases none' : b.isZero with
      | true =>
          rw [mul_zero_right a none', value_of_isZero none', mul_zero]
          exact ⟨zero, rfl, exactly_zero _⟩
      | false =>
          obtain ⟨product, exact, mantissa, sign⟩ := mul_exact none none'
          obtain ⟨c, ok, scale, value⟩ :=
            exists_fit (natAbs_le_of_value exact (Nat.le_refl _) room) places
          rw [mantissa, ← sign] at ok
          rw [exact, mul_div_cancel_right₀ _ (ten_pow_pos _).ne'] at value
          have few : ¬ 47 < a.scale + b.scale := by omega
          unfold mul
          rw [none, none', Bool.or_false, if_neg Bool.false_ne_true]
          dsimp only
          rw [if_neg few, ok]
          split
          · exact ⟨c.signedByValue, rfl, (value_signedByValue c).trans value, scale.le⟩
          · exact ⟨c, rfl, value, scale.le⟩

/-! ## Rounded results -/

def lastPlace (d : Decimal) : ℚ :=
  if d.isZero then 1 / 10 ^ maxScale else 1 / 10 ^ d.scale

/-- How far a result may be from the exact one: not at all, or half a unit of its last place if it
had to be rounded. -/
def tolerance (d : Decimal) (exact : ℚ) : ℚ :=
  if d.value = exact then 0 else d.lastPlace / 2

def Near (d : Decimal) (exact : ℚ) : Prop :=
  |d.value - exact| ≤ d.tolerance exact

theorem near_of_eq {d : Decimal} {exact : ℚ} (same : d.value = exact) : d.Near exact := by
  rw [Near, tolerance, if_pos same, same, sub_self, abs_zero]

theorem near_of_lastPlace {d : Decimal} {exact : ℚ} (close : |d.value - exact| ≤ d.lastPlace / 2) :
    d.Near exact := by
  by_cases same : d.value = exact
  · exact near_of_eq same
  · rwa [Near, tolerance, if_neg same]

theorem abs_halfEven_sub_le (n : Nat) {d : Nat} (positive : 0 < d) :
    |(halfEven n d : ℚ) - n / d| ≤ 1 / 2 := by
  have high : (2 * (halfEven n d * d) : ℚ) ≤ 2 * n + d := by
    exact_mod_cast two_mul_halfEven_le (n := n) positive
  have low : (2 * n : ℚ) ≤ 2 * (halfEven n d * d) + d := by
    exact_mod_cast le_two_mul_halfEven (n := n) positive
  have cast : (0 : ℚ) < d := by exact_mod_cast positive
  have scaled : ((halfEven n d : ℚ) - n / d) * d = halfEven n d * d - n := by
    rw [sub_mul, div_mul_cancel₀ _ cast.ne']
  rw [← mul_le_mul_iff_of_pos_right cast, ← abs_of_pos cast, ← abs_mul, abs_of_pos cast, scaled, abs_le]
  constructor <;> linarith

/-- A result that is rounded to zero has all its places, or the most: a shorter mantissa follows
only one that is too long. -/
theorem scale_of_fit_isZero {negative : Bool} {m s : Nat} {d : Decimal}
    (ok : fit negative m s = some d) (nothing : d.isZero = true) : d.scale = min s 28 := by
  obtain ⟨-, scale, mantissa, next⟩ := fitWithin_spec ok
  by_contra apart
  have less : d.scale < min s 28 := Nat.lt_of_le_of_ne scale apart
  have unit : 10 ^ (s - d.scale) = 10 * 10 ^ (s - (d.scale + 1)) := by
    rw [← pow_succ']
    congr 1
    omega
  have least := le_halfEven_of_overflow (by positivity) (next less)
  rw [← unit, ← mantissa, beq_iff_eq.mp nothing] at least
  exact absurd least (by decide)

section Fit

variable {m : Int} {s : Nat} {d : Decimal}

theorem abs_units_sub_le (ok : fit (m < 0) m.natAbs s = some d) :
    |(d.units : ℚ) - m / 10 ^ (s - d.scale)| ≤ 1 / 2 := by
  obtain ⟨sign, -, mantissa, -⟩ := fitWithin_spec ok
  have close := abs_halfEven_sub_le m.natAbs (d := 10 ^ (s - d.scale)) (by positivity)
  rw [← mantissa, Nat.cast_natAbs, Int.cast_abs] at close
  push_cast at close
  by_cases negative : m < 0
  · have below : (m : ℚ) < 0 := by exact_mod_cast negative
    rw [decide_eq_true negative] at sign
    rw [abs_of_neg below] at close
    rw [units, if_pos sign, ← abs_neg]
    push_cast
    convert close using 2
    ring
  · have above : (0 : ℚ) ≤ m := by exact_mod_cast Int.not_lt.mp negative
    rw [decide_eq_false negative] at sign
    rw [abs_of_nonneg above] at close
    rw [units_of_not_negative sign]
    exact_mod_cast close

theorem abs_value_sub_le (ok : fit (m < 0) m.natAbs s = some d) :
    |d.value - m / 10 ^ s| ≤ 1 / 10 ^ d.scale / 2 := by
  obtain ⟨-, scale, -, -⟩ := fitWithin_spec ok
  have parts : (10 : ℚ) ^ s = 10 ^ (s - d.scale) * 10 ^ d.scale := by
    rw [← pow_add, Nat.sub_add_cancel (scale.trans (Nat.min_le_left _ _))]
  have distance : d.value - m / 10 ^ s = (d.units - m / 10 ^ (s - d.scale)) / 10 ^ d.scale := by
    rw [value, parts, ← div_div, sub_div]
  rw [distance, abs_div, abs_of_pos (ten_pow_pos _), div_right_comm]
  exact div_le_div_of_nonneg_right (abs_units_sub_le ok) (ten_pow_pos _).le

theorem near_fit (ok : fit (m < 0) m.natAbs s = some d) : d.Near (m / 10 ^ s) := by
  have close := abs_value_sub_le ok
  cases nothing : d.isZero with
  | false =>
      apply near_of_lastPlace
      rwa [lastPlace, nothing, if_neg Bool.false_ne_true]
  | true =>
      have most := scale_of_fit_isZero ok nothing
      rcases Nat.le_total s 28 with short | long
      · -- nothing was cut off
        obtain ⟨-, -, mantissa, -⟩ := fitWithin_spec ok
        rw [Nat.min_eq_left short] at most
        rw [beq_iff_eq.mp nothing, most, Nat.sub_self, pow_zero, halfEven_one] at mantissa
        apply near_of_eq
        rw [value_of_isZero nothing, Int.natAbs_eq_zero.mp mantissa.symm, Int.cast_zero, zero_div]
      · rw [Nat.min_eq_right long] at most
        apply near_of_lastPlace
        rwa [lastPlace, nothing, if_pos rfl, maxScale, ← most]

end Fit

section Near

variable {d : Decimal} {exact : ℚ}

theorem Near.units_close (near : d.Near exact) : |d.units - exact * 10 ^ d.scale| ≤ 1 / 2 := by
  have last : d.lastPlace ≤ 1 / 10 ^ d.scale := by
    unfold lastPlace
    split
    · gcongr
      · norm_num
      · exact d.scale_le
    · exact le_rfl
  have close : |d.value - exact| ≤ 1 / 10 ^ d.scale / 2 := by
    refine near.trans ?_
    unfold tolerance
    split
    · positivity
    · linarith
  have scaled : d.units - exact * 10 ^ d.scale = (d.value - exact) * 10 ^ d.scale := by
    rw [value, sub_mul, div_mul_cancel₀ _ (ten_pow_pos _).ne']
  rw [scaled, abs_mul, abs_of_pos (ten_pow_pos _), ← le_div_iff₀ (ten_pow_pos _), div_right_comm]
  exact close

theorem Near.nonneg (near : d.Near exact) (nonneg : 0 ≤ exact) : 0 ≤ d.value := by
  have close := (abs_le.mp near.units_close).1
  have scaled : 0 ≤ exact * 10 ^ d.scale := mul_nonneg nonneg (ten_pow_pos _).le
  have units : -1 < d.units := by
    have above : (-1 : ℚ) < d.units := by linarith
    exact_mod_cast above
  exact div_nonneg (by exact_mod_cast Int.lt_iff_add_one_le.mp units) (ten_pow_pos _).le

theorem Near.nonpos (near : d.Near exact) (nonpos : exact ≤ 0) : d.value ≤ 0 := by
  have close := (abs_le.mp near.units_close).2
  have scaled : exact * 10 ^ d.scale ≤ 0 := mul_nonpos_of_nonpos_of_nonneg nonpos (ten_pow_pos _).le
  have units : d.units < 1 := by
    have below : (d.units : ℚ) < 1 := by linarith
    exact_mod_cast below
  exact div_nonpos_of_nonpos_of_nonneg (by exact_mod_cast Int.lt_add_one_iff.mp units) (ten_pow_pos _).le

end Near

theorem Near.signedByValue {d : Decimal} {exact : ℚ} (near : d.Near exact) :
    d.signedByValue.Near exact := by
  unfold Near tolerance at near ⊢
  rw [value_signedByValue]
  exact near

theorem add_near {a b c : Decimal} (sum : a.add b = some c) : c.Near (a.value + b.value) := by
  cases first : a.isZero with
  | true =>
      rw [add_zero_left b first] at sum
      cases sum
      exact near_of_eq (by rw [value_of_isZero first, zero_add])
  | false =>
      cases second : b.isZero with
      | true =>
          rw [add_zero_right first second] at sum
          cases sum
          exact near_of_eq (by rw [value_of_isZero second, add_zero])
      | false =>
          obtain ⟨total, exact, ok⟩ := add_eq_fit first second
          have near := near_fit (ok.symm.trans sum)
          rwa [exact, mul_div_cancel_right₀ _ (ten_pow_pos _).ne'] at near

theorem abs_le_of_add {a b c p : Decimal} (sum : a.add b = some c)
    (places : p.scale ≤ a.commonScale b) (above : |a.value + b.value| ≤ |p.value|) :
    |c.value| ≤ |p.value| := by
  cases first : a.isZero with
  | true =>
      rw [add_zero_left b first] at sum
      cases sum
      rwa [value_of_isZero first, zero_add] at above
  | false =>
      cases second : b.isZero with
      | true =>
          rw [add_zero_right first second] at sum
          cases sum
          rwa [value_of_isZero second, add_zero] at above
      | false =>
          obtain ⟨total, exact, ok⟩ := add_eq_fit first second
          have size : (total.natAbs : ℚ) = |a.value + b.value| * 10 ^ a.commonScale b := by
            rw [Nat.cast_natAbs, Int.cast_abs, exact, abs_mul, abs_of_pos (ten_pow_pos _)]
          have mantissa : (p.mantissa : ℚ) = |p.value| * 10 ^ p.scale := by
            rw [abs_value, div_mul_cancel₀ _ (ten_pow_pos _).ne']
          have shown : p.scale ≤ min (a.commonScale b) 28 := Nat.le_min.mpr ⟨places, p.scale_le⟩
          have within : total.natAbs ≤ p.mantissa * 10 ^ (a.commonScale b - p.scale) := by
            have scaled : (total.natAbs : ℚ) ≤ p.mantissa * 10 ^ (a.commonScale b - p.scale) := by
              rw [size, mantissa, mul_assoc, ← pow_add, Nat.add_sub_cancel' places]
              exact mul_le_mul_of_nonneg_right above (ten_pow_pos _).le
            exact_mod_cast scaled
          have bound := fit_le (ok.symm.trans sum) p.mantissa_le shown within
          rw [abs_value, abs_value, div_le_div_iff₀ (ten_pow_pos _) (ten_pow_pos _)]
          exact_mod_cast bound

theorem near_zero_of_short {a b : Decimal} (short : a.isShort = true) (short' : b.isShort = true)
    (places : 47 < a.scale + b.scale) : zero.Near (a.value * b.value) := by
  have size {d : Decimal} (short : d.isShort = true) : |(d.units : ℚ)| ≤ 2 ^ 32 := by
    have small : d.units.natAbs ≤ 2 ^ 32 := by
      rw [natAbs_units]
      exact (of_decide_eq_true short).le
    rw [← Int.cast_abs, Int.abs_eq_natAbs]
    exact_mod_cast small
  have product : |a.value * b.value| = |(a.units : ℚ)| * |(b.units : ℚ)| / 10 ^ (a.scale + b.scale) := by
    rw [value, value, div_mul_div_comm, ← pow_add, abs_div, abs_mul, abs_of_pos (ten_pow_pos _)]
  apply near_of_lastPlace
  rw [value_of_isZero (d := zero) rfl, zero_sub, abs_neg, product, lastPlace,
    if_pos (c := zero.isZero = true) rfl]
  calc |(a.units : ℚ)| * |(b.units : ℚ)| / 10 ^ (a.scale + b.scale)
      ≤ 2 ^ 32 * 2 ^ 32 / 10 ^ 48 := by
        gcongr
        · exact size short
        · exact size short'
        · norm_num
        · exact places
    _ ≤ 1 / 10 ^ maxScale / 2 := by norm_num [maxScale]

theorem mul_near {a b c : Decimal} (product : a.mul b = some c) : c.Near (a.value * b.value) := by
  cases first : a.isZero with
  | true =>
      rw [mul_zero_left b first] at product
      cases product
      exact near_of_eq (by rw [value_of_isZero first, zero_mul, value_of_isZero rfl])
  | false =>
      cases second : b.isZero with
      | true =>
          rw [mul_zero_right a second] at product
          cases product
          exact near_of_eq (by rw [value_of_isZero second, mul_zero, value_of_isZero rfl])
      | false =>
          obtain ⟨exact, scaled, mantissa, sign⟩ := mul_exact first second
          have near {d : Decimal} (ok : fit (a.negative != b.negative) (a.mantissa * b.mantissa)
              (a.scale + b.scale) = some d) : d.Near (a.value * b.value) := by
            rw [sign, ← mantissa] at ok
            have near := near_fit ok
            rwa [scaled, mul_div_cancel_right₀ _ (ten_pow_pos _).ne'] at near
          rw [mul, first, second, Bool.or_false, if_neg Bool.false_ne_true] at product
          dsimp only at product
          split at product
          · rename_i short
            obtain ⟨short, short'⟩ := (Bool.and_eq_true _ _).mp short
            split at product
            · rename_i places
              cases product
              exact near_zero_of_short short short' places
            · obtain ⟨d, ok, rfl⟩ := Option.map_eq_some_iff.mp product
              exact (near ok).signedByValue
          · exact near product

end CandleFeed.Decimal
