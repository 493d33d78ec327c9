import CandleFeed.Proofs.Decimal.Tolerance

namespace CandleFeed.Decimal

/-- The least number that is rounded beyond the largest mantissa. It is a tie, which goes up since
that mantissa is odd. -/
def overflowLimit : ℚ :=
  maxMantissa + 1 / 2

theorem maxMantissa_lt_overflowLimit : (maxMantissa : ℚ) < overflowLimit := by
  norm_num [overflowLimit]

theorem overflowLimit_pos : 0 < overflowLimit := by
  norm_num [overflowLimit, maxMantissa]

theorem overflowLimit_le_of_lt {n : Nat} (large : maxMantissa < n) : overflowLimit ≤ n := by
  have next : (maxMantissa : ℚ) + 1 ≤ n := by exact_mod_cast large
  rw [overflowLimit]
  linarith

theorem lt_halfEven_iff_mul_le {n d : Nat} (positive : 0 < d) :
    maxMantissa < halfEven n d ↔ (2 * maxMantissa + 1) * d ≤ 2 * n := by
  have whole := Nat.div_add_mod n d
  have small := Nat.mod_lt n positive
  have odd : maxMantissa % 2 = 1 := by decide
  unfold halfEven
  dsimp only
  generalize n / d = q at whole ⊢
  generalize n % d = r at whole small ⊢
  rcases Nat.lt_trichotomy q maxMantissa with below | rfl | above
  · have product : d * (q + 1) ≤ d * maxMantissa := Nat.mul_le_mul_left d below
    have apart : 2 * n < (2 * maxMantissa + 1) * d := by linarith
    constructor
    · split <;> omega
    · omega
  · generalize maxMantissa = m at whole odd ⊢
    have product : (2 * m + 1) * d = 2 * (d * m) + d := by ring
    rw [product]
    split <;> omega
  · have product : d * (maxMantissa + 1) ≤ d * q := Nat.mul_le_mul_left d above
    have within : (2 * maxMantissa + 1) * d ≤ 2 * n := by linarith
    constructor
    · intro _
      exact within
    · split <;> omega

theorem lt_halfEven_iff {n d : Nat} (positive : 0 < d) :
    maxMantissa < halfEven n d ↔ overflowLimit ≤ n / d := by
  have cast : (0 : ℚ) < d := by exact_mod_cast positive
  have doubled : overflowLimit * d ≤ n ↔ (2 * maxMantissa + 1 : ℚ) * d ≤ 2 * n := by
    rw [overflowLimit]
    constructor <;> intro _ <;> linarith
  rw [lt_halfEven_iff_mul_le positive, le_div_iff₀ cast, doubled]
  exact_mod_cast Iff.rfl

theorem fitWithin_eq_none_iff {negative : Bool} {m s places : Nat} {h : places ≤ 28} :
    fitWithin negative m s places h = none ↔ overflowLimit ≤ m / 10 ^ s := by
  have bare : overflowLimit ≤ m / 10 ^ s ↔ maxMantissa < halfEven m (10 ^ s) := by
    rw [lt_halfEven_iff (by positivity)]
    push_cast
    rfl
  rw [bare]
  induction places with
  | zero =>
      unfold fitWithin
      simp
  | succ places ih =>
      unfold fitWithin
      dsimp only
      split
      · rename_i room
        -- with fewer places the mantissa is shorter still
        refine iff_of_false (Option.some_ne_none _) fun large => ?_
        refine Nat.not_lt.mpr room ((lt_halfEven_iff (Nat.pow_pos (by decide))).mpr ?_)
        refine (bare.mpr large).trans (div_le_div_of_nonneg_left (Nat.cast_nonneg m) ?_ ?_)
        · exact_mod_cast Nat.pow_pos (by decide)
        · exact_mod_cast Nat.pow_le_pow_right (by decide) (Nat.sub_le s _)
      · exact ih

theorem fit_eq_none_iff {negative : Bool} {m s : Nat} :
    fit negative m s = none ↔ overflowLimit ≤ m / 10 ^ s :=
  fitWithin_eq_none_iff

theorem fit_natAbs_eq_none_iff {negative : Bool} {m : Int} {s : Nat} {exact : ℚ}
    (scaled : (m : ℚ) = exact * 10 ^ s) :
    fit negative m.natAbs s = none ↔ overflowLimit ≤ |exact| := by
  rw [fit_eq_none_iff, Nat.cast_natAbs, Int.cast_abs, scaled, abs_mul, abs_of_pos (ten_pow_pos _),
    mul_div_cancel_right₀ _ (ten_pow_pos _).ne']

theorem abs_value_lt (d : Decimal) : |d.value| < overflowLimit := by
  refine lt_of_le_of_lt ?_ maxMantissa_lt_overflowLimit
  rw [abs_value]
  refine (div_le_self (Nat.cast_nonneg _) (one_le_pow₀ (by norm_num))).trans ?_
  exact_mod_cast d.mantissa_le

theorem add_eq_none_iff {a b : Decimal} : a.add b = none ↔ overflowLimit ≤ |a.value + b.value| := by
  cases first : a.isZero with
  | true =>
      rw [add_zero_left b first, value_of_isZero first, zero_add]
      exact iff_of_false (Option.some_ne_none _) (abs_value_lt b).not_ge
  | false =>
      cases second : b.isZero with
      | true =>
          rw [add_zero_right first second, value_of_isZero second, add_zero]
          exact iff_of_false (Option.some_ne_none _) (abs_value_lt a).not_ge
      | false =>
          obtain ⟨total, exact, sum⟩ := add_eq_fit first second
          rw [sum, fit_natAbs_eq_none_iff exact]

theorem value_negate (d : Decimal) : d.negate.value = -d.value := by
  unfold negate
  split
  · rename_i nothing
    rw [value_of_isZero nothing, neg_zero]
  · obtain ⟨negative, mantissa, scale, room, short⟩ := d
    cases negative <;> simp [value, units, neg_div]

theorem sub_eq_none_iff {a b : Decimal} : a.sub b = none ↔ overflowLimit ≤ |a.value - b.value| := by
  rw [sub, add_eq_none_iff, value_negate, sub_eq_add_neg]

theorem sub_near {a b c : Decimal} (difference : a.sub b = some c) :
    c.Near (a.value - b.value) := by
  have near := add_near difference
  rwa [value_negate, ← sub_eq_add_neg] at near

theorem isZero_of_pos {d : Decimal} (positive : zero < d) : d.isZero = false := by
  rw [zero_lt_iff] at positive
  rw [Bool.eq_false_iff, ne_eq, isZero_iff]
  omega

theorem exists_sub {a b : Decimal} (first : zero < a) (second : zero < b) :
    ∃ c, a.sub b = some c := by
  have size {d : Decimal} (positive : zero < d) : 0 ≤ d.value ∧ d.value < overflowLimit := by
    have value := value_pos_iff.mpr positive
    exact ⟨value.le, (le_abs_self _).trans_lt d.abs_value_lt⟩
  rw [← Option.ne_none_iff_exists', ne_eq, sub_eq_none_iff, not_le]
  exact abs_sub_lt_of_nonneg_of_lt (size first).1 (size first).2 (size second).1 (size second).2

theorem scale_negate (d : Decimal) : d.negate.scale = d.scale := by
  unfold negate
  split <;> rfl

theorem abs_le_of_sub {a b c p : Decimal} (difference : a.sub b = some c) (side : p = a ∨ p = b)
    (above : |a.value - b.value| ≤ |p.value|) : |c.value| ≤ |p.value| := by
  refine abs_le_of_add difference ?_ (by rwa [value_negate, ← sub_eq_add_neg])
  unfold commonScale
  rw [scale_negate]
  rcases side with rfl | rfl
  · exact Nat.le_max_left _ _
  · exact Nat.le_max_right _ _

theorem mul_eq_none_iff {a b : Decimal} : a.mul b = none ↔ overflowLimit ≤ |a.value * b.value| := by
  cases first : a.isZero with
  | true =>
      rw [mul_zero_left b first, value_of_isZero first, zero_mul, abs_zero]
      exact iff_of_false (Option.some_ne_none _) overflowLimit_pos.not_ge
  | false =>
      cases second : b.isZero with
      | true =>
          rw [mul_zero_right a second, value_of_isZero second, mul_zero, abs_zero]
          exact iff_of_false (Option.some_ne_none _) overflowLimit_pos.not_ge
      | false =>
          obtain ⟨product, exact, mantissa, -⟩ := mul_exact first second
          have fits : fit (a.negative != b.negative) (a.mantissa * b.mantissa) (a.scale + b.scale) =
              none ↔ overflowLimit ≤ |a.value * b.value| := by
            rw [← mantissa, fit_natAbs_eq_none_iff exact]
          rw [mul, first, second, Bool.or_false, if_neg Bool.false_ne_true]
          dsimp only
          split
          · rename_i short
            obtain ⟨short, short'⟩ := (Bool.and_eq_true _ _).mp short
            split
            · rename_i places
              -- nearer to zero than half of the last place
              have near := near_zero_of_short short short' places
              refine iff_of_false (Option.some_ne_none _) (not_le.mpr ?_)
              rw [Near, value_of_isZero rfl, zero_sub, abs_neg] at near
              refine near.trans_lt ?_
              unfold tolerance lastPlace
              split <;> norm_num [overflowLimit, maxMantissa, maxScale, zero, isZero]
            · rw [Option.map_eq_none_iff, fits]
          · exact fits

end CandleFeed.Decimal
