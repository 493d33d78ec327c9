import CandleFeed.Proofs.Decimal.LongDivision
import Mathlib.Data.Nat.Cast.Field

namespace CandleFeed.Decimal

namespace Quotient

structure Shortens (short long : Quotient) : Prop where
  value : short.value = long.value
  digits_le : short.digits ≤ long.digits
  scale_le : short.scale ≤ long.scale

theorem Shortens.refl (q : Quotient) : q.Shortens q :=
  ⟨rfl, Nat.le_refl _, Nat.le_refl _⟩

theorem Shortens.trans {p q r : Quotient} (first : p.Shortens q) (second : q.Shortens r) :
    p.Shortens r :=
  ⟨first.value.trans second.value, first.digits_le.trans second.digits_le,
    first.scale_le.trans second.scale_le⟩

theorem shortens_of_zeros {q : Quotient} {places : Nat} (shown : places ≤ q.scale)
    (zeros : q.digits % 10 ^ places = 0) :
    Shortens { q with digits := q.digits / 10 ^ places, scale := q.scale - places } q := by
  refine ⟨?_, Nat.div_le_self _ _, Nat.sub_le _ _⟩
  have digits : (q.digits / 10 ^ places : Nat) = (q.digits : ℚ) / 10 ^ places := by
    rw [Nat.cast_div (Nat.dvd_of_mod_eq_zero zeros) (by positivity)]
    push_cast
    rfl
  rw [value, value, digits, div_div, ← pow_add, Nat.add_sub_cancel' shown]

theorem dropZeros_shortens (q : Quotient) (places : Nat) : (q.dropZeros places).Shortens q := by
  unfold dropZeros
  split
  · rename_i zeros
    exact shortens_of_zeros zeros.1 zeros.2
  · exact .refl q

theorem dropEights_shortens (rounds : Nat) (q : Quotient) : (dropEights rounds q).Shortens q := by
  induction rounds generalizing q with
  | zero => exact .refl q
  | succ rounds ih =>
      unfold dropEights
      split
      · rename_i zeros
        exact (ih _).trans (shortens_of_zeros zeros.1 (show q.digits % 10 ^ 8 = 0 from zeros.2.2))
      · exact .refl q

theorem tidy_shortens (q : Quotient) : q.tidy.Shortens q := by
  have step {p : Quotient} (places : Nat) (even : Prop) [Decidable even] (shortens : p.Shortens q) :
      (if even then p.dropZeros places else p).Shortens q := by
    split
    · exact (p.dropZeros_shortens places).trans shortens
    · exact shortens
  unfold tidy
  split
  · exact step 1 _ (step 2 _ (step 4 _ (dropEights_shortens _ q)))
  · exact .refl q

end Quotient

section Div

variable {a b c : Decimal}

theorem value_eq_signed (d : Decimal) : d.value = if d.negative then -|d.value| else |d.value| := by
  rw [abs_value, value, units]
  split <;> push_cast <;> ring

theorem div_value_eq_signed (a b : Decimal) : a.value / b.value =
    if a.negative != b.negative then -|a.value / b.value| else |a.value / b.value| := by
  rw [abs_div]
  nth_rewrite 1 [value_eq_signed a, value_eq_signed b]
  cases a.negative <;> cases b.negative <;> simp [neg_div, div_neg]

structure Shows (d : Decimal) (q : Quotient) (exact : ℚ) : Prop where
  rounds : q.Rounds |exact|
  value : |d.value| = q.value
  scale_le : d.scale ≤ q.scale
  sign : exact = if d.negative then -|exact| else |exact|

section Shows

variable {d : Decimal} {q : Quotient} {exact : ℚ}

theorem shows_zero : Shows zero ⟨0, 28, false⟩ 0 := by
  refine ⟨⟨Nat.le_refl _, ?_, ?_, .inr (.inl rfl)⟩, ?_, Nat.zero_le _, ?_⟩
  · norm_num
  · rw [abs_zero, zero_mul]
    exact overflowLimit_pos
  · rw [value_of_isZero rfl, abs_zero, Quotient.value, Nat.cast_zero, zero_div]
  · rw [abs_zero, neg_zero, ite_self]

theorem exists_shows {negative : Bool} (rounds : q.Rounds |exact|)
    (sign : exact = if negative then -|exact| else |exact|) :
    ∃ d, q.tidy.toDecimal negative = some d ∧ d.Shows q exact := by
  have shortens := q.tidy_shortens
  have room : q.tidy.digits ≤ maxMantissa ∧ q.tidy.scale ≤ 28 :=
    ⟨shortens.digits_le.trans rounds.digits_le, shortens.scale_le.trans rounds.scale_le⟩
  unfold Quotient.toDecimal
  rw [dif_pos room]
  exact ⟨_, rfl, rounds, (abs_value _).trans shortens.value, shortens.scale_le, sign⟩

theorem Shows.distance (shows : d.Shows q exact) : |d.value - exact| = abs (q.value - |exact|) := by
  rw [shows.sign, abs_ite, abs_neg, abs_abs, ite_self, value_eq_signed d, shows.value]
  split
  · rw [neg_sub_neg, abs_sub_comm]
  · rfl

theorem Shows.near (shows : d.Shows q exact) : d.Near exact := by
  have close : |d.value - exact| ≤ 1 / 10 ^ q.scale / 2 := by
    have scaled : q.value - |exact| = (q.digits - |exact| * 10 ^ q.scale) / 10 ^ q.scale := by
      rw [Quotient.value, sub_div, mul_div_cancel_right₀ _ (ten_pow_pos _).ne']
    rw [shows.distance, scaled, abs_div, abs_of_pos (ten_pow_pos _), div_right_comm]
    exact div_le_div_of_nonneg_right shows.rounds.close (ten_pow_pos _).le
  have coarser : (1 / 10 ^ q.scale / 2 : ℚ) ≤ 1 / 10 ^ d.scale / 2 := by
    gcongr
    · norm_num
    · exact shows.scale_le
  cases nothing : d.isZero with
  | false =>
      apply near_of_lastPlace
      rw [lastPlace, nothing, if_neg Bool.false_ne_true]
      exact close.trans coarser
  | true =>
      have none : q.value = 0 := by rw [← shows.value, value_of_isZero nothing, abs_zero]
      rcases shows.rounds.full with same | most | longer
      · exact near_of_eq (by rw [value_of_isZero nothing, abs_eq_zero.mp (same.symm.trans none)])
      · apply near_of_lastPlace
        rwa [lastPlace, if_pos nothing, maxScale, ← most]
      · -- a full mantissa is not zero
        have digits : (q.digits : ℚ) = 0 := by
          rw [Quotient.value, div_eq_zero_iff] at none
          exact none.resolve_right (ten_pow_pos _).ne'
        have large := shows.rounds.overflowLimit_le longer
        rw [digits, zero_mul] at large
        exact absurd large overflowLimit_pos.not_ge

end Shows

theorem dividing_start (nonzero : b.isZero = false) :
    Dividing b.mantissa (a.mantissa / b.mantissa) (a.mantissa % b.mantissa)
      ((a.scale : Int) - b.scale) |a.value / b.value| := by
  have positive : 0 < b.mantissa := Nat.pos_of_ne_zero (by simpa [isZero] using nonzero)
  have cast : (0 : ℚ) < b.mantissa := by exact_mod_cast positive
  refine ⟨Nat.mod_lt _ positive, (Nat.div_le_self _ _).trans a.mantissa_le, ?_, ?_⟩
  · have := a.scale_le
    omega
  · have parts : (b.mantissa * (a.mantissa / b.mantissa : Nat) + (a.mantissa % b.mantissa : Nat) : ℚ) =
        a.mantissa := by exact_mod_cast Nat.div_add_mod a.mantissa b.mantissa
    have whole : ((a.mantissa / b.mantissa : Nat) + (a.mantissa % b.mantissa : Nat) / b.mantissa : ℚ) =
        a.mantissa / b.mantissa := by
      rw [← parts, add_div, mul_div_cancel_left₀ _ cast.ne']
    rw [whole, abs_div, abs_value, abs_value, zpow_sub₀ (by norm_num), zpow_natCast, zpow_natCast]
    field_simp

theorem div_cases (nonzero : b.isZero = false) :
    (a.div b = none ∧ overflowLimit ≤ |a.value / b.value|) ∨
      ∃ c q, a.div b = some c ∧ c.Shows q (a.value / b.value) := by
  rw [div]
  cases first : a.isZero with
  | true =>
      rw [value_of_isZero first, zero_div]
      exact .inr ⟨zero, _, rfl, shows_zero⟩
  | false =>
      have answers := divideFrom_answers (dividing_start (a := a) nonzero) false
      rw [if_neg Bool.false_ne_true]
      cases found : divideFrom b.mantissa (a.mantissa / b.mantissa) (a.mantissa % b.mantissa)
          ((a.scale : Int) - b.scale) false with
      | none =>
          rw [found] at answers
          exact .inl ⟨rfl, answers⟩
      | some q =>
          rw [found] at answers
          obtain ⟨c, ok, shows⟩ := exists_shows answers (div_value_eq_signed a b)
          exact .inr ⟨c, q, ok, shows⟩

theorem exists_shows_of_div (nonzero : b.isZero = false) (quotient : a.div b = some c) :
    ∃ q, c.Shows q (a.value / b.value) := by
  rcases div_cases nonzero with ⟨none, -⟩ | ⟨d, q, ok, shows⟩
  · cases none.symm.trans quotient
  · cases ok.symm.trans quotient
    exact ⟨q, shows⟩

theorem div_eq_none_iff (nonzero : b.isZero = false) :
    a.div b = none ↔ overflowLimit ≤ |a.value / b.value| := by
  rcases div_cases nonzero with ⟨none, large⟩ | ⟨c, q, ok, shows⟩
  · exact iff_of_true none large
  · rw [ok]
    refine iff_of_false (Option.some_ne_none _) (not_le.mpr (lt_of_le_of_lt ?_ shows.rounds.room))
    exact le_mul_of_one_le_right (abs_nonneg _) (one_le_pow₀ (by norm_num))

theorem div_near (nonzero : b.isZero = false) (quotient : a.div b = some c) :
    c.Near (a.value / b.value) := by
  obtain ⟨q, shows⟩ := exists_shows_of_div nonzero quotient
  exact shows.near

theorem div_lt_overflowLimit_iff (nonzero : b.isZero = false) (quotient : a.div b = some c) {k : Nat}
    (few : k ≤ 28) :
    |c.value| * 10 ^ k < overflowLimit ↔ |a.value / b.value| * 10 ^ k < overflowLimit := by
  obtain ⟨q, shows⟩ := exists_shows_of_div nonzero quotient
  rw [shows.value]
  exact shows.rounds.lt_overflowLimit_iff (abs_nonneg _) few

end Div

end CandleFeed.Decimal
