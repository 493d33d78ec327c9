import CandleFeed.Market
import CandleFeed.Proofs.Decimal.Quotient

namespace CandleFeed

open Decimal

namespace Ticker

theorem value_hundred : hundred.value = 100 := by
  norm_num [hundred, value, units]

section Change

variable {t : Ticker} {change : Decimal}

theorem changePercent_cases (open' : t.openPrice.isZero = false)
    (difference : t.lastPrice.sub t.openPrice = some change) :
    let ratio := |change.value / t.openPrice.value|
    (t.changePercent = .error .division ∧ overflowLimit ≤ ratio) ∨
    (t.changePercent = .error .multiplication ∧ ratio < overflowLimit ∧ overflowLimit ≤ ratio * 100) ∨
    ∃ quotient percent : Decimal, t.changePercent = .ok (some percent) ∧ ratio * 100 < overflowLimit ∧
      quotient.Near (change.value / t.openPrice.value) ∧ percent.Near (quotient.value * 100) := by
  intro ratio
  unfold changePercent
  rw [open', if_neg Bool.false_ne_true, difference]
  dsimp only
  cases divided : change.div t.openPrice with
  | none => exact .inl ⟨rfl, (div_eq_none_iff open').mp divided⟩
  | some quotient =>
      have room : ratio < overflowLimit := by
        rw [← not_le, ← div_eq_none_iff open', divided]
        exact Option.some_ne_none _
      have hundredfold : |quotient.value * hundred.value| < overflowLimit ↔
          ratio * 100 < overflowLimit := by
        have shifted := div_lt_overflowLimit_iff open' divided (k := 2) (by decide)
        rw [value_hundred, abs_mul, abs_of_pos (by norm_num : (0 : ℚ) < 100)]
        norm_num at shifted
        exact shifted
      right
      dsimp only
      cases multiplied : quotient.mul hundred with
      | none =>
          have large := mul_eq_none_iff.mp multiplied
          exact .inl ⟨rfl, room, not_lt.mp (mt hundredfold.mpr (not_lt.mpr large))⟩
      | some percent =>
          have fits : ¬ overflowLimit ≤ |quotient.value * hundred.value| := by
            rw [← mul_eq_none_iff, multiplied]
            exact Option.some_ne_none _
          have near := mul_near multiplied
          rw [value_hundred] at near
          exact .inr ⟨quotient, percent, rfl, hundredfold.mp (not_le.mp fits),
            div_near open' divided, near⟩

theorem overflowLimit_le_abs_iff {ratio : ℚ} (least : -1 ≤ ratio) (unit : ℚ) (positive : 0 < unit)
    (few : unit ≤ 100) : overflowLimit ≤ |ratio| * unit ↔ overflowLimit ≤ ratio * unit := by
  rcases le_or_gt 0 ratio with nonneg | negative
  · rw [abs_of_nonneg nonneg]
  · rw [abs_of_neg negative]
    have large : (100 : ℚ) < overflowLimit := by norm_num [overflowLimit, maxMantissa]
    refine iff_of_false (not_le.mpr ?_) (not_le.mpr ?_)
    · nlinarith
    · exact (mul_neg_of_neg_of_pos negative positive).trans overflowLimit_pos

theorem change_bounds (last : zero < t.lastPrice) (first : zero < t.openPrice)
    (difference : t.lastPrice.sub t.openPrice = some change) :
    -1 ≤ change.value / t.openPrice.value ∧ change.value ≤ t.lastPrice.value := by
  have last := value_pos_iff.mpr last
  have first := value_pos_iff.mpr first
  have near := sub_near difference
  rcases le_total t.openPrice.value t.lastPrice.value with rise | fall
  · have nonneg := near.nonneg (sub_nonneg.mpr rise)
    have size : |t.lastPrice.value - t.openPrice.value| ≤ |t.lastPrice.value| := by
      rw [abs_of_nonneg (sub_nonneg.mpr rise), abs_of_pos last]
      linarith
    have bound := abs_le_of_sub difference (.inl rfl) size
    rw [abs_of_nonneg nonneg, abs_of_pos last] at bound
    exact ⟨by linarith [div_nonneg nonneg first.le], bound⟩
  · have nonpos := near.nonpos (sub_nonpos.mpr fall)
    have size : |t.lastPrice.value - t.openPrice.value| ≤ |t.openPrice.value| := by
      rw [abs_of_nonpos (sub_nonpos.mpr fall), abs_of_pos first]
      linarith
    have bound := abs_le_of_sub difference (.inr rfl) size
    rw [abs_of_nonpos nonpos, abs_of_pos first] at bound
    refine ⟨?_, nonpos.trans last.le⟩
    rw [le_div_iff₀ first]
    linarith

theorem changePercent_verdicts (last : zero < t.lastPrice) (first : zero < t.openPrice)
    (difference : t.lastPrice.sub t.openPrice = some change) :
    let ratio := change.value / t.openPrice.value
    (t.changePercent = .error .division ∧ overflowLimit ≤ ratio) ∨
    (t.changePercent = .error .multiplication ∧ ratio < overflowLimit ∧ overflowLimit ≤ ratio * 100) ∨
    ∃ percent, t.changePercent = .ok (some percent) ∧ ratio * 100 < overflowLimit ∧
      (t.openPrice ≤ t.lastPrice → zero ≤ percent) ∧ (t.lastPrice ≤ t.openPrice → percent ≤ zero) := by
  intro ratio
  obtain ⟨least, -⟩ := change_bounds last first difference
  have near := sub_near difference
  have positive := value_pos_iff.mpr first
  have plain := overflowLimit_le_abs_iff least 1 (by norm_num) (by norm_num)
  have hundredfold := overflowLimit_le_abs_iff least 100 (by norm_num) (by norm_num)
  rw [mul_one, mul_one] at plain
  rcases changePercent_cases (isZero_of_pos first) difference with
    ⟨verdict, large⟩ | ⟨verdict, room, large⟩ | ⟨quotient, percent, verdict, room, divided, multiplied⟩
  · exact .inl ⟨verdict, plain.mp large⟩
  · exact .inr (.inl ⟨verdict, lt_of_not_ge (mt plain.mpr room.not_ge), hundredfold.mp large⟩)
  · refine .inr (.inr ⟨percent, verdict, lt_of_not_ge (mt hundredfold.mpr room.not_ge), ?_, ?_⟩)
    · intro rise
      have change := near.nonneg (sub_nonneg.mpr (le_iff_value.mp rise))
      have quotient := divided.nonneg (div_nonneg change positive.le)
      exact value_nonneg_iff.mp (multiplied.nonneg (by linarith))
    · intro fall
      have change := near.nonpos (sub_nonpos.mpr (le_iff_value.mp fall))
      have quotient := divided.nonpos (div_nonpos_of_nonpos_of_nonneg change positive.le)
      rw [le_iff_value, value_of_isZero (d := zero) rfl]
      exact multiplied.nonpos (by linarith)

/-- Between positive prices there is a change in percent, with the sign of the change, unless the
quotient or the hundredfold of it is rounded beyond the largest mantissa. -/
theorem changePercent_of_pos (last : zero < t.lastPrice) (first : zero < t.openPrice) :
    ∃ change, t.lastPrice.sub t.openPrice = some change ∧
      change.Near (t.lastPrice.value - t.openPrice.value) ∧
      (t.changePercent = .error .division ↔ overflowLimit ≤ change.value / t.openPrice.value) ∧
      (t.changePercent = .error .multiplication ↔
        change.value / t.openPrice.value < overflowLimit ∧
          overflowLimit ≤ change.value / t.openPrice.value * 100) ∧
      ((∃ percent, t.changePercent = .ok (some percent)) ↔
        change.value / t.openPrice.value * 100 < overflowLimit) ∧
      (t.lastPrice.value * 100 ≤ maxMantissa * t.openPrice.value →
        ∃ percent, t.changePercent = .ok (some percent)) ∧
      ∀ percent, t.changePercent = .ok (some percent) →
        (t.openPrice ≤ t.lastPrice → zero ≤ percent) ∧ (t.lastPrice ≤ t.openPrice → percent ≤ zero) := by
  obtain ⟨change, difference⟩ := exists_sub last first
  have positive := value_pos_iff.mpr first
  have within (few : t.lastPrice.value * 100 ≤ maxMantissa * t.openPrice.value) :
      change.value / t.openPrice.value * 100 < overflowLimit := by
    have most := (change_bounds last first difference).2
    refine lt_of_le_of_lt ?_ maxMantissa_lt_overflowLimit
    rw [div_mul_eq_mul_div, div_le_iff₀ positive]
    linarith
  have grows (large : overflowLimit ≤ change.value / t.openPrice.value) :
      overflowLimit ≤ change.value / t.openPrice.value * 100 := by
    linarith [overflowLimit_pos]
  refine ⟨change, difference, sub_near difference, ?_⟩
  rcases changePercent_verdicts last first difference with
    ⟨verdict, large⟩ | ⟨verdict, room, large⟩ | ⟨percent, verdict, room, rises, falls⟩
  · rw [verdict]
    refine ⟨iff_of_true rfl large, iff_of_false nofun fun room => room.1.not_ge large,
      iff_of_false nofun (grows large).not_gt, fun few => ?_, nofun⟩
    exact absurd (within few) (grows large).not_gt
  · rw [verdict]
    refine ⟨iff_of_false nofun room.not_ge, iff_of_true rfl ⟨room, large⟩,
      iff_of_false nofun large.not_gt, fun few => ?_, nofun⟩
    exact absurd (within few) large.not_gt
  · rw [verdict]
    refine ⟨iff_of_false nofun fun large => (grows large).not_gt room,
      iff_of_false nofun fun large => large.2.not_gt room, iff_of_true ⟨percent, rfl⟩ room,
      fun _ => ⟨percent, rfl⟩, ?_⟩
    rintro _ ⟨⟩
    exact ⟨rises, falls⟩

theorem steepest_rise_computed :
    let one : Decimal := ⟨false, 1, 0, by decide, by decide⟩
    let top : Decimal := ⟨false, 7_922_816_251_426_433_759_354_395_043, 1, by decide, by decide⟩
    let t : Ticker := ⟨⟨"BTC-USDT"⟩, top, one, top, one, one, one, 0⟩
    zero < t.lastPrice ∧ zero < t.openPrice ∧
      ∃ percent, t.changePercent = .ok (some percent) ∧ zero ≤ percent := by
  intro one top t
  have last : zero < t.lastPrice := by decide
  have first : zero < t.openPrice := by decide
  have rise : t.lastPrice.sub t.openPrice =
      some ⟨false, 7_922_816_251_426_433_759_354_395_033, 1, by decide, by decide⟩ := by decide +kernel
  obtain ⟨change, difference, -, -, -, computable, -, sign⟩ := changePercent_of_pos last first
  cases rise.symm.trans difference
  obtain ⟨percent, computed⟩ := computable.mpr (by
    norm_num [value, units, t, one, overflowLimit, maxMantissa])
  exact ⟨last, first, percent, computed, (sign percent computed).1 (by decide)⟩

theorem change_not_always_computable :
    ¬ ∀ t : Ticker, zero < t.lastPrice → zero < t.openPrice →
      ∃ percent, t.changePercent = .ok (some percent) ∧
        (t.openPrice ≤ t.lastPrice → zero ≤ percent) ∧
        (t.lastPrice ≤ t.openPrice → percent ≤ zero) := by
  intro always
  let one : Decimal := ⟨false, 1, 0, by decide, by decide⟩
  let least : Decimal := ⟨false, 1, 28, by decide, by decide⟩
  let t : Ticker := ⟨⟨"BTC-USDT"⟩, one, least, one, least, one, one, 0⟩
  have refused : t.changePercent = .error .multiplication := by decide +kernel
  obtain ⟨percent, computed, -⟩ := always t (by decide) (by decide)
  cases refused.symm.trans computed

end Change

end Ticker

end CandleFeed
