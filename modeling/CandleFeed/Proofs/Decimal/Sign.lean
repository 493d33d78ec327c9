import CandleFeed.Decimal.Arithmetic

namespace CandleFeed.Decimal

theorem signedByValue_of_pos {d : Decimal} (positive : zero < d) : d.signedByValue = d := by
  obtain ⟨negative, mantissa, scale, room, short⟩ := d
  rw [zero_lt_iff, units] at positive
  cases negative with
  | false => rfl
  | true =>
      dsimp only at positive
      rw [if_pos rfl] at positive
      omega

theorem signedByValue_of_not_isZero {d : Decimal} (some : d.isZero = false) :
    d.signedByValue = d := by
  unfold signedByValue
  rw [some, Bool.not_false, Bool.and_true]

theorem add_signedByValue (a b : Decimal) : a.signedByValue.add b = a.add b := by
  cases zero : a.isZero with
  | true => rw [add_zero_left b zero, add_zero_left b (by rw [isZero_signedByValue, zero])]
  | false => rw [signedByValue_of_not_isZero zero]

end CandleFeed.Decimal
