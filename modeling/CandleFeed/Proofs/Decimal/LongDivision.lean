import CandleFeed.Proofs.Decimal.Overflow
import Mathlib.Algebra.Order.Field.Power

/-!
# Long division

A division keeps the exact quotient in view: the digits so far and the rest of the dividend make it
up in every round. It ends when nothing is left or the mantissa is full, with the digits rounded to
the nearest, or with nothing if the quotient is rounded beyond the largest mantissa.
-/

namespace CandleFeed.Decimal

namespace Quotient

def value (q : Quotient) : ℚ :=
  q.digits / 10 ^ q.scale

/-- The digits of a number to the nearest, with as many places as there is room for unless they are
exact. -/
structure Rounds (q : Quotient) (exact : ℚ) : Prop where
  scale_le : q.scale ≤ 28
  close : |q.digits - exact * 10 ^ q.scale| ≤ 1 / 2
  room : exact * 10 ^ q.scale < overflowLimit
  full : q.value = exact ∨ q.scale = 28 ∨ overflowLimit ≤ exact * 10 ^ (q.scale + 1)

def Answers (exact : ℚ) : Option Quotient → Prop
  | none => overflowLimit ≤ exact
  | some q => q.Rounds exact

section Rounds

variable {q : Quotient} {exact : ℚ}

theorem Rounds.digits_le (rounds : q.Rounds exact) : q.digits ≤ maxMantissa := by
  have close := (abs_le.mp rounds.close).2
  have less : (q.digits : ℚ) < maxMantissa + 1 := by
    have room := rounds.room
    rw [overflowLimit] at room
    linarith
  exact Nat.lt_succ_iff.mp (by exact_mod_cast less)

theorem Rounds.overflowLimit_le (rounds : q.Rounds exact)
    (longer : overflowLimit ≤ exact * 10 ^ (q.scale + 1)) : overflowLimit ≤ (q.digits * 10 : ℚ) := by
  have close := (abs_le.mp rounds.close).1
  rw [pow_succ] at longer
  have digits : 7_922_816_251_426_433_759_354_395_033 < q.digits := by
    have less : (7_922_816_251_426_433_759_354_395_033 : ℚ) < q.digits := by
      norm_num [overflowLimit, maxMantissa] at longer
      linarith
    exact_mod_cast less
  have least : (7_922_816_251_426_433_759_354_395_034 : ℚ) ≤ q.digits := by exact_mod_cast digits
  norm_num [overflowLimit, maxMantissa]
  linarith

theorem Rounds.lt_overflowLimit_iff (rounds : q.Rounds exact) (nonneg : 0 ≤ exact) {k : Nat}
    (few : k ≤ 28) : q.value * 10 ^ k < overflowLimit ↔ exact * 10 ^ k < overflowLimit := by
  have grows {i j : Nat} (le : i ≤ j) : (10 : ℚ) ^ i ≤ 10 ^ j := pow_le_pow_right₀ (by norm_num) le
  have digits : q.value * 10 ^ q.scale = q.digits := div_mul_cancel₀ _ (ten_pow_pos _).ne'
  have positive : 0 ≤ q.value := div_nonneg (Nat.cast_nonneg _) (ten_pow_pos _).le
  rcases Nat.lt_or_ge q.scale k with cut | shown
  · rcases rounds.full with same | most | longer
    · rw [same]
    · omega
    · refine iff_of_false (not_lt.mpr ?_) (not_lt.mpr ?_)
      · refine (rounds.overflowLimit_le longer).trans ?_
        rw [← digits, mul_assoc, ← pow_succ]
        exact mul_le_mul_of_nonneg_left (grows cut) positive
      · exact longer.trans (mul_le_mul_of_nonneg_left (grows cut) nonneg)
  · refine iff_of_true ?_ ((mul_le_mul_of_nonneg_left (grows shown) nonneg).trans_lt rounds.room)
    refine (mul_le_mul_of_nonneg_left (grows shown) positive).trans_lt ?_
    rw [digits]
    refine lt_of_le_of_lt ?_ maxMantissa_lt_overflowLimit
    exact_mod_cast rounds.digits_le

end Rounds

end Quotient

/-! ## Long division -/

theorem ten_zpow_pos (n : Int) : (0 : ℚ) < 10 ^ n :=
  zpow_pos (by norm_num) n

theorem ten_pow_toNat {n : Int} (nonneg : 0 ≤ n) : (10 : ℚ) ^ n.toNat = 10 ^ n := by
  rw [← zpow_natCast, Int.toNat_of_nonneg nonneg]

theorem overflowLimit_le_of_scaled {exact : ℚ} {n : Int} (short : n ≤ 0)
    (large : overflowLimit ≤ exact * 10 ^ n) : overflowLimit ≤ exact := by
  have positive : 0 < exact :=
    pos_of_mul_pos_left (overflowLimit_pos.trans_le large) (ten_zpow_pos n).le
  have shrinks : (10 : ℚ) ^ n ≤ 1 := zpow_le_one_of_nonpos₀ (by norm_num) short
  exact large.trans (mul_le_of_le_one_right positive.le shrinks)

theorem roomFor_eq_zero {q limit : Nat} (none : roomFor q limit = 0) :
    limit = 0 ∨ maxMantissa < q * 10 := by
  induction limit with
  | zero => exact .inl rfl
  | succ limit ih =>
      unfold roomFor at none
      split at none
      · cases none
      · rename_i large
        rcases ih none with rfl | large'
        · exact .inr (Nat.not_le.mp large)
        · exact .inr large'

theorem mul_roomFor_le {q : Nat} (room : q ≤ maxMantissa) (limit : Nat) :
    q * 10 ^ roomFor q limit ≤ maxMantissa := by
  induction limit with
  | zero => simpa [roomFor] using room
  | succ limit ih =>
      unfold roomFor
      split
      · assumption
      · exact ih

/-- The division so far: the digits and what is left of the dividend make up the quotient. -/
structure Dividing (b q r : Nat) (scale : Int) (exact : ℚ) : Prop where
  left_lt : r < b
  room : q ≤ maxMantissa
  scale_le : scale ≤ 28
  made : exact * 10 ^ scale = q + r / b

section Dividing

variable {b q r : Nat} {scale : Int} {exact : ℚ}

theorem Dividing.positive (d : Dividing b q r scale exact) : (0 : ℚ) < b := by
  exact_mod_cast Nat.zero_lt_of_lt d.left_lt

theorem Dividing.rest_lt (d : Dividing b q r scale exact) : (r : ℚ) / b < 1 :=
  (div_lt_one d.positive).mpr (by exact_mod_cast d.left_lt)

theorem Dividing.half_le_iff (d : Dividing b q r scale exact) :
    1 / 2 ≤ (r : ℚ) / b ↔ b ≤ 2 * r := by
  rw [div_le_div_iff₀ (by norm_num) d.positive, one_mul, mul_comm]
  exact_mod_cast Iff.rfl

theorem Dividing.le_half_iff (d : Dividing b q r scale exact) :
    (r : ℚ) / b ≤ 1 / 2 ↔ 2 * r ≤ b := by
  rw [div_le_div_iff₀ d.positive (by norm_num), one_mul, mul_comm]
  exact_mod_cast Iff.rfl

theorem Dividing.bring (d : Dividing b q r scale exact) (p : Nat) :
    exact * 10 ^ (scale + p) =
      (q * 10 ^ p + r * 10 ^ p / b : Nat) + ((r * 10 ^ p % b : Nat) : ℚ) / b := by
  have parts : (b * (r * 10 ^ p / b : Nat) + (r * 10 ^ p % b : Nat) : ℚ) = r * 10 ^ p := by
    exact_mod_cast Nat.div_add_mod (r * 10 ^ p) b
  have rest : (r : ℚ) / b * 10 ^ p =
      (r * 10 ^ p / b : Nat) + ((r * 10 ^ p % b : Nat) : ℚ) / b := by
    rw [div_mul_eq_mul_div, ← parts, add_div, mul_div_cancel_left₀ _ d.positive.ne']
  rw [zpow_add₀ (by norm_num), zpow_natCast, ← mul_assoc, d.made, add_mul, rest]
  push_cast
  ring

theorem Dividing.large (d : Dividing b q r scale exact) {p : Nat}
    (large : maxMantissa < q * 10 ^ p + r * 10 ^ p / b) :
    overflowLimit ≤ exact * 10 ^ (scale + p) := by
  rw [d.bring p]
  exact (overflowLimit_le_of_lt large).trans (le_add_of_nonneg_right (by positivity))

theorem Dividing.full (d : Dividing b q r scale exact)
    (none : roomFor q (min 9 (28 - scale).toNat) = 0) :
    scale = 28 ∨ overflowLimit ≤ exact * 10 ^ (scale + 1) := by
  have short := d.scale_le
  rcases roomFor_eq_zero none with last | large
  · omega
  · exact .inr (d.large (p := 1) (Nat.lt_of_lt_of_le large (Nat.le_add_right _ _)))

theorem Dividing.next (d : Dividing b q r scale exact) {p : Nat} (few : scale + p ≤ 28)
    (room : q * 10 ^ p + r * 10 ^ p / b ≤ maxMantissa) :
    Dividing b (q * 10 ^ p + r * 10 ^ p / b) (r * 10 ^ p % b) (scale + p) exact where
  left_lt := Nat.mod_lt _ (Nat.zero_lt_of_lt d.left_lt)
  room := room
  scale_le := few
  made := d.bring p

theorem rounds_of_scaled {digits : Nat} {inexact : Bool} (nonneg : 0 ≤ scale) (short : scale ≤ 28)
    (close : |digits - exact * 10 ^ scale| ≤ 1 / 2) (room : exact * 10 ^ scale < overflowLimit)
    (full : digits = exact * 10 ^ scale ∨ scale = 28 ∨ overflowLimit ≤ exact * 10 ^ (scale + 1)) :
    Quotient.Rounds ⟨digits, scale.toNat, inexact⟩ exact := by
  rw [← ten_pow_toNat nonneg] at close room
  refine ⟨Int.toNat_le.mpr short, close, room, ?_⟩
  rcases full with same | most | longer
  · rw [← ten_pow_toNat nonneg] at same
    exact .inl (by rw [Quotient.value, same, mul_div_cancel_right₀ _ (ten_pow_pos _).ne'])
  · exact .inr (.inl (by rw [most]; rfl))
  · rw [← ten_pow_toNat (by omega), Int.toNat_add nonneg (by decide)] at longer
    exact .inr (.inr longer)

theorem answers_shorten {digits : Nat} {more : Bool} (short : scale ≤ 28)
    (large : overflowLimit ≤ exact * 10 ^ scale) (room : tenth digits more < maxMantissa)
    (close : |tenth digits more - exact * 10 ^ scale / 10| ≤ 1 / 2) :
    Quotient.Answers exact (Quotient.shorten digits scale more) := by
  have place : exact * 10 ^ scale / 10 = exact * 10 ^ (scale - 1) := by
    rw [mul_div_assoc, zpow_sub_one₀ (by norm_num), div_eq_mul_inv]
  rw [place] at close
  unfold Quotient.shorten
  split
  · rename_i none
    exact overflowLimit_le_of_scaled none large
  · refine rounds_of_scaled (by omega) (by omega) close ?_ (.inr (.inr ?_))
    · have below : (tenth digits more : ℚ) < maxMantissa := by exact_mod_cast room
      have := (abs_le.mp close).1
      rw [overflowLimit]
      linarith
    · rwa [Int.sub_add_cancel]

theorem tenth_le (digits : Nat) (more : Bool) : tenth digits more ≤ digits / 10 + 1 := by
  unfold tenth
  dsimp only
  split <;> omega

theorem tenth_close {digits : Nat} {more : Bool} {rest : ℚ} (nonneg : 0 ≤ rest) (less : rest < 1)
    (none : more = false → rest = 0) : |tenth digits more - (digits + rest) / 10| ≤ 1 / 2 := by
  have parts : (10 * (digits / 10 : Nat) + (digits % 10 : Nat) : ℚ) = digits := by
    exact_mod_cast Nat.div_add_mod digits 10
  have digit : digits % 10 < 10 := Nat.mod_lt _ (by decide)
  unfold tenth
  dsimp only
  rw [← parts, abs_le]
  generalize digits % 10 = last at digit ⊢
  split
  · rename_i up
    have half : (5 : ℚ) ≤ last := by exact_mod_cast show 5 ≤ last by omega
    have most : (last : ℚ) ≤ 9 := by exact_mod_cast show last ≤ 9 by omega
    push_cast
    constructor <;> linarith
  · rename_i down
    rcases Nat.lt_or_ge last 5 with low | high
    · have most : (last : ℚ) ≤ 4 := by exact_mod_cast show last ≤ 4 by omega
      constructor <;> linarith
    · -- a half stays down only if nothing follows it
      have same : last = 5 := by omega
      have nothing := none (by cases more <;> simp_all)
      rw [same, nothing]
      constructor <;> push_cast <;> linarith

theorem Dividing.rounds_last (d : Dividing b q r scale exact) {digits : Nat} {inexact : Bool}
    (nonneg : 0 ≤ scale) (none : roomFor q (min 9 (28 - scale).toNat) = 0)
    (close : |digits - exact * 10 ^ scale| ≤ 1 / 2) (room : exact * 10 ^ scale < overflowLimit) :
    Quotient.Rounds ⟨digits, scale.toNat, inexact⟩ exact :=
  rounds_of_scaled nonneg d.scale_le close room (.inr (d.full none))

theorem Dividing.rounds_exact (d : Dividing b q 0 scale exact) (nonneg : 0 ≤ scale)
    (inexact : Bool) : Quotient.Rounds ⟨q, scale.toNat, inexact⟩ exact := by
  have made : exact * 10 ^ scale = q := by rw [d.made, Nat.cast_zero, zero_div, add_zero]
  refine rounds_of_scaled nonneg d.scale_le ?_ ?_ (.inl made.symm)
  · rw [made, sub_self, abs_zero]
    norm_num
  · rw [made]
    exact lt_of_le_of_lt (by exact_mod_cast d.room) maxMantissa_lt_overflowLimit

theorem Dividing.rounds_down (d : Dividing b q r scale exact) (nonneg : 0 ≤ scale)
    (none : roomFor q (min 9 (28 - scale).toNat) = 0) (down : 2 * r < b ∨ 2 * r = b ∧ q % 2 = 0) :
    Quotient.Rounds ⟨q, scale.toNat, true⟩ exact := by
  have half : (r : ℚ) / b ≤ 1 / 2 := d.le_half_iff.mpr (by omega)
  refine d.rounds_last nonneg none ?_ ?_
  · rw [d.made, sub_add_cancel_left, abs_neg, abs_of_nonneg (by positivity)]
    exact half
  · rw [d.made, overflowLimit]
    rcases down with less | ⟨-, even⟩
    · have less : (r : ℚ) / b < 1 / 2 := lt_of_not_ge (mt d.half_le_iff.mp (by omega))
      have room : (q : ℚ) ≤ maxMantissa := by exact_mod_cast d.room
      linarith
    · -- a tie stays down at even digits only, and the largest mantissa is odd
      have apart : q ≠ maxMantissa := by
        rintro rfl
        exact absurd even (by decide)
      have next : (q + 1 : ℚ) ≤ maxMantissa := by
        exact_mod_cast Nat.lt_of_le_of_ne d.room apart
      linarith

theorem Dividing.rounds_up (d : Dividing b q r scale exact) (nonneg : 0 ≤ scale)
    (none : roomFor q (min 9 (28 - scale).toNat) = 0) (up : b ≤ 2 * r) (room : q + 1 ≤ maxMantissa) :
    Quotient.Rounds ⟨q + 1, scale.toNat, true⟩ exact := by
  have half := d.half_le_iff.mpr up
  have less := d.rest_lt
  refine d.rounds_last nonneg none ?_ ?_
  · rw [d.made, abs_le]
    push_cast
    constructor <;> linarith
  · have next : (q + 1 : ℚ) ≤ maxMantissa := by exact_mod_cast room
    rw [d.made, overflowLimit]
    linarith

theorem Dividing.answers_carry (d : Dividing b maxMantissa r scale exact) (up : b ≤ 2 * r) :
    Quotient.Answers exact (Quotient.shorten (maxMantissa + 1) scale true) := by
  have half := d.half_le_iff.mpr up
  have less := d.rest_lt
  have tenth : tenth (maxMantissa + 1) true = 7_922_816_251_426_433_759_354_395_034 := by decide
  refine answers_shorten d.scale_le ?_ ?_ ?_
  · rw [d.made, overflowLimit]
    linarith
  · rw [tenth]
    decide
  · rw [tenth, d.made, abs_le]
    norm_num [maxMantissa]
    constructor <;> linarith

theorem Dividing.answers_long (d : Dividing b q r scale exact) {p : Nat} (few : scale + p ≤ 28)
    (most : p ≤ 9) (kept : q * 10 ^ p ≤ maxMantissa)
    (large : maxMantissa < q * 10 ^ p + r * 10 ^ p / b) :
    Quotient.Answers exact
      (Quotient.shorten (q * 10 ^ p + r * 10 ^ p / b) (scale + p) (r * 10 ^ p % b ≠ 0)) := by
  refine answers_shorten few (d.large large) ?_ ?_
  · have added : r * 10 ^ p / b < 10 ^ p :=
      Nat.div_lt_of_lt_mul (Nat.mul_lt_mul_of_pos_right d.left_lt (Nat.pow_pos (by decide)))
    have unit : 10 ^ p ≤ 10 ^ 9 := Nat.pow_le_pow_right (by decide) most
    have cut : (maxMantissa + 10 ^ 9) / 10 + 1 < maxMantissa := by decide
    have := tenth_le (q * 10 ^ p + r * 10 ^ p / b) (r * 10 ^ p % b ≠ 0)
    omega
  · rw [d.bring p]
    refine tenth_close (by positivity) ?_ ?_
    · rw [div_lt_one d.positive]
      exact_mod_cast Nat.mod_lt _ (Nat.zero_lt_of_lt d.left_lt)
    · intro none
      have nothing : r * 10 ^ p % b = 0 := by simpa using none
      rw [nothing, Nat.cast_zero, zero_div]

theorem divideFrom_answers (d : Dividing b q r scale exact) (inexact : Bool) :
    Quotient.Answers exact (divideFrom b q r scale inexact) := by
  -- `Dividing` holds ahead of every round: two cases go on with a further round, the others end
  fun_induction divideFrom b q r scale inexact with
  | case1 q scale inexact nonneg => exact d.rounds_exact nonneg inexact
  | case2 q scale inexact negative p longer large =>
      refine overflowLimit_le_of_scaled (n := scale + p) (by omega) (d.large ?_)
      exact Nat.lt_of_lt_of_le large (Nat.le_add_right _ _)
  | case3 q scale inexact negative p longer room ih =>
      have next := d.next (p := p) (by omega)
      rw [Nat.zero_mul, Nat.zero_div, Nat.add_zero, Nat.zero_mod] at next
      exact ih (next (Nat.not_lt.mp room))
  | case4 q r scale inexact some p none negative =>
      rcases d.full none with most | large
      · omega
      · exact overflowLimit_le_of_scaled (by omega) large
  | case5 q r scale inexact some p none nonneg down =>
      exact d.rounds_down (Int.not_lt.mp nonneg) none down
  | case6 q r scale inexact some p none nonneg up room =>
      exact d.rounds_up (Int.not_lt.mp nonneg) none (by omega) room
  | case7 q r scale inexact some p none nonneg up large =>
      obtain rfl : q = maxMantissa := Nat.le_antisymm d.room (Nat.not_lt.mp large)
      exact d.answers_carry (by omega)
  | case8 q r scale inexact some p digits longer left large =>
      have few : p ≤ min 9 (28 - scale).toNat := roomFor_le _ _
      have short := d.scale_le
      exact d.answers_long (by omega) (by omega) (mul_roomFor_le d.room _) large
  | case9 q r scale inexact some p digits longer left room ih =>
      have few : p ≤ min 9 (28 - scale).toNat := roomFor_le _ _
      have short := d.scale_le
      exact ih (d.next (by omega) (Nat.not_lt.mp room))

end Dividing

end CandleFeed.Decimal
