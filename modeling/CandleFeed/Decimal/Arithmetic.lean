import CandleFeed.Decimal.Rounding

/-!
# Decimal arithmetic

Sum, difference, product and quotient. Each is the exact result put into a decimal by `fit` or, for
the quotient, cut off and rounded when the mantissa is full; it is `none` when the whole part has
no room. An operand that is zero is answered before any scale is aligned.
-/

namespace CandleFeed.Decimal

def commonScale (a b : Decimal) : Nat :=
  max a.scale b.scale

def unitsAt (d : Decimal) (scale : Nat) : Int :=
  d.units * Nat.pow 10 (scale - d.scale)

def isShort (d : Decimal) : Bool :=
  d.mantissa < UInt32.size

/-- The sum. Zero adds nothing, not even places. Two operands that cancel leave a zero that is not
negative. -/
def add (a b : Decimal) : Option Decimal :=
  if a.isZero then some b
  else if b.isZero then some a
  else
    let scale := a.commonScale b
    let total := a.unitsAt scale + b.unitsAt scale
    fit (total < 0) total.natAbs scale

def sub (a b : Decimal) : Option Decimal :=
  a.add b.negate

def signedByValue (d : Decimal) : Decimal :=
  { d with negative := d.negative && !d.isZero }

/-- The product. Zero makes a plain zero, and so does a product of two short mantissas with more
than 47 places. A negative product that is rounded to zero stays negative, unless both mantissas
are short. -/
def mul (a b : Decimal) : Option Decimal :=
  if a.isZero || b.isZero then some zero
  else
    let places := a.scale + b.scale
    let product := fit (a.negative != b.negative) (a.mantissa * b.mantissa) places
    if a.isShort && b.isShort then
      if 47 < places then some zero else product.map signedByValue
    else product

/-- The largest `p ≤ limit` for which `q` has room for `p` more digits. -/
def roomFor (q : Nat) : (limit : Nat) → Nat
  | 0 => 0
  | limit + 1 => if q * Nat.pow 10 (limit + 1) ≤ maxMantissa then limit + 1 else roomFor q limit

theorem roomFor_le (q limit : Nat) : roomFor q limit ≤ limit := by
  induction limit with
  | zero => simp [roomFor]
  | succ limit ih =>
      unfold roomFor
      split <;> omega

/-- A tenth, to the nearest. A half goes up if digits were cut off behind it, and to the even
neighbour otherwise. -/
def tenth (q : Nat) (more : Bool) : Nat :=
  let r := q % 10
  if 5 < r ∨ (r = 5 ∧ (more ∨ q / 10 % 2 = 1)) then q / 10 + 1 else q / 10

structure Quotient where
  digits : Nat
  scale : Nat
  inexact : Bool

def Quotient.shorten (q : Nat) (scale : Int) (more : Bool) : Option Quotient :=
  if scale ≤ 0 then none else some ⟨tenth q more, (scale - 1).toNat, true⟩

/-- Long division: `q` is the quotient so far, `r` its remainder by `b`, `scale` its places. Each
round brings down as many digits as there is room for, at most nine. -/
def divideFrom (b q r : Nat) (scale : Int) (inexact : Bool) : Option Quotient :=
  if r = 0 then
    if 0 ≤ scale then some ⟨q, scale.toNat, inexact⟩
    else
      let p := min 9 (-scale).toNat
      let longer := q * Nat.pow 10 p
      if maxMantissa < longer then none else divideFrom b longer 0 (scale + p) inexact
  else
    let p := roomFor q (min 9 (28 - scale).toNat)
    if p = 0 then
      if scale < 0 then none
      else if 2 * r < b ∨ (2 * r = b ∧ q % 2 = 0) then some ⟨q, scale.toNat, true⟩
      else if q + 1 ≤ maxMantissa then some ⟨q + 1, scale.toNat, true⟩
      else Quotient.shorten (q + 1) scale true
    else
      let longer := q * Nat.pow 10 p + r * Nat.pow 10 p / b
      let left := r * Nat.pow 10 p % b
      if maxMantissa < longer then Quotient.shorten longer (scale + p) (left ≠ 0)
      else divideFrom b longer left (scale + p) true
termination_by (28 - scale).toNat
decreasing_by
  · have : ¬ 0 ≤ scale := by assumption
    omega
  · rename_i hp _
    have : roomFor q (min 9 (28 - scale).toNat) ≤ min 9 (28 - scale).toNat := roomFor_le _ _
    omega

def Quotient.dropZeros (q : Quotient) (places : Nat) : Quotient :=
  if places ≤ q.scale ∧ q.digits % Nat.pow 10 places = 0 then
    { q with digits := q.digits / Nat.pow 10 places, scale := q.scale - places }
  else q

def Quotient.dropEights : (rounds : Nat) → Quotient → Quotient
  | 0, q => q
  | rounds + 1, q =>
      if 8 ≤ q.scale ∧ q.digits % UInt32.size = 0 ∧ q.digits % 100_000_000 = 0 then
        dropEights rounds { q with digits := q.digits / 100_000_000, scale := q.scale - 8 }
      else q

/-- A quotient that is not exact loses zeros at its end, in steps of eight, four, two and one. -/
def Quotient.tidy (q : Quotient) : Quotient :=
  if q.inexact then
    let q := q.dropEights (q.scale / 8)
    let q := if q.digits % 16 = 0 then q.dropZeros 4 else q
    let q := if q.digits % 4 = 0 then q.dropZeros 2 else q
    if q.digits % 2 = 0 then q.dropZeros 1 else q
  else q

def Quotient.toDecimal (q : Quotient) (negative : Bool) : Option Decimal :=
  if room : q.digits ≤ maxMantissa ∧ q.scale ≤ 28 then
    some ⟨negative, q.digits, q.scale, room.1, room.2⟩
  else none

def div (a b : Decimal) : Option Decimal :=
  if a.isZero then some zero
  else do
    let q ← divideFrom b.mantissa (a.mantissa / b.mantissa) (a.mantissa % b.mantissa)
      ((a.scale : Int) - b.scale) false
    q.tidy.toDecimal (a.negative != b.negative)

theorem add_zero_left {a : Decimal} (b : Decimal) (h : a.isZero = true) : a.add b = some b := by
  simp [add, h]

theorem add_zero_right {a b : Decimal} (ha : a.isZero = false) (hb : b.isZero = true) :
    a.add b = some a := by
  simp [add, ha, hb]

theorem isZero_signedByValue (d : Decimal) : d.signedByValue.isZero = d.isZero := rfl

theorem units_signedByValue (d : Decimal) : d.signedByValue.units = d.units := by
  by_cases zero : d.mantissa = 0 <;> simp [signedByValue, isZero, units, zero]

theorem mul_zero_left {a : Decimal} (b : Decimal) (h : a.isZero = true) :
    a.mul b = some zero := by
  simp [mul, h]

end CandleFeed.Decimal
