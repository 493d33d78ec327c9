import CandleFeed.Text.Integer

/-!
# Scaled decimals

A decimal is a sign, a mantissa of at most 96 bits and a scale from 0 to 28; it stands for
`mantissa / 10 ^ scale`. The scale is part of the written form, so `3` and `3.0` are different
decimals of the same value, and zero can carry a sign.
-/

namespace CandleFeed

def Decimal.maxMantissa : Nat := 79_228_162_514_264_337_593_543_950_335

structure Decimal where
  negative : Bool
  mantissa : Nat
  scale : Nat
  mantissa_le : mantissa ≤ Decimal.maxMantissa
  scale_le : scale ≤ 28
deriving DecidableEq

namespace Decimal

def maxScale : Nat := 28

theorem zero_le_maxScale : 0 ≤ maxScale := by decide

def zero : Decimal := ⟨false, 0, 0, by decide, zero_le_maxScale⟩

instance : Inhabited Decimal := ⟨zero⟩

def isZero (d : Decimal) : Bool :=
  d.mantissa == 0

def units (d : Decimal) : Int :=
  if d.negative then -(d.mantissa : Int) else d.mantissa

def compare (a b : Decimal) : Ordering :=
  Ord.compare (a.units * Nat.pow 10 b.scale) (b.units * Nat.pow 10 a.scale)

def same (a b : Decimal) : Bool :=
  a.units * Nat.pow 10 b.scale == b.units * Nat.pow 10 a.scale

instance : LT Decimal := ⟨fun a b => a.units * Nat.pow 10 b.scale < b.units * Nat.pow 10 a.scale⟩

instance : LE Decimal := ⟨fun a b => a.units * Nat.pow 10 b.scale ≤ b.units * Nat.pow 10 a.scale⟩

instance (a b : Decimal) : Decidable (a < b) := Int.decLt _ _

instance (a b : Decimal) : Decidable (a ≤ b) := Int.decLe _ _

theorem lt_iff {a b : Decimal} :
    a < b ↔ a.units * Nat.pow 10 b.scale < b.units * Nat.pow 10 a.scale :=
  Iff.rfl

theorem le_iff {a b : Decimal} :
    a ≤ b ↔ a.units * Nat.pow 10 b.scale ≤ b.units * Nat.pow 10 a.scale :=
  Iff.rfl

theorem zero_lt_iff {d : Decimal} : zero < d ↔ 0 < d.units := by
  simp [lt_iff, zero, units]

theorem zero_le_iff {d : Decimal} : zero ≤ d ↔ 0 ≤ d.units := by
  simp [le_iff, zero, units]

theorem isZero_iff {d : Decimal} : d.isZero = true ↔ d.units = 0 := by
  simp only [isZero, beq_iff_eq, units]
  split <;> omega

def negate (d : Decimal) : Decimal :=
  if d.isZero then d else { d with negative := !d.negative }

def render (d : Decimal) : List Char :=
  let ds := Text.paddedDigits (d.scale + 1) d.mantissa
  let whole := ds.take (ds.length - d.scale)
  let places := ds.drop (ds.length - d.scale)
  let unsigned := if d.scale = 0 then whole else whole ++ '.' :: places
  if d.negative then '-' :: unsigned else unsigned

instance : ToString Decimal := ⟨fun d => String.ofList d.render⟩

example : toString (⟨false, 30, 1, by decide, by decide⟩ : Decimal) = "3.0" := by decide +kernel
example : toString (⟨true, 0, 2, by decide, by decide⟩ : Decimal) = "-0.00" := by decide +kernel
example : toString (⟨true, 12345, 5, by decide, by decide⟩ : Decimal) = "-0.12345" := by
  decide +kernel

end Decimal

end CandleFeed
