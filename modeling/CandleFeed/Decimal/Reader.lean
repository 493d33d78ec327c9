import CandleFeed.Decimal.Arithmetic

/-!
# Reading decimals

`parsePlain?` reads an optional sign, digits and at most one point; `_` may separate digits. Places
that the mantissa has no room for are rounded away, a half upwards. `parseScientific?` adds a power
of ten after `e` or `E`. `parse?` takes either form.
-/

namespace CandleFeed.Decimal

def ofParts? (negative : Bool) (m s : Nat) : Option Decimal :=
  if room : m ≤ maxMantissa ∧ s ≤ 28 then
    some ⟨negative && m != 0, m, s, room.1, room.2⟩
  else none

def roundAway? (negative : Bool) (m s digit : Nat) : Option Decimal :=
  if digit < 5 then ofParts? negative m s
  else if m + 1 ≤ maxMantissa then ofParts? negative (m + 1) s
  else if s = 0 then none
  else ofParts? negative ((m + 1 + 4) / 10) (s - 1)

def isDigitOrSeparator (c : Char) : Bool :=
  c.isDigit || c == '_'

/-- A mantissa that may not take a further digit in 64 bits. -/
def longMantissa : Nat :=
  Text.maxUInt64 / 10 - 255

/-- The places after the point. `seen` says whether there was a digit yet, and `long` whether the
mantissa was long before its last digit: then a separator at the rounding place is passed over, and
otherwise it stands for the digit 0. -/
def parsePlaces (negative seen long : Bool) (m s : Nat) : List Char → Option Decimal
  | [] => if seen then ofParts? negative m s else none
  | c :: rest =>
      if c = '_' then
        if !seen then none
        else if s = maxScale ∧ !long then
          if rest.all isDigitOrSeparator then ofParts? negative m s else none
        else parsePlaces negative seen long m s rest
      else
        match Text.digitValue? c with
        | none => none
        | some d =>
            if s < maxScale ∧ m * 10 + d ≤ maxMantissa then
              parsePlaces negative true (longMantissa ≤ m) (m * 10 + d) (s + 1) rest
            else if rest.all isDigitOrSeparator then roundAway? negative m s d
            else none

def parseWhole (negative seen : Bool) (m : Nat) : List Char → Option Decimal
  | [] => if seen then ofParts? negative m 0 else none
  | c :: rest =>
      if c = '.' then parsePlaces negative seen (longMantissa ≤ m) m 0 rest
      else if c = '_' then
        if seen then parseWhole negative seen m rest else none
      else
        match Text.digitValue? c with
        | none => none
        | some d =>
            if m * 10 + d ≤ maxMantissa then parseWhole negative true (m * 10 + d) rest else none

def parsePlain? (cs : List Char) : Option Decimal :=
  match cs with
  | '-' :: rest => parseWhole true false 0 rest
  | '+' :: rest => parseWhole false false 0 rest
  | _ => parseWhole false false 0 cs

def powerOfTen (n : Nat) (h : n ≤ 28) : Decimal :=
  ⟨false, Nat.pow 10 n, 0, Nat.le_trans (Nat.pow_le_pow_right (by decide) h) (by decide),
    zero_le_maxScale⟩

def trimZeros (d : Decimal) : Decimal :=
  if d.mantissa = 0 then zero else go d.scale d
where
  go : Nat → Decimal → Decimal
    | 0, d => d
    | rounds + 1, d =>
        if d.scale ≠ 0 ∧ d.mantissa % 10 = 0 then
          go rounds ⟨d.negative, d.mantissa / 10, d.scale - 1,
            Nat.le_trans (Nat.div_le_self _ _) d.mantissa_le,
            Nat.le_trans (Nat.sub_le _ _) d.scale_le⟩
        else d

def withScale? (d : Decimal) (scale : Nat) : Option Decimal :=
  if h : scale ≤ 28 then some { d with scale := scale, scale_le := h } else none

theorem succ_tenth_le (d : Decimal) (power : Nat) : d.mantissa / power / 10 + 1 ≤ maxMantissa := by
  have := Nat.div_le_self d.mantissa power
  have := d.mantissa_le
  unfold maxMantissa at *
  omega

/-- `d` with at most 28 of `scale` places; the first place that is dropped decides the rounding, a
half away from zero. -/
def cutPlaces (d : Decimal) (scale : Nat) : Decimal :=
  if h : scale ≤ 28 then { d with scale := scale, scale_le := h }
  else
    let power := Nat.pow 10 (scale - 29)
    let room := d.succ_tenth_le power
    if d.mantissa / power % 10 < 5 then
      ⟨d.negative, d.mantissa / power / 10, 28, Nat.le_of_succ_le room, Nat.le_refl 28⟩
    else ⟨d.negative, d.mantissa / power / 10 + 1, 28, room, Nat.le_refl 28⟩

def shiftDown? (d : Decimal) (n : Nat) : Option Decimal :=
  if n ≤ maxScale then some (d.cutPlaces (d.scale + n)) else none

/-- `d` times `10 ^ n`: the point moves over the places there are; beyond them the digits grow and
the zeros at the end of the places go. -/
def shiftUp? (d : Decimal) (n : Nat) : Option Decimal :=
  if n ≤ d.scale then d.withScale? (d.scale - n)
  else if h : n ≤ 28 then (d.mul (powerOfTen n h)).map trimZeros
  else none

def parseScientific? (cs : List Char) : Option Decimal :=
  let isMark := fun c => c == 'e' || c == 'E'
  match cs.dropWhile (!isMark ·) with
  | [] => none
  | _ :: power => do
      let base ← parsePlain? (cs.takeWhile (!isMark ·))
      match power with
      | '-' :: power => base.shiftDown? (← Text.natural? (UInt32.size - 1) power)
      | _ => base.shiftUp? (← Text.natural? (UInt32.size - 1) power)

def parse? (cs : List Char) : Option Decimal :=
  (parsePlain? cs).or (parseScientific? cs)

end CandleFeed.Decimal
