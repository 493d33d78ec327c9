import CandleFeed.Json.Fault
import CandleFeed.Text.Integer

namespace CandleFeed.Json

structure Number where
  negative : Bool
  whole : List Char
  places : List Char
  power : Option (Bool × List Char)

def takeDigits (cs : List Char) : List Char × List Char :=
  (cs.takeWhile Char.isDigit, cs.dropWhile Char.isDigit)

def someDigits : Reader (List Char) := fun cs =>
  let (ds, rest) := takeDigits cs
  if ds = [] then .error .malformed else .ok (ds, rest)

def readWhole : Reader (List Char) := fun cs => do
  let (ds, rest) ← someDigits cs
  if ds.head? = some '0' ∧ ds.length ≠ 1 then .error .malformed else .ok (ds, rest)

def readPlaces : Reader (List Char)
  | '.' :: rest => someDigits rest
  | rest => .ok ([], rest)

def readPower : Reader (Option (Bool × List Char)) := fun cs =>
  match cs with
  | 'e' :: rest | 'E' :: rest => do
      let (negative, rest) := match rest with
        | '-' :: rest => (true, rest)
        | '+' :: rest => (false, rest)
        | _ => (false, rest)
      let (ds, rest) ← someDigits rest
      .ok (some (negative, ds), rest)
  | _ => .ok (none, cs)

def scanNumber : Reader Number := fun cs => do
  let (negative, rest) := match cs with
    | '-' :: rest => (true, rest)
    | _ => (false, cs)
  let (whole, rest) ← readWhole rest
  let (places, rest) ← readPlaces rest
  let (power, rest) ← readPower rest
  .ok (⟨negative, whole, places, power⟩, rest)

/-- The digits that a word of 64 bits has room for, as a number, and how many they are. -/
def leadingDigits (ds : List Char) : Nat × Nat :=
  go 0 0 ds
where
  go (value count : Nat) : List Char → Nat × Nat
    | [] => (value, count)
    | d :: rest =>
        let longer := Text.appendDigits value [d]
        if longer ≤ Text.maxUInt64 then go longer (count + 1) rest else (value, count)

def roundTo53Bits (n : Nat) : Nat :=
  let unit := Nat.pow 2 (n.log2 - 52)
  let q := n / unit
  let twice := 2 * (n % unit)
  if twice < unit ∨ (twice = unit ∧ q % 2 = 0) then q * unit else (q + 1) * unit

def infinityThreshold : Nat := Nat.pow 2 1024 - Nat.pow 2 970

def Number.isTooLarge (n : Number) : Bool :=
  let (significand, count) := leadingDigits (n.whole ++ n.places)
  let shift : Int := n.whole.length - count
  let power : Int := match n.power with
    | none => 0
    | some (negative, ds) =>
        let size := Text.appendDigits 0 ds
        if negative then -(size : Int) else size
  let exponent := shift + power
  if significand = 0 ∨ exponent < 0 then false
  else if 308 < exponent then true
  else infinityThreshold ≤ roundTo53Bits significand * roundTo53Bits (Nat.pow 10 exponent.toNat)

def readNumber : Reader Number := fun cs => do
  let (n, rest) ← scanNumber cs
  if n.isTooLarge then .error .malformed else .ok (n, rest)

def Number.integer? (n : Number) : Option Int :=
  if n.places ≠ [] ∨ n.power.isSome then none
  else
    let magnitude := Text.appendDigits 0 n.whole
    if n.negative then if magnitude = 0 then none else some (-magnitude)
    else some magnitude

def startsNumber : List Char → Bool
  | c :: _ => c == '-' || c.isDigit
  | [] => false

end CandleFeed.Json
