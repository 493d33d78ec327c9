import CandleFeed.Instant.Basic
import CandleFeed.Text.Integer
import CandleFeed.Text.Blank

/-!
# Reading instants

A date, one of `T`, `t` and space, a time of day with an optional fraction, and an offset from
universal time. Numbers need no padding and blanks may stand between the parts. Every reader takes
the text from its start and gives back what it did not use.
-/

namespace CandleFeed.Instant

def number? (limit : Nat) (cs : List Char) : Option (Nat × List Char) :=
  let cs := Text.stripStart cs
  let ds := (cs.take limit).takeWhile Char.isDigit
  (Text.digits? ds).map fun n => (n, cs.drop ds.length)

def literal? (c : Char) (cs : List Char) : Option (List Char) :=
  match Text.stripStart cs with
  | d :: rest => if c = d then some rest else none
  | [] => none

def year? (cs : List Char) : Option (Int × List Char) :=
  match Text.stripStart cs with
  | '-' :: rest => signed (-1) rest
  | '+' :: rest => signed 1 rest
  | rest => (number? 4 rest).map fun (n, rest) => ((n : Int), rest)
where
  signed (sign : Int) (rest : List Char) : Option (Int × List Char) :=
    let ds := rest.takeWhile Char.isDigit
    (Text.digits? ds).map fun n => (sign * n, rest.drop ds.length)

def date? (cs : List Char) : Option (Calendar.Date × List Char) := do
  let (year, rest) ← year? cs
  let (month, rest) ← number? 2 (← literal? '-' rest)
  let (day, rest) ← number? 2 (← literal? '-' rest)
  let date : Calendar.Date := ⟨year, month, day⟩
  if date.isValid then some (date, rest) else none

def fraction? (cs : List Char) : Option (Nat × List Char) :=
  match cs with
  | '.' :: rest =>
      let ds := rest.takeWhile Char.isDigit
      (Text.digits? (ds.take 9)).map fun n =>
        (n * Nat.pow 10 (9 - ds.length), rest.drop ds.length)
  | _ => some (0, cs)

def time? (cs : List Char) : Option ((Int × Nat) × List Char) := do
  let (hour, rest) ← number? 2 cs
  let (minute, rest) ← number? 2 (← literal? ':' rest)
  let (second, rest) ← number? 2 (← literal? ':' rest)
  let (nanos, rest) ← fraction? rest
  if 23 < hour ∨ 59 < minute ∨ 60 < second then none
  else
    let whole := hour * 3600 + minute * 60 + min second 59
    some (((whole : Int), if second = 60 then 1_000_000_000 + nanos else nanos), rest)

def pair? : List Char → Option (Nat × List Char)
  | a :: b :: rest => do some (10 * (← Text.digitValue? a) + (← Text.digitValue? b), rest)
  | _ => none

def isOffsetGap (c : Char) : Bool :=
  c = ':' || Text.isBlank c

def offsetSize? (cs : List Char) : Option (Int × List Char) := do
  let (hours, rest) ← pair? cs
  let (minutes, rest) ← pair? (rest.dropWhile isOffsetGap)
  let size := hours * 3600 + minutes * 60
  if 59 < minutes ∨ 86400 ≤ size then none else some ((size : Int), rest)

def offset? (cs : List Char) : Option (Int × List Char) :=
  let cs := Text.stripStart cs
  if (cs.take 3).map Char.toLower = ['u', 't', 'c'] then some (0, cs.drop 3)
  else
    match cs with
    | 'Z' :: rest | 'z' :: rest => some (0, rest)
    | '+' :: rest => offsetSize? rest
    | '-' :: rest | '−' :: rest => (offsetSize? rest).map fun (size, rest) => (-size, rest)
    | _ => none

def firstYear : Int := -262143

def lastYear : Int := 262142

def read? (cs : List Char) : Option Instant := do
  let (date, rest) ← date? cs
  let rest ← match rest with
    | 'T' :: rest | 't' :: rest | ' ' :: rest => some rest
    | _ => none
  let ((ofDay, nanos), rest) ← time? rest
  let (offset, rest) ← offset? rest
  if Text.stripStart rest ≠ [] ∨ date.year < firstYear ∨ lastYear < date.year then none
  else ofParts? (Calendar.dayOfDate date * secondsPerDay + ofDay - offset) nanos

end CandleFeed.Instant
