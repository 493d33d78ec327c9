

namespace CandleFeed.Text

def digitValue? (c : Char) : Option Nat :=
  if c.isDigit then some (c.toNat - '0'.toNat) else none

def appendDigits (n : Nat) (cs : List Char) : Nat :=
  cs.foldl (fun n c => 10 * n + (c.toNat - '0'.toNat)) n

def digits? (cs : List Char) : Option Nat :=
  if cs ≠ [] ∧ cs.all Char.isDigit then some (appendDigits 0 cs) else none

def natural? (limit : Nat) (cs : List Char) : Option Nat :=
  (digits? (match cs with | '+' :: rest => rest | _ => cs)).filter (· ≤ limit)

def integer? (low high : Int) (cs : List Char) : Option Int :=
  let value : Option Int :=
    match cs with
    | '-' :: rest => (digits? rest).map fun n => -(n : Int)
    | '+' :: rest => (digits? rest).map fun n => (n : Int)
    | _ => (digits? cs).map fun n => (n : Int)
  value.filter fun n => low ≤ n && n ≤ high

def digits (n : Nat) : List Char :=
  Nat.toDigits 10 n

def signedDigits (n : Int) : List Char :=
  if n < 0 then '-' :: digits n.natAbs else digits n.natAbs

def showInteger (n : Int) : String :=
  String.ofList (signedDigits n)

def showNatural (n : Nat) : String :=
  String.ofList (digits n)

def paddedDigits (width n : Nat) : List Char :=
  List.replicate (width - (digits n).length) '0' ++ digits n

def maxUInt64 : Nat := 18_446_744_073_709_551_615

def minInt64 : Int := -9_223_372_036_854_775_808

def maxInt64 : Int := 9_223_372_036_854_775_807

end CandleFeed.Text
