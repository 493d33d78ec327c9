import CandleFeed.Json.Quoted
import CandleFeed.Text.Integer

namespace CandleFeed

inductive SocketAddress
  | v4 (octets : List Nat) (port : Nat)
  | v6 (groups : List Nat) (scope port : Nat)
deriving DecidableEq

namespace SocketAddress

def number? (value : Char → Option Nat) (base width : Nat) (zeros : Bool) (cs : List Char) :
    Option (Nat × List Char) :=
  let ds := cs.takeWhile fun c => (value c).isSome
  if ds = [] ∨ width < ds.length ∨ (!zeros ∧ ds.head? = some '0' ∧ ds.length ≠ 1) then none
  else
    some (ds.foldl (fun n c => base * n + (value c).getD 0) 0, cs.drop ds.length)

def bounded? (limit : Nat) (cs : List Char) : Option (Nat × List Char) :=
  (number? Text.digitValue? 10 cs.length true cs).filter fun (n, _) => n ≤ limit

def octet? (cs : List Char) : Option (Nat × List Char) :=
  (number? Text.digitValue? 10 3 false cs).filter fun (n, _) => n ≤ 255

def group? (cs : List Char) : Option (Nat × List Char) :=
  number? Json.hexValue? 16 4 true cs

def behind? (c : Char) : List Char → Option (List Char)
  | d :: rest => if c = d then some rest else none
  | [] => none

def octets? (cs : List Char) : Option (List Nat × List Char) := do
  let (a, rest) ← octet? cs
  let (b, rest) ← octet? (← behind? '.' rest)
  let (c, rest) ← octet? (← behind? '.' rest)
  let (d, rest) ← octet? (← behind? '.' rest)
  some ([a, b, c, d], rest)

/-- Up to `limit` groups with colons between them, and whether the last two were written as four
octets. `found` holds the groups so far. -/
def groups (found : List Nat) : (limit : Nat) → List Char → List Nat × Bool × List Char
  | 0, cs => (found, false, cs)
  | limit + 1, cs =>
      let start? := if found = [] then some cs else behind? ':' cs
      let embedded := if limit = 0 then none else start?.bind octets?
      match embedded with
      | some ([a, b, c, d], rest) => (found ++ [256 * a + b, 256 * c + d], true, rest)
      | _ =>
          match start?.bind group? with
          | some (n, rest) => groups (found ++ [n]) limit rest
          | none => (found, false, cs)

def ipv6? (cs : List Char) : Option (List Nat × List Char) :=
  let (front, embedded, rest) := groups [] 8 cs
  if front.length = 8 then some (front, rest)
  else if embedded then none
  else do
    let rest ← behind? ':' (← behind? ':' rest)
    let (back, _, rest) := groups [] (7 - front.length) rest
    some (front ++ List.replicate (8 - front.length - back.length) 0 ++ back, rest)

def port? (cs : List Char) : Option (Nat × List Char) := do
  bounded? 65535 (← behind? ':' cs)

def v4? (cs : List Char) : Option SocketAddress := do
  let (octets, rest) ← octets? cs
  let (port, rest) ← port? rest
  if rest = [] then some (.v4 octets port) else none

def v6? (cs : List Char) : Option SocketAddress := do
  let (groups, rest) ← ipv6? (← behind? '[' cs)
  let (scope, rest) := match rest with
    | '%' :: digits => (bounded? (UInt32.size - 1) digits).getD (0, rest)
    | _ => (0, rest)
  let (port, rest) ← port? (← behind? ']' rest)
  if rest = [] then some (.v6 groups scope port) else none

def parse? (cs : List Char) : Option SocketAddress :=
  (v4? cs).or (v6? cs)

def renderOctets (octets : List Nat) : String :=
  ".".intercalate (octets.map Text.showNatural)

def renderGroups (groups : List Nat) : String :=
  ":".intercalate (groups.map fun n => String.ofList (Nat.toDigits 16 n))

def longestZeros (groups : List Nat) : Nat × Nat :=
  let runs := (List.range groups.length).map fun start =>
    (start, ((groups.drop start).takeWhile (· = 0)).length)
  runs.foldl (fun best run => if best.2 < run.2 then run else best) (0, 0)

def renderIpv6 (groups : List Nat) : String :=
  match groups with
  | [0, 0, 0, 0, 0, 0xffff, high, low] =>
      "::ffff:" ++ renderOctets [high / 256, high % 256, low / 256, low % 256]
  | _ =>
      let (start, length) := longestZeros groups
      if 1 < length then
        renderGroups (groups.take start) ++ "::" ++ renderGroups (groups.drop (start + length))
      else renderGroups groups

def render : SocketAddress → String
  | v4 octets port => renderOctets octets ++ ":" ++ Text.showNatural port
  | v6 groups scope port =>
      let zone := if scope = 0 then "" else "%" ++ Text.showNatural scope
      "[" ++ renderIpv6 groups ++ zone ++ "]:" ++ Text.showNatural port

example : (parse? "[::ffff:1.2.3.4]:5".toList).map render = some "[::ffff:1.2.3.4]:5" := by
  decide +kernel
example : (parse? "[1:0:0:2::%7]:080".toList).map render = some "[1:0:0:2::%7]:80" := by
  decide +kernel

end SocketAddress

end CandleFeed
