import CandleFeed.Json.Skip
import CandleFeed.Text.Integer

namespace CandleFeed.Json

structure Codec (α : Type) where
  read : Reader α
  write : α → List Char

/-- The fault of a value that has another type than the one wanted. A list or an object has the
wrong type as soon as it opens; any other value must first be a value. -/
def faultAt (cs : List Char) : Fault :=
  let outcome : Except Fault Unit :=
    match cs with
    | '[' :: _ | '{' :: _ => .ok ()
    | '"' :: _ => (readQuoted cs).map fun _ => ()
    | 'n' :: rest => (expect "ull".toList rest).map fun _ => ()
    | 't' :: rest => (expect "rue".toList rest).map fun _ => ()
    | 'f' :: rest => (expect "alse".toList rest).map fun _ => ()
    | _ => (readNumber cs).map fun _ => ()
  match outcome with
  | .error fault => fault
  | .ok () => .mismatch

def readText : Reader String := fun cs =>
  let cs := skipSpace cs
  match cs with
  | '"' :: _ => readQuoted cs
  | _ => .error (faultAt cs)

def readFlag : Reader Bool := fun cs =>
  match skipSpace cs with
  | 't' :: rest => (expect "rue".toList rest).map fun rest => (true, rest)
  | 'f' :: rest => (expect "alse".toList rest).map fun rest => (false, rest)
  | cs => .error (faultAt cs)

def readWithin (low high : Int) : Reader Int := fun cs =>
  let cs := skipSpace cs
  if startsNumber cs then do
    let (n, rest) ← readNumber cs
    match n.integer? with
    | some value => if low ≤ value ∧ value ≤ high then .ok (value, rest) else .error .mismatch
    | none => .error .mismatch
  else .error (faultAt cs)

def readNullable (read : Reader α) : Reader (Option α) := fun cs =>
  match skipSpace cs with
  | 'n' :: rest => (expect "ull".toList rest).map fun rest => (none, rest)
  | cs => (read cs).map fun (a, rest) => (some a, rest)

def readNull (cs : List Char) : Except Fault (List Char) :=
  match skipSpace cs with
  | 'n' :: rest => expect "ull".toList rest
  | cs => .error (faultAt cs)

/-- One of the named values: its name, or an object with that name as its only member, `null`. -/
def readNamed (find : String → Option α) : Reader α := fun cs =>
  match skipSpace cs with
  | '"' :: rest => do
      let (name, rest) ← readQuoted ('"' :: rest)
      match find name with
      | some a => .ok (a, rest)
      | none => .error .mismatch
  | '{' :: rest => do
      let (name, rest) ← readText rest
      match find name with
      | none => .error .mismatch
      | some a =>
          let rest ← readNull (← colon rest)
          match skipSpace rest with
          | '}' :: rest => .ok (a, rest)
          | _ => .error .malformed
  | _ => .error .malformed

def nextElement (first : Bool) (cs : List Char) : Except Fault (Option (List Char)) :=
  match skipSpace cs with
  | [] => .error .malformed
  | ']' :: _ => .ok none
  | c :: rest =>
      if first then .ok (some (c :: rest))
      else if c = ',' then
        match skipSpace rest with
        | [] | ']' :: _ => .error .malformed
        | rest => .ok (some rest)
      else .error .malformed

def endList (cs : List Char) : Except Fault (List Char) :=
  expect [']'] (skipSpace cs)

def readElements (read : Reader α) : (limit : Nat) → (first : Bool) → Reader (List α)
  | 0, _, _ => .error .malformed
  | limit + 1, first, cs =>
      match nextElement first cs with
      | .error fault => .error fault
      | .ok none => (endList cs).map fun rest => ([], rest)
      | .ok (some cs) =>
          match read cs with
          | .error fault => .error fault
          | .ok (a, rest) =>
              (readElements read limit false rest).map fun (as, rest) => (a :: as, rest)

def readList (read : Reader α) : Reader (List α) := fun cs =>
  match skipSpace cs with
  | '[' :: rest => readElements read (rest.length + 1) true rest
  | cs => .error (faultAt cs)

def commaSeparated : List (List Char) → List Char
  | [] => []
  | [cs] => cs
  | cs :: rest => cs ++ ',' :: commaSeparated rest

namespace Codec

def text : Codec String where
  read := readText
  write := quote

def flag : Codec Bool where
  read := readFlag
  write b := if b then "true".toList else "false".toList

def within (low high : Int) : Codec Int where
  read := readWithin low high
  write := Text.signedDigits

def int64 : Codec Int := within Text.minInt64 Text.maxInt64

def named (find : String → Option α) (name : α → String) : Codec α where
  read := readNamed find
  write a := quote (name a)

def list (codec : Codec α) : Codec (List α) where
  read := readList codec.read
  write as := '[' :: commaSeparated (as.map codec.write) ++ [']']

def refine (codec : Codec α) (parse : α → Option β) (render : β → α) : Codec β where
  read cs := do
    let (a, rest) ← codec.read cs
    match parse a with
    | some b => .ok (b, rest)
    | none => .error .mismatch
  write b := codec.write (render b)

def map (codec : Codec α) (into : α → β) (from' : β → α) : Codec β where
  read cs := (codec.read cs).map fun (a, rest) => (into a, rest)
  write b := codec.write (from' b)

def nat64 : Codec Nat :=
  (within 0 Text.maxUInt64).map Int.toNat Int.ofNat

def spelled (parse : List Char → Option α) (render : α → List Char) : Codec α :=
  text.refine (fun s => parse s.toList) fun a => String.ofList (render a)

def decode (codec : Codec α) (cs : List Char) : Except Fault α := do
  let (a, rest) ← codec.read cs
  if skipSpace rest = [] then .ok a else .error .malformed

def encode (codec : Codec α) (a : α) : String :=
  String.ofList (codec.write a)

end Codec

end CandleFeed.Json
