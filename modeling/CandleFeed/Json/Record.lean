import CandleFeed.Json.Codec

/-!
# Records

A record is written as an object with its members in order; a member without a value is left out.
It is read from an object, whose members may come in any order and among others, or from a list of
its members in order.
-/

namespace CandleFeed.Json

/-- The members of a record. `σ` holds a slot for each, `τ` its value. -/
inductive Members : Type → Type → Type 1
  | nil : Members Unit Unit
  | field {α σ τ : Type} (name : String) (codec : Codec α) (rest : Members σ τ) :
      Members (Option α × σ) (α × τ)
  /-- A member that may be missing or `null`. If `droppable`, a list of members may end before
  it. -/
  | optional {α σ τ : Type} (name : String) (codec : Codec α) (droppable : Bool)
      (rest : Members σ τ) : Members (Option (Option α) × σ) (Option α × τ)

namespace Members

def empty : Members σ τ → σ
  | .nil => ()
  | .field _ _ rest => (none, rest.empty)
  | .optional _ _ _ rest => (none, rest.empty)

def finish : Members σ τ → σ → Option τ
  | .nil, () => some ()
  | .field _ _ rest, (slot, slots) => do some (← slot, ← rest.finish slots)
  | .optional _ _ _ rest, (slot, slots) => do some (slot.join, ← rest.finish slots)

def fill (read : Reader α) (slot : Option α) : Reader (Option α) := fun cs =>
  if slot.isSome then .error .mismatch
  else do
    let (a, rest) ← read (← colon cs)
    .ok (some a, rest)

def readMember : Members σ τ → σ → (name : String) → List Char →
    Option (Except Fault (σ × List Char))
  | .nil, _, _, _ => none
  | .field own codec rest, (slot, slots), name, cs =>
      if name = own then
        some ((fill codec.read slot cs).map fun (slot, cs) => ((slot, slots), cs))
      else
        (rest.readMember slots name cs).map fun outcome =>
          outcome.map fun (slots, cs) => ((slot, slots), cs)
  | .optional own codec _ rest, (slot, slots), name, cs =>
      if name = own then
        some ((fill (readNullable codec.read) slot cs).map fun (slot, cs) => ((slot, slots), cs))
      else
        (rest.readMember slots name cs).map fun outcome =>
          outcome.map fun (slots, cs) => ((slot, slots), cs)

def readNamedMember (members : Members σ τ) (slots : σ) : Reader σ := fun cs => do
  let (name, rest) ← readQuoted cs
  match members.readMember slots name rest with
  | some outcome => outcome
  | none =>
      let rest ← skipValue (← colon rest)
      .ok (slots, rest)

def readObject (members : Members σ τ) : (limit : Nat) → (first : Bool) → σ → Reader τ
  | 0, _, _, _ => .error .malformed
  | limit + 1, first, slots, cs =>
      match skipSpace cs with
      | '}' :: rest =>
          match members.finish slots with
          | some record => .ok (record, rest)
          | none => .error .mismatch
      | c :: rest =>
          let start := if first then c :: rest else skipSpace rest
          if !first ∧ c ≠ ',' then .error .malformed
          else
            match members.readNamedMember slots start with
            | .error fault => .error fault
            | .ok (slots, rest) => members.readObject limit false slots rest
      | [] => .error .malformed

def readTuple : Members σ τ → (first : Bool) → Reader τ
  | .nil, _, cs => (endList cs).map fun rest => ((), rest)
  | .field _ codec rest, first, cs => do
      match ← nextElement first cs with
      | none => .error .mismatch
      | some cs =>
          let (a, cs) ← codec.read cs
          let (more, cs) ← rest.readTuple false cs
          .ok ((a, more), cs)
  | .optional _ codec droppable rest, first, cs => do
      match ← nextElement first cs with
      | none =>
          if droppable then
            let (more, cs) ← rest.readTuple first cs
            .ok ((none, more), cs)
          else .error .mismatch
      | some cs =>
          let (a, cs) ← readNullable codec.read cs
          let (more, cs) ← rest.readTuple false cs
          .ok ((a, more), cs)

def writeMember (name : String) (value : List Char) : List Char :=
  quote name ++ ':' :: value

def write : Members σ τ → τ → List (List Char)
  | .nil, () => []
  | .field name codec rest, (a, more) => writeMember name (codec.write a) :: rest.write more
  | .optional name codec _ rest, (a, more) =>
      match a with
      | some a => writeMember name (codec.write a) :: rest.write more
      | none => rest.write more

end Members

def object (members : List (List Char)) : List Char :=
  '{' :: commaSeparated members ++ ['}']

namespace Codec

def record (members : Members σ τ) : Codec τ where
  read cs :=
    match skipSpace cs with
    | '[' :: rest => members.readTuple true rest
    | '{' :: rest => members.readObject (rest.length + 1) true members.empty rest
    | cs => .error (faultAt cs)
  write a := object (members.write a)

end Codec

end CandleFeed.Json
