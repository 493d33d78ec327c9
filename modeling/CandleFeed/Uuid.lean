import CandleFeed.Json.Codec

namespace CandleFeed

structure Uuid where
  value : BitVec 128
deriving DecidableEq

namespace Uuid

def groups : List Nat := [8, 4, 4, 4, 12]

def hexDigits (n : Nat) : (count : Nat) → List Char
  | 0 => []
  | count + 1 => hexDigits (n / 16) count ++ [Json.hexDigit (n % 16)]

def hyphenate : List Nat → List Char → List Char
  | [], ds => ds
  | [_], ds => ds
  | size :: sizes, ds => ds.take size ++ '-' :: hyphenate sizes (ds.drop size)

def render (id : Uuid) : List Char :=
  hyphenate groups (hexDigits id.value.toNat 32)

instance : ToString Uuid := ⟨fun id => String.ofList id.render⟩

def ofHex? (ds : List Char) : Option Nat :=
  ds.foldlM (fun n c => (Json.hexValue? c).map (16 * n + ·)) 0

def unhyphenate? : List Nat → List Char → Option (List Char)
  | [], cs => some cs
  | [size], cs => if cs.length = size then some cs else none
  | size :: sizes, cs =>
      match cs.drop size with
      | '-' :: rest => (unhyphenate? sizes rest).map (cs.take size ++ ·)
      | _ => none

def urnStart : List Char := "urn:uuid:".toList

def isUrn (cs : List Char) : Bool :=
  urnStart.isPrefixOf (cs.map Char.toLower)

/-- A UUID of 32 digits: plain, hyphenated, or hyphenated in braces or behind `urn:uuid:`. -/
def parse? (cs : List Char) : Option Uuid := do
  let ds ←
    if cs.length = 32 then some cs
    else if isUrn cs then unhyphenate? groups (cs.drop urnStart.length)
    else
      match cs with
      | '\x7b' :: rest =>
          if rest.getLast? = some '\x7d' then unhyphenate? groups rest.dropLast else none
      | _ => unhyphenate? groups cs
  some ⟨BitVec.ofNat 128 (← ofHex? ds)⟩

def codec : Json.Codec Uuid :=
  .spelled parse? render

/-- A source of ids that count on. Later ones sort behind. -/
def serial (n : Nat) : Uuid :=
  ⟨BitVec.ofNat 128 (0x01932a00000070008000000000000000 + n)⟩

example : toString (serial 1) = "01932a00-0000-7000-8000-000000000001" := by decide +kernel

end Uuid

end CandleFeed
