

namespace CandleFeed.Text.Utf8

def width (c : Char) : Nat :=
  if c.toNat < 0x80 then 1 else if c.toNat < 0x800 then 2 else if c.toNat < 0x10000 then 3 else 4

def size (s : String) : Nat :=
  s.utf8ByteSize

def encodeChar (c : Char) : List UInt8 :=
  let n := c.toNat
  match width c with
  | 1 => [.ofNat n]
  | 2 => [.ofNat (0xC0 + n / 0x40), .ofNat (0x80 + n % 0x40)]
  | 3 => [.ofNat (0xE0 + n / 0x1000), .ofNat (0x80 + n / 0x40 % 0x40), .ofNat (0x80 + n % 0x40)]
  | _ => [.ofNat (0xF0 + n / 0x40000), .ofNat (0x80 + n / 0x1000 % 0x40),
      .ofNat (0x80 + n / 0x40 % 0x40), .ofNat (0x80 + n % 0x40)]

def encode (s : String) : List UInt8 :=
  s.toList.flatMap encodeChar

inductive State
  | start
  /-- Inside a character: the bits so far, the octets still owed after the next one, and the
  bounds of the next one. -/
  | inside (bits owed low high : Nat)
deriving DecidableEq

abbrev Piece := Option Char

def State.first (b : Nat) : List Piece × State :=
  if b < 0x80 then ([some (Char.ofNat b)], .start)
  else if b < 0xC2 then ([none], .start)
  else if b < 0xE0 then ([], .inside (b - 0xC0) 0 0x80 0xBF)
  else if b = 0xE0 then ([], .inside 0 1 0xA0 0xBF)
  else if b = 0xED then ([], .inside 0xD 1 0x80 0x9F)
  else if b < 0xF0 then ([], .inside (b - 0xE0) 1 0x80 0xBF)
  else if b = 0xF0 then ([], .inside 0 2 0x90 0xBF)
  else if b < 0xF4 then ([], .inside (b - 0xF0) 2 0x80 0xBF)
  else if b = 0xF4 then ([], .inside 4 2 0x80 0x8F)
  else ([none], .start)

def State.next : State → Nat → List Piece × State
  | .start, b => first b
  | .inside bits owed low high, b =>
      if low ≤ b ∧ b ≤ high then
        let bits := bits * 0x40 + (b - 0x80)
        match owed with
        | 0 => ([some (Char.ofNat bits)], .start)
        | owed + 1 => ([], .inside bits owed 0x80 0xBF)
      else
        let (pieces, state) := first b
        (none :: pieces, state)

/-- The characters of a sequence of octets, with a gap for each malformed part. -/
def pieces (state : State) : List UInt8 → List Piece
  | [] => if state = .start then [] else [none]
  | b :: rest =>
      let (found, state) := state.next b.toNat
      found ++ pieces state rest

def decodeWith (gap : List Char) (bytes : List UInt8) : List Char :=
  (pieces .start bytes).flatMap fun piece =>
    match piece with
    | some c => [c]
    | none => gap

def decodeLossy (bytes : List UInt8) : List Char :=
  decodeWith ['\uFFFD'] bytes

end CandleFeed.Text.Utf8
