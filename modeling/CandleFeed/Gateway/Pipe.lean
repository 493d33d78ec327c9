import CandleFeed.Service.Basic
import CandleFeed.Text.Utf8

namespace CandleFeed.Gateway

inductive Parcel
  | message (frame : Frame)
  | pong (length : Nat)
  | close
deriving DecidableEq

namespace Parcel

def payload : Parcel → Nat
  | message frame => Text.Utf8.size frame.text
  | pong length => length
  | close => 0

def header (length : Nat) : Nat :=
  if length < 126 then 2 else if length < 65536 then 4 else 10

def size (p : Parcel) : Nat :=
  header p.payload + p.payload

end Parcel

/-- Writes as much as there is room for: the octets written, the parcels that are through, and those
that wait, each with the octets that have to be written yet. -/
def pour (room : Nat) : List (Parcel × Nat) → Nat × List Parcel × List (Parcel × Nat)
  | [] => (0, [], [])
  | (parcel, left) :: rest =>
      if left ≤ room then
        let (written, through, waiting) := pour (room - left) rest
        (left + written, parcel :: through, waiting)
      else (room, [], (parcel, left - room) :: rest)

theorem pour_le (room : Nat) (waiting : List (Parcel × Nat)) : (pour room waiting).1 ≤ room := by
  induction waiting generalizing room with
  | nil => exact Nat.zero_le _
  | cons entry rest ih =>
      unfold pour
      split
      · have := ih (room - entry.2)
        dsimp only
        omega
      · exact Nat.le_refl _

structure Pipe where
  capacity : Nat
  used : Nat
  within : used ≤ capacity
  arrived : List Parcel
  waiting : List (Parcel × Nat)

namespace Pipe

def empty (capacity : Nat) : Pipe :=
  ⟨capacity, 0, Nat.zero_le _, [], []⟩

def parcels (p : Pipe) : List Parcel :=
  p.arrived ++ p.waiting.map Prod.fst

def isClear (p : Pipe) : Bool :=
  p.waiting.isEmpty

def flush (p : Pipe) : Pipe :=
  let poured := pour (p.capacity - p.used) p.waiting
  { p with
    used := p.used + poured.1
    within := by
      have := p.within
      have := pour_le (p.capacity - p.used) p.waiting
      dsimp only [poured]
      omega
    arrived := p.arrived ++ poured.2.1
    waiting := poured.2.2 }

def put (p : Pipe) (parcel : Parcel) : Pipe :=
  { p with waiting := p.waiting ++ [(parcel, parcel.size)] }.flush

def drain (p : Pipe) : Pipe :=
  empty p.capacity

end Pipe

end CandleFeed.Gateway
