import CandleFeed.Connection
import CandleFeed.DropPolicy

/-!
# Outboxes

The bounded queue of frames that wait to be written to a connection. A frame that finds the queue
full is lost; the policy says whether the connection is closed over it. The session of a connection
owns its outbox; everybody else reaches it through the registry, and only while it has an owner.
-/

namespace CandleFeed

inductive Refusal
  | closed
  | full (capacity : Nat)
deriving DecidableEq, Repr

def Refusal.message : Refusal → String
  | closed => "Connection closed"
  | full capacity => s!"Outbound queue full (capacity {Text.showNatural capacity})"

structure Outbox (φ : Type) where
  connection : ConnectionId
  capacity : Nat
  policy : DropPolicy
  frames : List φ
  closing : Bool
  /-- How many frames found the queue full, a word of 64 bits. -/
  dropped : Nat
  owned : Bool
  /-- Whether there is still a reader. -/
  read : Bool
deriving DecidableEq

inductive Receipt (φ : Type)
  | frame (frame : φ)
  | empty
  | finished
  | unread
deriving DecidableEq

namespace Outbox

variable {φ : Type}

def create (connection : ConnectionId) (capacity : Nat) (policy : DropPolicy) : Outbox φ where
  connection := connection
  capacity := max 1 capacity
  policy := policy
  frames := []
  closing := false
  dropped := 0
  owned := true
  read := true

def isFull (o : Outbox φ) : Bool :=
  o.capacity ≤ o.frames.length

def requestClose (o : Outbox φ) : Outbox φ :=
  { o with closing := true }

def overflow (o : Outbox φ) : Outbox φ :=
  let o := { o with dropped := (o.dropped + 1) % UInt64.size }
  match o.policy with
  | .disconnect => o.requestClose
  | .dropNewest => o

def send (o : Outbox φ) (frame : φ) : Outbox φ × Option Refusal :=
  if o.closing ∨ ¬ o.read then (o, some .closed)
  else if o.isFull then (o.overflow, some (.full o.capacity))
  else ({ o with frames := o.frames ++ [frame] }, none)

def enqueue (o : Outbox φ) (frame : φ) : Outbox φ × Option Refusal :=
  if o.owned then o.send frame else (o, some .closed)

def receive (o : Outbox φ) : Outbox φ × Receipt φ :=
  if o.read then
    match o.frames with
    | frame :: rest => ({ o with frames := rest }, .frame frame)
    | [] => (o, if o.owned then .empty else .finished)
  else (o, .unread)

def disown (o : Outbox φ) : Outbox φ :=
  { o with owned := false }

def abandon (o : Outbox φ) : Outbox φ :=
  { o with frames := [], read := false }

theorem send_closing {o : Outbox φ} (closing : o.closing = true) (frame : φ) :
    o.send frame = (o, some .closed) := by
  simp [send, closing]

theorem enqueue_owned {o : Outbox φ} (owned : o.owned = true) (frame : φ) :
    o.enqueue frame = o.send frame := by
  simp [enqueue, owned]

theorem enqueue_disowned {o : Outbox φ} (disowned : o.owned = false) (frame : φ) :
    o.enqueue frame = (o, some .closed) := by
  simp [enqueue, disowned]

theorem overflow_frames (o : Outbox φ) : o.overflow.frames = o.frames := by
  unfold overflow
  dsimp only
  split <;> rfl

theorem overflow_capacity (o : Outbox φ) : o.overflow.capacity = o.capacity := by
  unfold overflow
  dsimp only
  split <;> rfl

theorem frames_send (o : Outbox φ) (frame : φ) :
    (o.send frame).1.frames =
      if (o.send frame).2 = none then o.frames ++ [frame] else o.frames := by
  unfold send
  split
  · simp
  · split <;> simp [overflow_frames]

end Outbox

end CandleFeed
