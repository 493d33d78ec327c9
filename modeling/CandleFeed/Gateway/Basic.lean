import CandleFeed.Gateway.Pipe
import CandleFeed.Http.Api
import CandleFeed.Service.Session

/-!
# The gateway

The service with its calls and its push sessions. A session lives on a link. What its client sends
is handled at once. What is in its outbox is written frame by frame: the next frame is taken when
everything before it is in the pipe. When a session ends, what it had for its client is still
written, within some seconds.
-/

namespace CandleFeed

namespace Gateway

inductive Phase
  /-- The session is open; its client was last heard of at this time. -/
  | live (heard : Nat)
  /-- The session has ended. The frames of the outbox and a close are written until the deadline. -/
  | leaving (deadline : Nat)
  /-- The session has ended. What waits at the pipe goes through until the deadline. -/
  | flushing (deadline : Nat)
  | over
deriving DecidableEq

structure Link where
  connection : ConnectionId
  pipe : Pipe
  /-- Set while the writer waits for the pipe. Answers to pings wait without it. -/
  writing : Bool
  phase : Phase

namespace Link

def create (connection : ConnectionId) (capacity now : Nat) : Link :=
  ⟨connection, .empty capacity, false, .live now⟩

def write (link : Link) (parcel : Parcel) : Link :=
  let pipe := link.pipe.put parcel
  { link with pipe, writing := !pipe.isClear }

def drain (link : Link) : Link :=
  { link with pipe := link.pipe.drain, writing := false }

end Link

end Gateway

structure Gateway where
  service : Service
  settings : Settings
  links : Table Nat Gateway.Link
  opened : Nat
  stopping : Bool

namespace Gateway

def drainTime : Nat := 5 * Clock.second

def create (settings : Settings) (store : Store) : Gateway where
  service :=
    .create (.create (.create store settings.cache) settings.dedupWindow)
      settings.push.maxSubscriptions true
  settings := settings
  links := .empty
  opened := 0
  stopping := false

def now (g : Gateway) : Nat :=
  g.service.store.now

def setLink (g : Gateway) (number : Nat) (link : Link) : Gateway :=
  { g with links := g.links.insert number link }

def queued (g : Gateway) (number : Nat) : List Frame :=
  ((g.service.outboxes.get? number).map Outbox.frames).getD []

def pending (g : Gateway) (number : Nat) (link : Link) : List Parcel :=
  link.pipe.parcels ++ (g.queued number).map .message

def close (g : Gateway) (number : Nat) (link : Link) (reason : CloseReason) (phase : Phase) :
    Gateway :=
  { g with service := (g.service.closeSession number reason).1 }.setLink number { link with phase }

def dismiss (g : Gateway) (number : Nat) (link : Link) (reason : CloseReason) (time : Nat) :
    Gateway :=
  g.close number link reason (.leaving (time + drainTime))

def finish (g : Gateway) (number : Nat) (link : Link) : Gateway :=
  { g with service := g.service.changeOutbox number Outbox.abandon }.setLink number
    { link with phase := .over }

def write (g : Gateway) (number : Nat) (link : Link) : (limit : Nat) → Gateway × Link
  | 0 => (g, link)
  | limit + 1 =>
      if link.writing then (g, link)
      else
        match g.service.receive number with
        | (service, .frame frame) =>
            write { g with service } number (link.write (.message frame)) limit
        | (_, _) => (g, link)

def pump (g : Gateway) (number : Nat) (link : Link) : Gateway :=
  match link.phase with
  | .live _ =>
      let (g, link) := g.write number link (g.queued number).length
      g.setLink number link
  | .leaving deadline =>
      let (g, link) := g.write number link (g.queued number).length
      if link.writing then g.setLink number link
      else
        let link := link.write .close
        if link.writing then g.setLink number { link with phase := .flushing deadline }
        else g.finish number link
  | .flushing _ | .over => g

/-- Ends the session of a link if that has to end by now. A client that was not heard of for too
long is dismissed at the time at which it was too long. -/
def expire (g : Gateway) (number : Nat) (link : Link) : Gateway :=
  match link.phase with
  | .live heard =>
      let limit := heard + g.settings.push.idleTimeoutMillis * Clock.millisecond
      if g.stopping then g.dismiss number link .serverShutdown g.now
      else if (g.service.outboxes.get? number).any Outbox.closing then
        g.dismiss number link .backpressure g.now
      else if limit ≤ g.now then g.dismiss number link .idleTimeout limit
      else g
  | .leaving _ | .flushing _ | .over => g

def giveUp (g : Gateway) (number : Nat) (link : Link) : Gateway :=
  match link.phase with
  | .leaving deadline | .flushing deadline =>
      if deadline ≤ g.now then g.finish number link else g
  | .live _ | .over => g

def atLink (g : Gateway) (number : Nat) (act : Gateway → Nat → Link → Gateway) : Gateway :=
  match g.links.get? number with
  | some link => act g number link
  | none => g

def settle (g : Gateway) : Gateway :=
  g.links.keys.foldl
    (fun g number => ((g.atLink number expire).atLink number pump).atLink number giveUp) g

end Gateway

end CandleFeed
