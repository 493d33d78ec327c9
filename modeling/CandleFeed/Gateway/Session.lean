import CandleFeed.Gateway.Basic
import CandleFeed.Service.Dispatch

namespace CandleFeed.Gateway

inductive Inbound
  | text (text : String)
  | binary (length : Nat)
  | ping (length : Nat)
  | pong (length : Nat)
  | close
deriving DecidableEq

namespace Inbound

def size : Inbound → Nat
  | text s => Text.Utf8.size s
  | binary length | ping length | pong length => length
  | close => 0

def maxControl : Nat := 125

def isTooLong (i : Inbound) (limit : Nat) : Bool :=
  match i with
  | ping length | pong length => limit < length || maxControl < length
  | _ => limit < i.size

end Inbound

def call (g : Gateway) (c : Http.Call) (nanos : Nat) : Gateway × Http.Answer :=
  let (service, answer) := Http.respond g.service g.settings.wsPath c nanos
  ({ g with service }, answer)

def openLink (g : Gateway) (capacity : Nat) : Gateway × Nat :=
  let id : ConnectionId := ⟨g.opened + 1⟩
  let push := g.settings.push
  let (service, number) := g.service.openSession id push.queueCapacity push.dropPolicy
  let g := { g with service, opened := g.opened + 1 }
  ((g.setLink number (.create id capacity g.now)).settle, number)

def connect (g : Gateway) (text : String) (capacity : Nat) : Gateway × Except Nat Nat :=
  match Http.Target.parse? text with
  | none => (g, .error (if Http.Target.isTooLong text then 414 else 400))
  | some target =>
      if .sessions ∈ Http.Route.atPath g.settings.wsPath target.path then
        let (g, number) := g.openLink capacity
        (g, .ok number)
      else
        let (g, answer) := g.call ⟨"GET", target, none, []⟩ 0
        (g, .error answer.status)

/-- Takes in that the client of an open session closes it. If the writer is busy, it still gets
through what it has begun and the answer to the close; otherwise nothing more is written. -/
def hangUp (g : Gateway) (number : Nat) (link : Link) : Gateway :=
  if link.writing then
    g.close number { link with pipe := link.pipe.put .close } .peerClosed
      (.flushing (g.now + drainTime))
  else (g.close number link .peerClosed .over).atLink number finish

def handle (g : Gateway) (number : Nat) (link : Link) (inbound : Inbound) : Gateway :=
  if inbound.isTooLong g.settings.push.maxFrameSize then
    g.dismiss number link .transportError g.now
  else
    let link := { link with phase := .live g.now }
    match inbound with
    | .text s =>
        { g with service := (g.service.handleText number link.connection s).1 }.setLink number link
    | .binary _ | .pong _ => g.setLink number link
    | .ping length => g.setLink number { link with pipe := link.pipe.put (.pong length) }
    | .close => g.hangUp number link

def take (g : Gateway) (number : Nat) (link : Link) (inbound : Inbound) : Gateway :=
  match link.phase with
  | .live _ => g.handle number link inbound
  | .leaving _ | .flushing _ | .over => g

def send (g : Gateway) (number : Nat) (inbound : Inbound) : Gateway :=
  (g.settle.atLink number fun g number link => g.take number link inbound).settle

/-- What a client finds when it reads as long as something comes, and whether it finds the end. -/
def receive (g : Gateway) (number : Nat) : Gateway × List Parcel × Bool :=
  let g := g.settle
  match g.links.get? number with
  | none => (g, [], true)
  | some link =>
      match link.phase with
      | .live _ =>
          let emptied := g.service.changeOutbox number fun o => { o with frames := [] }
          ({ g with service := emptied }.setLink number link.drain, g.pending number link, false)
      | .leaving _ => (g.finish number link.drain, g.pending number link ++ [.close], true)
      | .flushing _ => (g.finish number link.drain, link.pipe.parcels, true)
      | .over => (g.setLink number link.drain, link.pipe.arrived, true)

def lose (g : Gateway) (number : Nat) (link : Link) : Gateway :=
  match link.phase with
  | .live _ => g.close number link .transportError .over
  | .leaving _ | .flushing _ | .over => g

def vanish (g : Gateway) (number : Nat) : Gateway :=
  let g := g.atLink number lose
  let service := g.service.changeOutbox number Outbox.abandon
  { g with service, links := g.links.erase number }.settle

def advance (g : Gateway) (span : Nat) : Gateway :=
  { g with service := g.service.advance span }.settle

def shutDown (g : Gateway) : Gateway :=
  { g with stopping := true }.settle

def publishOn (g : Gateway) (topic : Topic) (payload : Payload) (times : Nat) : Gateway × Report :=
  let (service, report) := times.repeat
    (fun (state : Service × Report) => state.1.publishOn topic payload) (g.service, ⟨0, 0, 0⟩)
  ({ g with service }.settle, report)

end CandleFeed.Gateway
