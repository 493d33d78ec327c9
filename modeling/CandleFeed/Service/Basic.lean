import CandleFeed.Ingester
import CandleFeed.Message
import CandleFeed.Outbox
import CandleFeed.Registry

namespace CandleFeed

structure Frame where
  message : Message
  sentAt : Int
deriving DecidableEq

def Frame.text (f : Frame) : String :=
  f.message.encode f.sentAt

structure Service extends Ingester where
  registry : Registry
  outboxes : Table Nat (Outbox Frame)
  publicTrades : Bool

namespace Service

def create (ingester : Ingester) (maxSubscriptions : Nat) (publicTrades : Bool) : Service :=
  { ingester with
    registry := .empty maxSubscriptions
    outboxes := .empty
    publicTrades := publicTrades }

def advance (s : Service) (span : Nat) : Service :=
  { s with toEngine := s.toEngine.advance span }

def frame (s : Service) (message : Message) : Frame :=
  ⟨message, s.store.wall.millis⟩

def setOutbox (s : Service) (number : Nat) (outbox : Outbox Frame) : Service :=
  { s with outboxes := s.outboxes.insert number outbox }

def changeOutbox (s : Service) (number : Nat) (change : Outbox Frame → Outbox Frame) : Service :=
  { s with outboxes := s.outboxes.modify number change }

def setMetrics (s : Service) (change : Metrics → Metrics) : Service :=
  { s with metrics := change s.metrics }

def receive (s : Service) (number : Nat) : Service × Receipt Frame :=
  match s.outboxes.get? number with
  | none => (s, .unread)
  | some outbox =>
      let (outbox, receipt) := outbox.receive
      (s.setOutbox number outbox, receipt)

end Service

end CandleFeed
