import CandleFeed.Service.Basic

namespace CandleFeed

inductive CloseReason
  | peerClosed
  | idleTimeout
  | transportError
  | backpressure
  | serverShutdown
deriving DecidableEq, Repr

namespace CloseReason

def all : List CloseReason :=
  [peerClosed, idleTimeout, transportError, backpressure, serverShutdown]

def name : CloseReason → String
  | peerClosed => "peer_closed"
  | idleTimeout => "idle_timeout"
  | transportError => "transport_error"
  | backpressure => "backpressure"
  | serverShutdown => "server_shutdown"

def ofName? (name : String) : Option CloseReason :=
  all.find? fun reason => reason.name == name

end CloseReason

namespace Service

def openSession (s : Service) (id : ConnectionId) (capacity : Nat) (policy : DropPolicy) :
    Service × Nat :=
  let number := s.outboxes.size
  let s := s.setOutbox number (.create id capacity policy)
  let s := { s with registry := s.registry.register ⟨id, number⟩ }
  (s.setMetrics Metrics.connectionOpened, number)

def session? (s : Service) (number : Nat) : Option (Outbox Frame) :=
  (s.outboxes.get? number).filter Outbox.owned

def reply (s : Service) (number : Nat) (message : Message) : Service :=
  s.changeOutbox number fun outbox => (outbox.send (s.frame message)).1

def perform (s : Service) (id : ConnectionId) (request : Request) :
    Except ProtocolError (Service × Message) :=
  match request with
  | .ping => .ok (s, .pong)
  | .subscribe topic =>
      match s.registry.subscribe id topic with
      | .error cause => .error cause.toProtocol
      | .ok (registry, _) => .ok ({ s with registry }, .subscribed topic)
  | .unsubscribe topic =>
      .ok ({ s with registry := (s.registry.unsubscribe id topic).1 }, .unsubscribed topic)

def handleText (s : Service) (number : Nat) (id : ConnectionId) (text : String) :
    Service × Except ProtocolError Request :=
  let outcome : Except ProtocolError (Request × Service × Message) := do
    let request ← Request.parse text
    let done ← s.perform id request
    .ok (request, done)
  match outcome with
  | .ok (request, s, answer) => (s.reply number answer, .ok request)
  | .error cause =>
      ((s.setMetrics Metrics.protocolError).reply number (.error cause), .error cause)

/-- Marks a session as closing without ending it. -/
def requestClose (s : Service) (number : Nat) : Service :=
  s.changeOutbox number Outbox.requestClose

/-- Ends a session, and tells how many topics it had. Nothing happens to one that has ended. -/
def dropSession (s : Service) (number : Nat) : Service × Nat :=
  match s.session? number with
  | none => (s, 0)
  | some outbox =>
      let s := s.setOutbox number outbox.requestClose.disown
      let (registry, removed) := s.registry.unsubscribeAll outbox.connection
      ({ s with registry }.setMetrics Metrics.connectionClosed, removed)

def countClose (m : Metrics) : CloseReason → Metrics
  | .idleTimeout => m.idleTimeout
  | .backpressure => m.slowDisconnect
  | _ => m

def closeSession (s : Service) (number : Nat) (reason : CloseReason) : Service × Nat :=
  let (s, removed) := s.dropSession number
  (s.setMetrics fun m => countClose m reason, removed)

theorem handleText_of_rejected {s : Service} {number : Nat} {id : ConnectionId} {text : String}
    {cause : ProtocolError} (rejected : Request.parse text = .error cause) :
    s.handleText number id text =
      ((s.setMetrics Metrics.protocolError).reply number (.error cause), .error cause) := by
  simp [handleText, rejected, bind, Except.bind]

end Service

end CandleFeed
