import CandleFeed.Gateway.Basic
import CandleFeed.Proofs.Outbox
import CandleFeed.Proofs.Registry.Wants
import CandleFeed.Proofs.Service.Offers

/-!
# Sessions, and what each has to itself

What is done to a service: things are done to its sessions, and news comes to it. A session has a
seat of its own, with the topics that it wants and its outbox. What is done to the session changes
its seat as if there were no other, and so does news.
-/

namespace CandleFeed

inductive Act
  | start (capacity : Nat) (policy : DropPolicy)
  | text (text : String)
  | receive
  | requestClose
  | close (reason : CloseReason)
  | drop
  | abandon

inductive Effect
  | started
  | answered (result : Except ProtocolError Request)
  | received (receipt : Receipt Frame)
  | closeRequested
  | ended (topics : Nat)
  | abandoned
  | absent

def Request.granted : Request → Message
  | ping => .pong
  | subscribe topic => .subscribed topic
  | unsubscribe topic => .unsubscribed topic

namespace Service

inductive Command
  | act (id : ConnectionId) (act : Act)
  | news (news : News)

def number? (s : Service) (id : ConnectionId) : Option Nat :=
  (s.outboxes.entries.find? fun entry => entry.2.connection = id).map Prod.fst

def outbox? (s : Service) (id : ConnectionId) : Option (Outbox Frame) :=
  (s.number? id).bind s.outboxes.get?

def asSession (s : Service) (number : Nat) (done : Service × Effect) : Service × Effect :=
  if (s.session? number).isSome then done else (s, .absent)

def actAt (s : Service) (id : ConnectionId) (number : Nat) : Act → Service × Effect
  | .start _ _ => (s, .absent)
  | .text text =>
      s.asSession number
        ((s.handleText number id text).1, .answered (s.handleText number id text).2)
  | .receive => ((s.receive number).1, .received (s.receive number).2)
  | .requestClose => s.asSession number (s.requestClose number, .closeRequested)
  | .close reason =>
      s.asSession number
        ((s.closeSession number reason).1, .ended (s.closeSession number reason).2)
  | .drop => s.asSession number ((s.dropSession number).1, .ended (s.dropSession number).2)
  | .abandon => (s.changeOutbox number Outbox.abandon, .abandoned)

/-- An act on a connection. Ids are never given twice: a session is started for a new one only. -/
def act (s : Service) (id : ConnectionId) (act : Act) : Service × Effect :=
  match s.number? id, act with
  | some number, act => s.actAt id number act
  | none, .start capacity policy => ((s.openSession id capacity policy).1, .started)
  | none, _ => (s, .absent)

def step (s : Service) : Command → Service
  | .act id act => (s.act id act).1
  | .news news => s.hear news

def run (s : Service) (commands : List Command) : Service :=
  commands.foldl step s

theorem run_append (s : Service) (before after : List Command) :
    s.run (before ++ after) = (s.run before).run after :=
  List.foldl_append

theorem run_concat (s : Service) (commands : List Command) (command : Command) :
    s.run (commands ++ [command]) = (s.run commands).step command :=
  List.foldl_concat ..

theorem handleText_cases (s : Service) (number : Nat) (id : ConnectionId) (text : String) :
    (∃ cause, s.handleText number id text =
      ((s.setMetrics Metrics.protocolError).reply number (.error cause), .error cause)) ∨
    ∃ request next message, Request.parse text = .ok request ∧
      s.perform id request = .ok (next, message) ∧
      s.handleText number id text = (next.reply number message, .ok request) := by
  unfold handleText
  cases Request.parse text with
  | error cause => exact .inl ⟨cause, rfl⟩
  | ok request =>
      cases performed : s.perform id request with
      | error cause => exact .inl ⟨cause, by simp [bind, Except.bind, performed]⟩
      | ok done =>
          exact .inr ⟨request, done.1, done.2, rfl, performed,
            by simp [bind, Except.bind, performed]⟩

theorem exists_registry_of_perform {s : Service} {id : ConnectionId} {request : Request}
    {next : Service} {message : Message} (performed : s.perform id request = .ok (next, message)) :
    message = request.granted ∧ ∃ r, next = { s with registry := r } := by
  cases request with
  | subscribe topic =>
      unfold Service.perform at performed
      dsimp only at performed
      split at performed <;> cases performed
      exact ⟨rfl, _, rfl⟩
  | _ =>
      cases performed
      exact ⟨rfl, _, rfl⟩

end Service

/-- What a session has to itself. -/
structure Seat where
  topics : List Topic
  outbox : Outbox Frame

namespace Seat

def perform (topics : List Topic) (limit : Nat) :
    Request → Except ProtocolError (List Topic × Message)
  | .ping => .ok (topics, .pong)
  | .subscribe topic =>
      if topic ∈ topics then .ok (topics, .subscribed topic)
      else if limit ≤ topics.length then .error (.tooManySubscriptions limit)
      else .ok (topics ++ [topic], .subscribed topic)
  | .unsubscribe topic => .ok (topics.erase topic, .unsubscribed topic)

inductive Performed (topics : List Topic) (limit : Nat) : Request → List Topic → Prop
  | ping : Performed topics limit .ping topics
  | again (topic : Topic) (old : topic ∈ topics) : Performed topics limit (.subscribe topic) topics
  | added (topic : Topic) (new : topic ∉ topics) (room : topics.length < limit) :
      Performed topics limit (.subscribe topic) (topics ++ [topic])
  | removed (topic : Topic) : Performed topics limit (.unsubscribe topic) (topics.erase topic)

theorem performed_of_eq_ok {topics after : List Topic} {limit : Nat} {request : Request}
    {message : Message} (performed : perform topics limit request = .ok (after, message)) :
    Performed topics limit request after ∧ message = request.granted := by
  cases request with
  | ping =>
      cases performed
      exact ⟨.ping, rfl⟩
  | subscribe topic =>
      unfold perform at performed
      dsimp only at performed
      split at performed
      · rename_i old
        cases performed
        exact ⟨.again topic old, rfl⟩
      · rename_i new
        split at performed
        · cases performed
        · rename_i room
          cases performed
          exact ⟨.added topic new (Nat.lt_of_not_le room), rfl⟩
  | unsubscribe topic =>
      cases performed
      exact ⟨.removed topic, rfl⟩

structure Reply where
  topics : List Topic
  message : Message
  result : Except ProtocolError Request

def answer (topics : List Topic) (limit : Nat) (text : String) : Reply :=
  match Request.parse text with
  | .error cause => ⟨topics, .error cause, .error cause⟩
  | .ok request =>
      match perform topics limit request with
      | .error cause => ⟨topics, .error cause, .error cause⟩
      | .ok (topics, message) => ⟨topics, message, .ok request⟩

theorem answer_cases (topics : List Topic) (limit : Nat) (text : String) :
    (∃ cause, answer topics limit text = ⟨topics, .error cause, .error cause⟩) ∨
      ∃ request after message, Request.parse text = .ok request ∧
        perform topics limit request = .ok (after, message) ∧
        answer topics limit text = ⟨after, message, .ok request⟩ := by
  unfold answer
  cases Request.parse text with
  | error cause => exact .inl ⟨cause, rfl⟩
  | ok request =>
      dsimp only
      cases performed : perform topics limit request with
      | error cause => exact .inl ⟨cause, rfl⟩
      | ok done => exact .inr ⟨request, done.1, done.2, rfl, performed, rfl⟩

def asOwner (seat : Seat) (done : Seat × Effect) : Seat × Effect :=
  if seat.outbox.owned then done else (seat, .absent)

def act (seat : Seat) (limit : Nat) (now : Int) : Act → Seat × Effect
  | .start _ _ => (seat, .absent)
  | .text text =>
      let reply := answer seat.topics limit text
      seat.asOwner
        (⟨reply.topics, (seat.outbox.send ⟨reply.message, now⟩).1⟩, .answered reply.result)
  | .receive =>
      ({ seat with outbox := seat.outbox.receive.1 }, .received seat.outbox.receive.2)
  | .requestClose => seat.asOwner ({ seat with outbox := seat.outbox.requestClose }, .closeRequested)
  | .close _ | .drop =>
      seat.asOwner (⟨[], seat.outbox.requestClose.disown⟩, .ended seat.topics.length)
  | .abandon => ({ seat with outbox := seat.outbox.abandon }, .abandoned)

def step (id : ConnectionId) (limit : Nat) (now : Int) : Option Seat → Act → Option Seat × Effect
  | some seat, act => (some (seat.act limit now act).1, (seat.act limit now act).2)
  | none, .start capacity policy => (some ⟨[], .create id capacity policy⟩, .started)
  | none, _ => (none, .absent)

def wanted (topics : List Topic) (pushes : List Push) : List Frame :=
  (pushes.filter fun push => push.topic ∈ topics).map Push.frame

def hear (seat : Seat) (pushes : List Push) : Seat :=
  { seat with outbox := seat.outbox.offer (wanted seat.topics pushes) }

end Seat

/-- The seat of a session. It stays when the session has ended. -/
def Service.seat? (s : Service) (id : ConnectionId) : Option Seat :=
  (s.outbox? id).map fun outbox => ⟨s.registry.wants id, outbox⟩

end CandleFeed
