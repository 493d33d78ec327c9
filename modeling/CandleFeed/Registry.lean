import CandleFeed.Connection
import CandleFeed.Request
import CandleFeed.Table

namespace CandleFeed

structure Handle where
  connection : ConnectionId
  outbox : Nat
deriving DecidableEq, Repr

inductive RegistryError
  | unregistered (connection : ConnectionId)
  | limitReached (limit : Nat)
deriving DecidableEq

def RegistryError.message : RegistryError → String
  | unregistered connection => "Connection not registered: " ++ connection.text
  | limitReached limit => ProtocolError.limitMessage limit

def RegistryError.toProtocol : RegistryError → ProtocolError
  | unregistered connection => .invalidParams (unregistered connection).message
  | limitReached limit => .tooManySubscriptions limit

structure Registration where
  handle : Handle
  topics : List Topic

structure Registry where
  connections : Table ConnectionId Registration
  /-- The handle with which each subscriber of a topic subscribed. -/
  topics : Table Topic (Table ConnectionId Handle)
  limit : Nat

namespace Registry

def empty (limit : Nat) : Registry :=
  ⟨.empty, .empty, limit⟩

/-- Makes a connection known, or gives a known one another handle. -/
def register (r : Registry) (handle : Handle) : Registry :=
  let topics := ((r.connections.get? handle.connection).map Registration.topics).getD []
  { r with connections := r.connections.insert handle.connection ⟨handle, topics⟩ }

def handles (r : Registry) (topic : Topic) : Table ConnectionId Handle :=
  (r.topics.get? topic).getD .empty

def attach (r : Registry) (topic : Topic) (handle : Handle) : Registry :=
  { r with
    topics := r.topics.insert topic ((r.handles topic).insert handle.connection handle) }

def detach (r : Registry) (id : ConnectionId) (topic : Topic) : Registry :=
  match r.topics.get? topic with
  | none => r
  | some subscribers =>
      let left := subscribers.erase id
      if left.size = 0 then { r with topics := r.topics.erase topic }
      else { r with topics := r.topics.insert topic left }

def subscribe (r : Registry) (id : ConnectionId) (topic : Topic) :
    Except RegistryError (Registry × Bool) :=
  match r.connections.get? id with
  | none => .error (.unregistered id)
  | some entry =>
      if topic ∈ entry.topics then .ok (r, false)
      else if r.limit ≤ entry.topics.length then .error (.limitReached r.limit)
      else
        let r := r.attach topic entry.handle
        let entry := { entry with topics := entry.topics ++ [topic] }
        .ok ({ r with connections := r.connections.insert id entry }, true)

def unsubscribe (r : Registry) (id : ConnectionId) (topic : Topic) : Registry × Bool :=
  match r.connections.get? id with
  | none => (r, false)
  | some entry =>
      if topic ∈ entry.topics then
        let entry := { entry with topics := entry.topics.erase topic }
        let r := { r with connections := r.connections.insert id entry }
        (r.detach id topic, true)
      else (r, false)

def unsubscribeAll (r : Registry) (id : ConnectionId) : Registry × Nat :=
  match r.connections.get? id with
  | none => (r, 0)
  | some entry =>
      let r := { r with connections := r.connections.erase id }
      (entry.topics.foldl (fun r topic => r.detach id topic) r, entry.topics.length)

def subscribers (r : Registry) (topic : Topic) : List Handle :=
  (r.handles topic).values

def isSubscribed (r : Registry) (id : ConnectionId) (topic : Topic) : Bool :=
  (r.connections.get? id).any fun entry => topic ∈ entry.topics

def topicsOf (r : Registry) (id : ConnectionId) : List Topic :=
  (((r.connections.get? id).map Registration.topics).getD []).mergeSort Topic.le

def connectionCount (r : Registry) : Nat :=
  r.connections.size

def topicCount (r : Registry) : Nat :=
  r.topics.size

def isConsistent (r : Registry) : Bool :=
  (r.topics.entries.all fun (topic, subscribers) =>
    subscribers.size ≠ 0 && subscribers.keys.all fun id => r.isSubscribed id topic) &&
  r.connections.entries.all fun (id, entry) =>
    entry.topics.all fun topic => (r.handles topic).contains id

theorem get?_register (r : Registry) (handle : Handle) (id : ConnectionId) :
    ((r.register handle).connections.get? id) =
      if id = handle.connection then
        some ⟨handle, ((r.connections.get? id).map Registration.topics).getD []⟩
      else r.connections.get? id := by
  simp only [register, Table.get?_insert]
  split
  · rename_i same
    rw [same]
  · rfl

theorem subscribe_unregistered {r : Registry} {id : ConnectionId}
    (unknown : r.connections.get? id = none) (topic : Topic) :
    r.subscribe id topic = .error (.unregistered id) := by
  simp [subscribe, unknown]

theorem subscribe_of_mem {r : Registry} {id : ConnectionId} {entry : Registration} {topic : Topic}
    (known : r.connections.get? id = some entry) (mem : topic ∈ entry.topics) :
    r.subscribe id topic = .ok (r, false) := by
  simp [subscribe, known, mem]

end Registry

end CandleFeed
