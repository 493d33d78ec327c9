import CandleFeed.Registry

namespace CandleFeed.Registry

inductive Command
  | register (handle : Handle)
  | subscribe (id : ConnectionId) (topic : Topic)
  | unsubscribe (id : ConnectionId) (topic : Topic)
  | unsubscribeAll (id : ConnectionId)
deriving DecidableEq

inductive Answer
  | registered
  | subscribed (outcome : Except RegistryError Bool)
  | unsubscribed (was : Bool)
  | removed (count : Nat)

def step (r : Registry) : Command → Registry × Answer
  | .register handle => (r.register handle, .registered)
  | .subscribe id topic =>
      match r.subscribe id topic with
      | .ok (r, new) => (r, .subscribed (.ok new))
      | .error cause => (r, .subscribed (.error cause))
  | .unsubscribe id topic => ((r.unsubscribe id topic).1, .unsubscribed (r.unsubscribe id topic).2)
  | .unsubscribeAll id => ((r.unsubscribeAll id).1, .removed (r.unsubscribeAll id).2)

def run (r : Registry) : List Command → Registry × List Answer
  | [] => (r, [])
  | command :: rest =>
      let (r, answer) := r.step command
      let (r, answers) := r.run rest
      (r, answer :: answers)

theorem run_append (r : Registry) (before after : List Command) :
    r.run (before ++ after) =
      (((r.run before).1.run after).1, (r.run before).2 ++ ((r.run before).1.run after).2) := by
  induction before generalizing r with
  | nil => rfl
  | cons command rest ih => simp [run, ih]

theorem run_concat (r : Registry) (commands : List Command) (command : Command) :
    (r.run (commands ++ [command])).1 = ((r.run commands).1.step command).1 := by
  rw [run_append]
  rfl

theorem handles_insert (r : Registry) (topic other : Topic)
    (subscribers : Table ConnectionId Handle) :
    ({ r with topics := r.topics.insert topic subscribers } : Registry).handles other =
      if other = topic then subscribers else r.handles other := by
  unfold handles
  rw [Table.get?_insert]
  split <;> rfl

theorem get?_handles_attach (r : Registry) (topic other : Topic) (handle : Handle)
    (id : ConnectionId) :
    ((r.attach topic handle).handles other).get? id =
      if other = topic ∧ id = handle.connection then some handle
      else (r.handles other).get? id := by
  rw [attach, handles_insert]
  by_cases here : other = topic
  · subst here
    simp [Table.get?_insert]
  · simp [here]

theorem handles_erase (r : Registry) (topic other : Topic) :
    ({ r with topics := r.topics.erase topic } : Registry).handles other =
      if other = topic then .empty else r.handles other := by
  unfold handles
  rw [Table.get?_erase]
  split <;> rfl

theorem handles_detach (r : Registry) (id : ConnectionId) (topic other : Topic) :
    (r.detach id topic).handles other =
      if other = topic then (r.handles topic).erase id else r.handles other := by
  cases found : r.topics.get? topic with
  | none =>
      have nobody : r.handles topic = .empty := by rw [handles, found, Option.getD_none]
      rw [detach, found]
      dsimp only
      split
      · rename_i here
        rw [here, nobody]
        rfl
      · rfl
  | some subscribers =>
      have own : r.handles topic = subscribers := by rw [handles, found, Option.getD_some]
      rw [detach, found]
      dsimp only
      split
      · rename_i left
        rw [handles_erase, own, Table.eq_empty_of_size left]
      · rw [handles_insert, own]

theorem get?_handles_detach (r : Registry) (id other : ConnectionId) (topic topic' : Topic) :
    ((r.detach id topic).handles topic').get? other =
      if topic' = topic ∧ other = id then none else (r.handles topic').get? other := by
  rw [handles_detach]
  by_cases here : topic' = topic
  · simp [here, Table.get?_erase]
  · simp [here]

theorem detach_eq (r : Registry) (id : ConnectionId) (topic : Topic) :
    r.detach id topic = { r with topics := (r.detach id topic).topics } := by
  unfold detach
  split
  · rfl
  · dsimp only
    split <;> rfl

theorem detach_of_connections (r : Registry) (connections : Table ConnectionId Registration)
    (id : ConnectionId) (topic : Topic) :
    ({ r with connections := connections } : Registry).detach id topic =
      { r.detach id topic with connections := connections } := by
  unfold detach
  dsimp only
  split
  · rfl
  · split <;> rfl

def detachAll (r : Registry) (id : ConnectionId) (topics : List Topic) : Registry :=
  topics.foldl (fun r topic => r.detach id topic) r

theorem get?_handles_detachAll (r : Registry) (id other : ConnectionId) (topics : List Topic)
    (topic : Topic) :
    ((r.detachAll id topics).handles topic).get? other =
      if topic ∈ topics ∧ other = id then none else (r.handles topic).get? other := by
  unfold detachAll
  induction topics generalizing r with
  | nil => simp
  | cons first rest ih =>
      rw [List.foldl_cons, ih, get?_handles_detach]
      by_cases same : other = id
      · by_cases here : topic = first <;> simp [same, here]
      · simp [same]

theorem detachAll_eq (r : Registry) (id : ConnectionId) (topics : List Topic) :
    r.detachAll id topics = { r with topics := (r.detachAll id topics).topics } := by
  unfold detachAll
  induction topics generalizing r with
  | nil => rfl
  | cons first rest ih =>
      rw [List.foldl_cons, ih (r.detach id first), detach_eq]

theorem detachAll_of_connections (r : Registry) (connections : Table ConnectionId Registration)
    (id : ConnectionId) (topics : List Topic) :
    ({ r with connections := connections } : Registry).detachAll id topics =
      { r.detachAll id topics with connections := connections } := by
  unfold detachAll
  induction topics generalizing r with
  | nil => rfl
  | cons first rest ih =>
      rw [List.foldl_cons, List.foldl_cons, detach_of_connections, ih]

def subscribed (r : Registry) (id : ConnectionId) (topic : Topic) (entry : Registration) : Registry :=
  { r.attach topic entry.handle with
    connections := r.connections.insert id { entry with topics := entry.topics ++ [topic] } }

def unsubscribed (r : Registry) (id : ConnectionId) (topic : Topic) (entry : Registration) :
    Registry :=
  { r.detach id topic with
    connections := r.connections.insert id { entry with topics := entry.topics.erase topic } }

def forgotten (r : Registry) (id : ConnectionId) (entry : Registration) : Registry :=
  { r.detachAll id entry.topics with connections := r.connections.erase id }

theorem connections_subscribed (r : Registry) (id other : ConnectionId) (topic : Topic)
    (entry : Registration) :
    (r.subscribed id topic entry).connections.get? other =
      if other = id then some { entry with topics := entry.topics ++ [topic] }
      else r.connections.get? other :=
  Table.get?_insert ..

theorem handles_subscribed (r : Registry) (id other : ConnectionId) (topic topic' : Topic)
    (entry : Registration) :
    ((r.subscribed id topic entry).handles topic').get? other =
      if topic' = topic ∧ other = entry.handle.connection then some entry.handle
      else (r.handles topic').get? other :=
  get?_handles_attach r topic topic' entry.handle other

theorem connections_unsubscribed (r : Registry) (id other : ConnectionId) (topic : Topic)
    (entry : Registration) :
    (r.unsubscribed id topic entry).connections.get? other =
      if other = id then some { entry with topics := entry.topics.erase topic }
      else r.connections.get? other :=
  Table.get?_insert ..

theorem handles_unsubscribed (r : Registry) (id other : ConnectionId) (topic topic' : Topic)
    (entry : Registration) :
    ((r.unsubscribed id topic entry).handles topic').get? other =
      if topic' = topic ∧ other = id then none else (r.handles topic').get? other :=
  get?_handles_detach r id other topic topic'

theorem limit_unsubscribed (r : Registry) (id : ConnectionId) (topic : Topic)
    (entry : Registration) : (r.unsubscribed id topic entry).limit = r.limit := by
  rw [unsubscribed, detach_eq]

theorem connections_forgotten (r : Registry) (id other : ConnectionId) (entry : Registration) :
    (r.forgotten id entry).connections.get? other =
      if other = id then none else r.connections.get? other :=
  Table.get?_erase ..

theorem handles_forgotten (r : Registry) (id other : ConnectionId) (topic : Topic)
    (entry : Registration) :
    ((r.forgotten id entry).handles topic).get? other =
      if topic ∈ entry.topics ∧ other = id then none else (r.handles topic).get? other :=
  get?_handles_detachAll r id other entry.topics topic

theorem limit_forgotten (r : Registry) (id : ConnectionId) (entry : Registration) :
    (r.forgotten id entry).limit = r.limit := by
  rw [forgotten, detachAll_eq]

theorem subscribe_cases (r : Registry) (id : ConnectionId) (topic : Topic) :
    (r.connections.get? id = none ∧
        r.step (.subscribe id topic) = (r, .subscribed (.error (.unregistered id)))) ∨
      ∃ entry, r.connections.get? id = some entry ∧
        (topic ∈ entry.topics ∧ r.step (.subscribe id topic) = (r, .subscribed (.ok false)) ∨
          topic ∉ entry.topics ∧ r.limit ≤ entry.topics.length ∧
            r.step (.subscribe id topic) = (r, .subscribed (.error (.limitReached r.limit))) ∨
          topic ∉ entry.topics ∧ entry.topics.length < r.limit ∧
            r.step (.subscribe id topic) =
              (r.subscribed id topic entry, .subscribed (.ok true))) := by
  cases found : r.connections.get? id with
  | none =>
      left
      simp only [step, subscribe_unregistered found]
      exact ⟨trivial, trivial⟩
  | some entry =>
      refine .inr ⟨entry, rfl, ?_⟩
      by_cases old : topic ∈ entry.topics
      · left
        simp only [step, subscribe_of_mem found old]
        exact ⟨old, trivial⟩
      · right
        by_cases full : r.limit ≤ entry.topics.length
        · left
          simp only [step, subscribe, found, old, full, if_true, if_false]
          exact ⟨not_false, trivial, trivial⟩
        · right
          refine ⟨old, Nat.lt_of_not_le full, ?_⟩
          simp only [step, subscribe, found, old, full, if_false]
          rfl

theorem subscribe_new_or (r : Registry) (id : ConnectionId) (topic : Topic) :
    ((r.step (.subscribe id topic)).1 = r ∧
        (r.step (.subscribe id topic)).2 ≠ .subscribed (.ok true)) ∨
      ∃ entry, r.connections.get? id = some entry ∧ topic ∉ entry.topics ∧
        r.step (.subscribe id topic) = (r.subscribed id topic entry, .subscribed (.ok true)) := by
  rcases subscribe_cases r id topic with
    ⟨-, next⟩ | ⟨entry, found, ⟨-, next⟩ | ⟨-, -, next⟩ | ⟨new, -, next⟩⟩
  · rw [next]
    exact .inl ⟨rfl, nofun⟩
  · rw [next]
    exact .inl ⟨rfl, nofun⟩
  · rw [next]
    exact .inl ⟨rfl, nofun⟩
  · exact .inr ⟨entry, found, new, next⟩

theorem unsubscribe_cases (r : Registry) (id : ConnectionId) (topic : Topic) :
    ((∀ entry, r.connections.get? id = some entry → topic ∉ entry.topics) ∧
        r.step (.unsubscribe id topic) = (r, .unsubscribed false)) ∨
      ∃ entry, r.connections.get? id = some entry ∧ topic ∈ entry.topics ∧
        r.step (.unsubscribe id topic) = (r.unsubscribed id topic entry, .unsubscribed true) := by
  cases found : r.connections.get? id with
  | none =>
      left
      simp only [step, unsubscribe, found]
      refine ⟨?_, trivial⟩
      intro entry missing
      cases missing
  | some entry =>
      by_cases held : topic ∈ entry.topics
      · right
        refine ⟨entry, rfl, held, ?_⟩
        simp only [step, unsubscribe, found, held, if_true, detach_of_connections]
        rfl
      · left
        simp only [step, unsubscribe, found, held, if_false]
        refine ⟨?_, trivial⟩
        rintro own same
        cases same
        exact held

theorem unsubscribeAll_cases (r : Registry) (id : ConnectionId) :
    (r.connections.get? id = none ∧ r.step (.unsubscribeAll id) = (r, .removed 0)) ∨
      ∃ entry, r.connections.get? id = some entry ∧
        r.step (.unsubscribeAll id) =
          (r.forgotten id entry, .removed entry.topics.length) := by
  cases found : r.connections.get? id with
  | none =>
      left
      simp only [step, unsubscribeAll, found]
      exact ⟨trivial, trivial⟩
  | some entry =>
      right
      refine ⟨entry, rfl, ?_⟩
      simp only [step, unsubscribeAll, found]
      rw [← detachAll, detachAll_of_connections]
      rfl

end CandleFeed.Registry
