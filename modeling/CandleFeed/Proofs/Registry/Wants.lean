import CandleFeed.Proofs.Registry.Handles

/-!
# What each connection wants

The registry seen from one connection: its topics and its handle. A command changes them for one
connection only. While no connection is registered a second time, the topics have the handles that
the connections have.
-/

namespace CandleFeed.Registry

def wants (r : Registry) (id : ConnectionId) : List Topic :=
  ((r.connections.get? id).map Registration.topics).getD []

def handle? (r : Registry) (id : ConnectionId) : Option Handle :=
  (r.connections.get? id).map Registration.handle

theorem wants_of_get? {r : Registry} {id : ConnectionId} {entry : Registration}
    (known : r.connections.get? id = some entry) : r.wants id = entry.topics := by
  rw [wants, known]
  rfl

theorem handle?_of_get? {r : Registry} {id : ConnectionId} {entry : Registration}
    (known : r.connections.get? id = some entry) : r.handle? id = some entry.handle := by
  rw [handle?, known]
  rfl

theorem isSubscribed_iff (r : Registry) (id : ConnectionId) (topic : Topic) :
    r.isSubscribed id topic = true ↔ topic ∈ r.wants id := by
  unfold isSubscribed wants
  cases r.connections.get? id <;> simp

theorem Agrees.mem_wants {r : Registry} {s : Subscriptions} (agrees : Agrees r s)
    {id : ConnectionId} {topic : Topic} : topic ∈ r.wants id ↔ (id, topic) ∈ s.pairs := by
  rw [← isSubscribed_iff, agrees.isSubscribed]

theorem Agrees.nodup_wants {r : Registry} {s : Subscriptions} (agrees : Agrees r s)
    (id : ConnectionId) : (r.wants id).Nodup := by
  unfold wants
  cases known : r.connections.get? id with
  | none => exact List.nodup_nil
  | some entry => exact agrees.distinct id entry known

theorem wants_register (r : Registry) (handle : Handle) (id : ConnectionId) :
    (r.register handle).wants id = r.wants id := by
  unfold wants
  rw [get?_register]
  split <;> rfl

theorem handle?_register (r : Registry) (handle : Handle) (id : ConnectionId) :
    (r.register handle).handle? id = if id = handle.connection then some handle else r.handle? id := by
  unfold handle?
  rw [get?_register]
  split <;> rfl

theorem wants_subscribed {r : Registry} {own : ConnectionId} {entry : Registration}
    (known : r.connections.get? own = some entry) (topic : Topic) (id : ConnectionId) :
    (r.subscribed own topic entry).wants id =
      if id = own then r.wants own ++ [topic] else r.wants id := by
  unfold wants
  rw [connections_subscribed, known]
  split <;> rfl

theorem handle?_subscribe (r : Registry) (own : ConnectionId) (topic : Topic) (id : ConnectionId) :
    (r.step (.subscribe own topic)).1.handle? id = r.handle? id := by
  rcases subscribe_new_or r own topic with ⟨same, -⟩ | ⟨entry, known, -, next⟩
  · rw [same]
  · rw [next]
    unfold handle?
    dsimp only
    rw [connections_subscribed]
    split
    · rename_i here
      rw [here, known]
      rfl
    · rfl

theorem wants_unsubscribe (r : Registry) (own : ConnectionId) (topic : Topic) (id : ConnectionId) :
    (r.unsubscribe own topic).1.wants id =
      if id = own then (r.wants own).erase topic else r.wants id := by
  change (r.step (.unsubscribe own topic)).1.wants id = _
  rcases unsubscribe_cases r own topic with ⟨absent, next⟩ | ⟨entry, known, -, next⟩
  · rw [next]
    split
    · rename_i here
      rw [here, List.erase_of_not_mem]
      intro held
      cases known : r.connections.get? own with
      | none => simp [wants, known] at held
      | some entry => exact absent entry known (wants_of_get? known ▸ held)
    · rfl
  · rw [next]
    unfold wants
    dsimp only
    rw [connections_unsubscribed, known]
    split <;> rfl

theorem handle?_unsubscribe (r : Registry) (own : ConnectionId) (topic : Topic)
    (id : ConnectionId) : (r.unsubscribe own topic).1.handle? id = r.handle? id := by
  change (r.step (.unsubscribe own topic)).1.handle? id = _
  rcases unsubscribe_cases r own topic with ⟨-, next⟩ | ⟨entry, known, -, next⟩
  · rw [next]
  · rw [next]
    unfold handle?
    dsimp only
    rw [connections_unsubscribed]
    split
    · rename_i here
      rw [here, known]
      rfl
    · rfl

theorem get?_unsubscribeAll (r : Registry) (own id : ConnectionId) :
    (r.unsubscribeAll own).1.connections.get? id =
      if id = own then none else r.connections.get? id := by
  change (r.step (.unsubscribeAll own)).1.connections.get? id = _
  rcases unsubscribeAll_cases r own with ⟨unknown, next⟩ | ⟨entry, -, next⟩
  · rw [next]
    split
    · rename_i here
      rw [here]
      exact unknown
    · rfl
  · rw [next]
    exact connections_forgotten r own id entry

theorem wants_unsubscribeAll (r : Registry) (own id : ConnectionId) :
    (r.unsubscribeAll own).1.wants id = if id = own then [] else r.wants id := by
  unfold wants
  rw [get?_unsubscribeAll]
  split <;> rfl

theorem handle?_unsubscribeAll (r : Registry) (own id : ConnectionId) :
    (r.unsubscribeAll own).1.handle? id = if id = own then none else r.handle? id := by
  unfold handle?
  rw [get?_unsubscribeAll]
  split <;> rfl

theorem length_wants_unsubscribeAll (r : Registry) (own : ConnectionId) :
    (r.unsubscribeAll own).2 = (r.wants own).length := by
  unfold unsubscribeAll wants
  split
  · rename_i unknown
    rw [unknown]
    rfl
  · rename_i entry known
    rw [known]
    rfl

def Current (r : Registry) : Prop :=
  ∀ topic id handle, (r.handles topic).get? id = some handle → r.handle? id = some handle

theorem Current.step {r : Registry} {s : Subscriptions} (current : r.Current) (agrees : Agrees r s)
    (command : Command)
    (new : ∀ handle, command = .register handle → r.handle? handle.connection = none) :
    (r.step command).1.Current := by
  intro topic id handle found
  have mine : r.handle? id = some handle ∧ ∀ own, command = .unsubscribeAll own → id ≠ own := by
    rcases (agrees.handles_step command topic id handle).mp found with
      ⟨rfl, -, entry, known, rfl⟩ | ⟨lasting, old⟩
    · exact ⟨handle?_of_get? known, nofun⟩
    · refine ⟨current topic id handle old, ?_⟩
      rintro own rfl rfl
      exact lasting (.inr rfl)
  obtain ⟨mine, kept⟩ := mine
  cases command with
  | register other =>
      change (r.register other).handle? id = _
      rw [handle?_register, if_neg, mine]
      rintro rfl
      rw [new other rfl] at mine
      cases mine
  | subscribe own topic' => rw [handle?_subscribe, mine]
  | unsubscribe own topic' => exact (handle?_unsubscribe r own topic' id).trans mine
  | unsubscribeAll own =>
      exact (handle?_unsubscribeAll r own id).trans ((if_neg (kept own rfl)).trans mine)

/-- The registry has changed what one connection wants, and nothing else that matters. -/
structure Retopics (r : Registry) (id : ConnectionId) (topics : List Topic) (after : Registry) :
    Prop where
  limit : after.limit = r.limit
  agrees : ∃ relation, after.Agrees relation
  current : after.Current
  handle : ∀ other, after.handle? other = r.handle? other
  wants : ∀ other, after.wants other = if other = id then topics else r.wants other

theorem Retopics.refl {r : Registry} {s : Subscriptions} (agrees : Agrees r s) (current : r.Current)
    (id : ConnectionId) : r.Retopics id (r.wants id) r where
  limit := rfl
  agrees := ⟨s, agrees⟩
  current := current
  handle _ := rfl
  wants other := by
    split
    · rename_i here
      rw [here]
    · rfl

theorem retopics_subscribe {r : Registry} {s : Subscriptions} (agrees : Agrees r s)
    (current : r.Current) {id : ConnectionId} {entry : Registration}
    (known : r.connections.get? id = some entry) {topic : Topic} (new : topic ∉ r.wants id)
    (room : (r.wants id).length < r.limit) :
    ∃ after, r.subscribe id topic = .ok (after, true) ∧
      r.Retopics id (r.wants id ++ [topic]) after := by
  have wanted := wants_of_get? known
  rw [wanted] at new room
  have made : r.subscribe id topic = .ok (r.subscribed id topic entry, true) := by
    simp only [subscribe, known, new, Nat.not_le.mpr room, if_false]
    rfl
  have next : r.step (.subscribe id topic) =
      (r.subscribed id topic entry, .subscribed (.ok true)) := by
    unfold step
    dsimp only
    rw [made]
  obtain ⟨agrees', -, limit⟩ := simulates_step agrees (.subscribe id topic)
  have current' := current.step agrees (.subscribe id topic) (by simp)
  have handle := handle?_subscribe r id topic
  rw [next] at agrees' limit current' handle
  exact ⟨_, made, limit, ⟨_, agrees'⟩, current', handle, wants_subscribed known topic⟩

theorem retopics_unsubscribe {r : Registry} {s : Subscriptions} (agrees : Agrees r s)
    (current : r.Current) (id : ConnectionId) (topic : Topic) :
    r.Retopics id ((r.wants id).erase topic) (r.unsubscribe id topic).1 := by
  obtain ⟨agrees', -, limit⟩ := simulates_step agrees (.unsubscribe id topic)
  exact ⟨limit, ⟨_, agrees'⟩, current.step agrees (.unsubscribe id topic) (by simp),
    handle?_unsubscribe r id topic, wants_unsubscribe r id topic⟩

end CandleFeed.Registry
