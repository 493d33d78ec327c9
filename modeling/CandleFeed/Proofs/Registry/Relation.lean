import CandleFeed.Proofs.Registry.Commands
import Mathlib.Data.Finset.Image
import Mathlib.Data.Finset.Card
import Mathlib.Data.Finset.Prod

namespace CandleFeed

structure Subscriptions where
  ids : Finset ConnectionId
  pairs : Finset (ConnectionId × Topic)

namespace Subscriptions
open Registry

def empty : Subscriptions := ⟨∅, ∅⟩

def topicsOf (s : Subscriptions) (id : ConnectionId) : Finset Topic :=
  (s.pairs.filter fun pair => pair.1 = id).image Prod.snd

theorem mem_topicsOf {s : Subscriptions} {id : ConnectionId} {topic : Topic} :
    topic ∈ s.topicsOf id ↔ (id, topic) ∈ s.pairs := by
  simp only [topicsOf, Finset.mem_image, Finset.mem_filter]
  constructor
  · rintro ⟨⟨own, topic⟩, ⟨mem, rfl⟩, rfl⟩
    exact mem
  · intro mem
    exact ⟨_, ⟨mem, rfl⟩, rfl⟩

def step (limit : Nat) (s : Subscriptions) : Command → Subscriptions × Answer
  | .register handle => ({ s with ids := insert handle.connection s.ids }, .registered)
  | .subscribe id topic =>
      if id ∉ s.ids then (s, .subscribed (.error (.unregistered id)))
      else if (id, topic) ∈ s.pairs then (s, .subscribed (.ok false))
      else if limit ≤ (s.topicsOf id).card then (s, .subscribed (.error (.limitReached limit)))
      else ({ s with pairs := insert (id, topic) s.pairs }, .subscribed (.ok true))
  | .unsubscribe id topic =>
      ({ s with pairs := s.pairs.erase (id, topic) }, .unsubscribed ((id, topic) ∈ s.pairs))
  | .unsubscribeAll id =>
      (⟨s.ids.erase id, s.pairs.filter fun pair => pair.1 ≠ id⟩, .removed (s.topicsOf id).card)

def run (limit : Nat) (s : Subscriptions) : List Command → Subscriptions × List Answer
  | [] => (s, [])
  | command :: rest =>
      let (s, answer) := s.step limit command
      let (s, answers) := s.run limit rest
      (s, answer :: answers)

end Subscriptions

namespace Registry

def Occupied (r : Registry) : Prop :=
  ∀ topic subscribers, r.topics.get? topic = some subscribers → subscribers.size ≠ 0

/-- Both directions of the registry hold the relation. -/
structure Agrees (r : Registry) (s : Subscriptions) : Prop where
  registered : ∀ id, id ∈ s.ids ↔ ∃ entry, r.connections.get? id = some entry
  distinct : ∀ id entry, r.connections.get? id = some entry → entry.topics.Nodup
  topics : ∀ id entry, r.connections.get? id = some entry →
    ∀ topic, topic ∈ entry.topics ↔ (id, topic) ∈ s.pairs
  known : ∀ id topic, (id, topic) ∈ s.pairs → id ∈ s.ids
  subscribed : ∀ id topic, (id, topic) ∈ s.pairs ↔
    ∃ handle, (r.handles topic).get? id = some handle
  named : ∀ id topic handle, (r.handles topic).get? id = some handle → handle.connection = id
  own : ∀ id entry, r.connections.get? id = some entry → entry.handle.connection = id
  occupied : r.Occupied
  within : ∀ id, (s.topicsOf id).card ≤ r.limit

theorem agrees_empty (limit : Nat) : Agrees (empty limit) .empty := by
  constructor
  all_goals simp [empty, Subscriptions.empty, handles, Occupied, Subscriptions.topicsOf]

theorem occupied_attach {r : Registry} (occupied : r.Occupied) (topic : Topic) (handle : Handle) :
    (r.attach topic handle).Occupied := by
  intro other subscribers found
  rw [attach, Table.get?_insert] at found
  split at found
  · cases found
    intro none
    have kept := Table.get?_insert_self (r.handles topic) handle.connection handle
    rw [Table.eq_empty_of_size none] at kept
    cases kept
  · exact occupied other subscribers found

theorem occupied_detach {r : Registry} (occupied : r.Occupied) (id : ConnectionId)
    (topic : Topic) : (r.detach id topic).Occupied := by
  intro other subscribers found
  unfold detach at found
  split at found
  · exact occupied other subscribers found
  · dsimp only at found
    split at found
    · rw [Table.get?_erase] at found
      split at found
      · cases found
      · exact occupied other subscribers found
    · rename_i left
      rw [Table.get?_insert] at found
      split at found
      · cases found
        exact left
      · exact occupied other subscribers found

theorem occupied_detachAll {r : Registry} (occupied : r.Occupied) (id : ConnectionId)
    (topics : List Topic) : (r.detachAll id topics).Occupied := by
  unfold detachAll
  induction topics generalizing r with
  | nil => exact occupied
  | cons first rest ih => exact ih (occupied_detach occupied id first)

theorem Agrees.card_topicsOf {r : Registry} {s : Subscriptions} (agrees : Agrees r s)
    {id : ConnectionId} {entry : Registration} (found : r.connections.get? id = some entry) :
    (s.topicsOf id).card = entry.topics.length := by
  rw [← List.toFinset_card_of_nodup (agrees.distinct id entry found)]
  congr 1
  ext topic
  rw [Subscriptions.mem_topicsOf, List.mem_toFinset, agrees.topics id entry found]

/-! ## One command -/

theorem Agrees.topics_of_unregistered {r : Registry} {s : Subscriptions} (agrees : Agrees r s)
    {id : ConnectionId} (unknown : r.connections.get? id = none) (topic : Topic) :
    (id, topic) ∉ s.pairs := by
  intro mem
  obtain ⟨entry, found⟩ := (agrees.registered id).mp (agrees.known id topic mem)
  rw [unknown] at found
  cases found

theorem agrees_register {r : Registry} {s : Subscriptions} (agrees : Agrees r s)
    (handle : Handle) :
    Agrees (r.register handle) { s with ids := insert handle.connection s.ids } := by
  constructor
  case registered =>
    intro id
    rw [get?_register, Finset.mem_insert, agrees.registered]
    by_cases here : id = handle.connection <;> simp [here]
  case distinct =>
    intro id entry found
    rw [get?_register] at found
    split at found
    · cases found
      cases old : r.connections.get? id with
      | none => simp
      | some entry => simpa using agrees.distinct id entry old
    · exact agrees.distinct id entry found
  case topics =>
    intro id entry found topic
    rw [get?_register] at found
    split at found
    · cases found
      cases old : r.connections.get? id with
      | none => simpa using agrees.topics_of_unregistered old topic
      | some entry => simpa using agrees.topics id entry old topic
    · exact agrees.topics id entry found topic
  case known =>
    intro id topic mem
    exact Finset.mem_insert_of_mem (agrees.known id topic mem)
  case own =>
    intro id entry found
    rw [get?_register] at found
    split at found
    · rename_i here
      cases found
      exact here.symm
    · exact agrees.own id entry found
  case subscribed => exact agrees.subscribed
  case named => exact agrees.named
  case occupied => exact agrees.occupied
  case within => exact agrees.within

theorem card_topicsOf_insert (s : Subscriptions) (id other : ConnectionId) (topic : Topic) :
    (({ s with pairs := insert (id, topic) s.pairs } : Subscriptions).topicsOf other).card ≤
      (s.topicsOf other).card + if other = id then 1 else 0 := by
  unfold Subscriptions.topicsOf
  rw [Finset.filter_insert]
  split
  · rename_i here
    rw [Finset.image_insert, if_pos here.symm]
    exact Finset.card_insert_le _ _
  · exact Nat.le_add_right _ _

theorem Agrees.registered_insert {r : Registry} {s : Subscriptions} (agrees : Agrees r s)
    {id : ConnectionId} {entry : Registration} (found : r.connections.get? id = some entry)
    (new : Registration) (other : ConnectionId) :
    other ∈ s.ids ↔ ∃ entry, (r.connections.insert id new).get? other = some entry := by
  rw [agrees.registered, Table.get?_insert]
  by_cases here : other = id
  · subst here
    simp [found]
  · simp [here]

theorem Agrees.own_insert {r : Registry} {s : Subscriptions} (agrees : Agrees r s)
    {id : ConnectionId} {entry : Registration} (found : r.connections.get? id = some entry)
    (topics : List Topic) (other : ConnectionId) (entry' : Registration)
    (found' : (r.connections.insert id { entry with topics := topics }).get? other = some entry') :
    entry'.handle.connection = other := by
  rw [Table.get?_insert] at found'
  split at found'
  · rename_i here
    cases found'
    rw [agrees.own id entry found, here]
  · exact agrees.own other entry' found'

theorem agrees_subscribed {r : Registry} {s : Subscriptions} (agrees : Agrees r s)
    {id : ConnectionId} {entry : Registration} {topic : Topic}
    (found : r.connections.get? id = some entry) (new : topic ∉ entry.topics)
    (room : entry.topics.length < r.limit) :
    Agrees (r.subscribed id topic entry) { s with pairs := insert (id, topic) s.pairs } := by
  have owner := agrees.own id entry found
  constructor
  case registered => exact agrees.registered_insert found _
  case distinct =>
    intro other entry' found'
    rw [connections_subscribed] at found'
    split at found'
    · cases found'
      exact List.nodup_append.mpr ⟨agrees.distinct id entry found, by simp, by
        intro a mem b single
        rintro rfl
        exact new (List.mem_singleton.mp single ▸ mem)⟩
    · exact agrees.distinct other entry' found'
  case topics =>
    intro other entry' found' topic'
    rw [connections_subscribed] at found'
    split at found'
    · rename_i here
      cases found'
      subst here
      rw [Finset.mem_insert, List.mem_append, List.mem_singleton, agrees.topics other entry found]
      simp [or_comm]
    · rename_i apart
      rw [Finset.mem_insert, agrees.topics other entry' found']
      simp [apart]
  case known =>
    intro other topic' mem
    rcases Finset.mem_insert.mp mem with here | old
    · cases here
      exact (agrees.registered _).mpr ⟨entry, found⟩
    · exact agrees.known other topic' old
  case subscribed =>
    intro other topic'
    rw [handles_subscribed, owner, Finset.mem_insert, agrees.subscribed]
    by_cases here : topic' = topic ∧ other = id
    · simp [here]
    · have apart : (other, topic') ≠ (id, topic) := fun same => here (by simpa [and_comm] using same)
      simp [here, apart]
  case named =>
    intro other topic' handle found'
    rw [handles_subscribed] at found'
    split at found'
    · rename_i here
      cases found'
      exact here.2.symm
    · exact agrees.named other topic' handle found'
  case own => exact agrees.own_insert found _
  case occupied => exact occupied_attach agrees.occupied topic entry.handle
  case within =>
    intro other
    apply (card_topicsOf_insert s id other topic).trans
    split
    · rename_i here
      rw [here, agrees.card_topicsOf found]
      exact room
    · exact agrees.within other

theorem card_topicsOf_mono {s t : Subscriptions} (fewer : s.pairs ⊆ t.pairs) (id : ConnectionId) :
    (s.topicsOf id).card ≤ (t.topicsOf id).card := by
  apply Finset.card_le_card
  intro topic mem
  exact Subscriptions.mem_topicsOf.mpr (fewer (Subscriptions.mem_topicsOf.mp mem))

theorem agrees_unsubscribed {r : Registry} {s : Subscriptions} (agrees : Agrees r s)
    {id : ConnectionId} {entry : Registration} (found : r.connections.get? id = some entry)
    (topic : Topic) :
    Agrees (r.unsubscribed id topic entry) { s with pairs := s.pairs.erase (id, topic) } := by
  have fewer : s.pairs.erase (id, topic) ⊆ s.pairs := Finset.erase_subset _ _
  constructor
  case registered => exact agrees.registered_insert found _
  case distinct =>
    intro other entry' found'
    rw [connections_unsubscribed] at found'
    split at found'
    · cases found'
      exact (agrees.distinct id entry found).erase topic
    · exact agrees.distinct other entry' found'
  case topics =>
    intro other entry' found' topic'
    rw [connections_unsubscribed] at found'
    split at found'
    · rename_i here
      cases found'
      subst here
      rw [(agrees.distinct other entry found).mem_erase_iff, Finset.mem_erase,
        agrees.topics other entry found]
      simp
    · rename_i apart
      rw [Finset.mem_erase, agrees.topics other entry' found']
      simp [apart]
  case known =>
    intro other topic' mem
    exact agrees.known other topic' (fewer mem)
  case subscribed =>
    intro other topic'
    rw [handles_unsubscribed, Finset.mem_erase, agrees.subscribed]
    by_cases here : topic' = topic ∧ other = id
    · simp [here]
    · have apart : (other, topic') ≠ (id, topic) := fun same => here (by simpa [and_comm] using same)
      simp [here, apart]
  case named =>
    intro other topic' handle found'
    rw [handles_unsubscribed] at found'
    split at found'
    · cases found'
    · exact agrees.named other topic' handle found'
  case own => exact agrees.own_insert found _
  case occupied => exact occupied_detach agrees.occupied id topic
  case within =>
    intro other
    rw [limit_unsubscribed]
    exact (card_topicsOf_mono fewer other).trans (agrees.within other)

theorem agrees_forgotten {r : Registry} {s : Subscriptions} (agrees : Agrees r s)
    {id : ConnectionId} {entry : Registration} (found : r.connections.get? id = some entry) :
    Agrees (r.forgotten id entry) ⟨s.ids.erase id, s.pairs.filter fun pair => pair.1 ≠ id⟩ := by
  have fewer : (s.pairs.filter fun pair => pair.1 ≠ id) ⊆ s.pairs := Finset.filter_subset _ _
  have kept (other : ConnectionId) (entry' : Registration)
      (found' : (r.forgotten id entry).connections.get? other = some entry') :
      other ≠ id ∧ r.connections.get? other = some entry' := by
    rw [connections_forgotten] at found'
    split at found'
    · cases found'
    · exact ⟨‹_›, found'⟩
  have held (topic : Topic) (handle : Handle) (mine : (r.handles topic).get? id = some handle) :
      topic ∈ entry.topics :=
    (agrees.topics id entry found topic).mpr ((agrees.subscribed id topic).mpr ⟨handle, mine⟩)
  constructor
  case registered =>
    intro other
    rw [Finset.mem_erase, agrees.registered, connections_forgotten]
    by_cases here : other = id <;> simp [here]
  case distinct =>
    intro other entry' found'
    exact agrees.distinct other entry' (kept other entry' found').2
  case topics =>
    intro other entry' found' topic
    obtain ⟨apart, found'⟩ := kept other entry' found'
    rw [agrees.topics other entry' found', Finset.mem_filter]
    simp [apart]
  case known =>
    intro other topic mem
    obtain ⟨mem, apart⟩ := Finset.mem_filter.mp mem
    exact Finset.mem_erase.mpr ⟨apart, agrees.known other topic mem⟩
  case subscribed =>
    intro other topic
    rw [handles_forgotten, Finset.mem_filter, agrees.subscribed]
    by_cases here : other = id
    · subst here
      by_cases mem : topic ∈ entry.topics
      · simp [mem]
      · simp only [mem, false_and, if_false, ne_eq, not_true_eq_false, and_false, false_iff]
        rintro ⟨handle, mine⟩
        exact mem (held topic handle mine)
    · simp [here]
  case named =>
    intro other topic handle found'
    rw [handles_forgotten] at found'
    split at found'
    · cases found'
    · exact agrees.named other topic handle found'
  case own =>
    intro other entry' found'
    exact agrees.own other entry' (kept other entry' found').2
  case occupied => exact occupied_detachAll agrees.occupied id entry.topics
  case within =>
    intro other
    rw [limit_forgotten]
    exact (card_topicsOf_mono fewer other).trans (agrees.within other)

def Simulates (r : Registry) (s : Subscriptions) (command : Command) : Prop :=
  Agrees (r.step command).1 (s.step r.limit command).1 ∧
    (r.step command).2 = (s.step r.limit command).2 ∧ (r.step command).1.limit = r.limit

theorem simulates_subscribe {r : Registry} {s : Subscriptions} (agrees : Agrees r s)
    (id : ConnectionId) (topic : Topic) : Simulates r s (.subscribe id topic) := by
  unfold Simulates Subscriptions.step
  dsimp only
  rcases subscribe_cases r id topic with ⟨missing, next⟩ | ⟨entry, found, outcome⟩
  · have unknown : id ∉ s.ids := by
      rw [agrees.registered, missing]
      simp
    rw [next, if_pos unknown]
    exact ⟨agrees, rfl, rfl⟩
  · have known : id ∈ s.ids := (agrees.registered id).mpr ⟨entry, found⟩
    have pair := agrees.topics id entry found topic
    rw [if_neg (not_not_intro known), agrees.card_topicsOf found]
    rcases outcome with ⟨old, next⟩ | ⟨new, full, next⟩ | ⟨new, room, next⟩
    · rw [next, if_pos (pair.mp old)]
      exact ⟨agrees, rfl, rfl⟩
    · rw [next, if_neg (new ∘ pair.mpr), if_pos full]
      exact ⟨agrees, rfl, rfl⟩
    · rw [next, if_neg (new ∘ pair.mpr), if_neg (Nat.not_le.mpr room)]
      exact ⟨agrees_subscribed agrees found new room, rfl, rfl⟩

theorem simulates_unsubscribe {r : Registry} {s : Subscriptions} (agrees : Agrees r s)
    (id : ConnectionId) (topic : Topic) : Simulates r s (.unsubscribe id topic) := by
  unfold Simulates Subscriptions.step
  dsimp only
  rcases unsubscribe_cases r id topic with ⟨nothing, next⟩ | ⟨entry, found, held, next⟩
  · have absent : (id, topic) ∉ s.pairs := by
      intro pair
      obtain ⟨entry, found⟩ := (agrees.registered id).mp (agrees.known id topic pair)
      exact nothing entry found ((agrees.topics id entry found topic).mpr pair)
    rw [next, Finset.erase_eq_of_notMem absent, decide_eq_false absent]
    exact ⟨agrees, rfl, rfl⟩
  · have pair := (agrees.topics id entry found topic).mp held
    rw [next, decide_eq_true pair]
    exact ⟨agrees_unsubscribed agrees found topic, rfl, limit_unsubscribed r id topic entry⟩

theorem simulates_unsubscribeAll {r : Registry} {s : Subscriptions} (agrees : Agrees r s)
    (id : ConnectionId) : Simulates r s (.unsubscribeAll id) := by
  unfold Simulates Subscriptions.step
  dsimp only
  rcases unsubscribeAll_cases r id with ⟨missing, next⟩ | ⟨entry, found, next⟩
  · have absent := agrees.topics_of_unregistered missing
    have unknown : id ∉ s.ids := by
      rw [agrees.registered, missing]
      simp
    have pairs : (s.pairs.filter fun pair => pair.1 ≠ id) = s.pairs := by
      apply Finset.filter_true_of_mem
      rintro ⟨other, topic⟩ mem rfl
      exact absent topic mem
    have none : s.topicsOf id = ∅ := by
      apply Finset.eq_empty_of_forall_notMem
      intro topic mem
      exact absent topic (Subscriptions.mem_topicsOf.mp mem)
    rw [next, Finset.erase_eq_of_notMem unknown, pairs, none]
    exact ⟨agrees, rfl, rfl⟩
  · rw [next, agrees.card_topicsOf found]
    exact ⟨agrees_forgotten agrees found, rfl, limit_forgotten r id entry⟩

theorem simulates_step {r : Registry} {s : Subscriptions} (agrees : Agrees r s)
    (command : Command) : Simulates r s command := by
  cases command with
  | register handle => exact ⟨agrees_register agrees handle, rfl, rfl⟩
  | subscribe id topic => exact simulates_subscribe agrees id topic
  | unsubscribe id topic => exact simulates_unsubscribe agrees id topic
  | unsubscribeAll id => exact simulates_unsubscribeAll agrees id

theorem agrees_run {r : Registry} {s : Subscriptions} (agrees : Agrees r s)
    (commands : List Command) :
    Agrees (r.run commands).1 (s.run r.limit commands).1 ∧
      (r.run commands).2 = (s.run r.limit commands).2 ∧ (r.run commands).1.limit = r.limit := by
  induction commands generalizing r s with
  | nil => exact ⟨agrees, rfl, rfl⟩
  | cons command rest ih =>
      obtain ⟨agrees', answer, limit⟩ := simulates_step agrees command
      obtain ⟨agrees'', answers, limit'⟩ := ih agrees'
      rw [limit] at agrees'' answers limit'
      refine ⟨agrees'', ?_, limit'⟩
      simp only [run, Subscriptions.run]
      rw [answer, answers]

end Registry

end CandleFeed
