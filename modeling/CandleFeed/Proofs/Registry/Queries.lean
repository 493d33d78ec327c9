import CandleFeed.Proofs.Registry.Relation
import CandleFeed.Proofs.TopicOrder

namespace CandleFeed.Registry

theorem Agrees.isSubscribed {r : Registry} {s : Subscriptions} (agrees : Agrees r s)
    (id : ConnectionId) (topic : Topic) : r.isSubscribed id topic = true ↔ (id, topic) ∈ s.pairs := by
  unfold Registry.isSubscribed
  cases found : r.connections.get? id with
  | none => simpa using agrees.topics_of_unregistered found topic
  | some entry => simpa using agrees.topics id entry found topic

theorem get?_handles {r : Registry} {topic : Topic} {subscribers : Table ConnectionId Handle}
    (found : r.topics.get? topic = some subscribers) : r.handles topic = subscribers := by
  rw [handles, found, Option.getD_some]

theorem Agrees.isConsistent {r : Registry} {s : Subscriptions} (agrees : Agrees r s) :
    r.isConsistent = true := by
  unfold Registry.isConsistent
  rw [Bool.and_eq_true, List.all_eq_true, List.all_eq_true]
  constructor
  · rintro ⟨topic, subscribers⟩ mem
    have found := (r.topics.mem_iff_get? topic subscribers).mp mem
    have occupied := agrees.occupied topic subscribers found
    rw [Bool.and_eq_true, List.all_eq_true]
    refine ⟨by simpa using occupied, ?_⟩
    intro id key
    rw [Table.mem_keys_iff, Option.isSome_iff_exists, ← get?_handles found] at key
    exact (agrees.isSubscribed id topic).mpr ((agrees.subscribed id topic).mpr key)
  · rintro ⟨id, entry⟩ mem
    have found := (r.connections.mem_iff_get? id entry).mp mem
    rw [List.all_eq_true]
    intro topic held
    have pair := (agrees.topics id entry found topic).mp held
    exact Option.isSome_iff_exists.mpr ((agrees.subscribed id topic).mp pair)

theorem Agrees.connections_subscribers {r : Registry} {s : Subscriptions} (agrees : Agrees r s)
    (topic : Topic) : (r.subscribers topic).map Handle.connection = (r.handles topic).keys := by
  unfold subscribers Table.values Table.keys
  rw [List.map_map]
  apply List.map_congr_left
  rintro ⟨id, handle⟩ mem
  exact agrees.named id topic handle (((r.handles topic).mem_iff_get? id handle).mp mem)

theorem Agrees.subscribers {r : Registry} {s : Subscriptions} (agrees : Agrees r s)
    (topic : Topic) :
    ((r.subscribers topic).map Handle.connection).Nodup ∧
      ∀ id, id ∈ (r.subscribers topic).map Handle.connection ↔ (id, topic) ∈ s.pairs := by
  rw [agrees.connections_subscribers]
  refine ⟨(r.handles topic).distinct, ?_⟩
  intro id
  rw [Table.mem_keys_iff, Option.isSome_iff_exists, agrees.subscribed]

theorem Agrees.topicsOf {r : Registry} {s : Subscriptions} (agrees : Agrees r s)
    (id : ConnectionId) :
    (r.topicsOf id).Pairwise (fun a b => compare a b = .lt) ∧
      ∀ topic, topic ∈ r.topicsOf id ↔ (id, topic) ∈ s.pairs := by
  unfold Registry.topicsOf
  cases found : r.connections.get? id with
  | none =>
      refine ⟨Topic.sorted_mergeSort List.nodup_nil, ?_⟩
      intro topic
      simpa using agrees.topics_of_unregistered found topic
  | some entry =>
      refine ⟨Topic.sorted_mergeSort (agrees.distinct id entry found), ?_⟩
      intro topic
      rw [List.mem_mergeSort]
      exact agrees.topics id entry found topic

theorem card_keys [DecidableEq κ] (t : Table κ α) : t.keys.toFinset.card = t.size := by
  unfold Table.keys Table.size
  rw [List.toFinset_card_of_nodup t.distinct, List.length_map]

theorem Agrees.connectionCount {r : Registry} {s : Subscriptions} (agrees : Agrees r s) :
    r.connectionCount = s.ids.card := by
  unfold Registry.connectionCount
  rw [← card_keys]
  congr 1
  ext id
  rw [List.mem_toFinset, Table.mem_keys_iff, Option.isSome_iff_exists, agrees.registered]

theorem exists_get? [DecidableEq κ] {t : Table κ α} (some : t.size ≠ 0) :
    ∃ key value, t.get? key = .some value := by
  obtain ⟨⟨key, value⟩, mem⟩ := List.exists_mem_of_length_pos (Nat.pos_of_ne_zero some)
  exact ⟨key, value, (t.mem_iff_get? key value).mp mem⟩

theorem Agrees.mem_topics {r : Registry} {s : Subscriptions} (agrees : Agrees r s)
    (topic : Topic) : topic ∈ r.topics.keys ↔ ∃ id, (id, topic) ∈ s.pairs := by
  rw [Table.mem_keys_iff, Option.isSome_iff_exists]
  constructor
  · rintro ⟨subscribers, found⟩
    obtain ⟨id, handle, mine⟩ := exists_get? (agrees.occupied topic subscribers found)
    rw [← get?_handles found] at mine
    exact ⟨id, (agrees.subscribed id topic).mpr ⟨handle, mine⟩⟩
  · rintro ⟨id, pair⟩
    obtain ⟨handle, mine⟩ := (agrees.subscribed id topic).mp pair
    cases found : r.topics.get? topic with
    | some subscribers => exact ⟨subscribers, rfl⟩
    | none =>
        rw [handles, found] at mine
        cases mine

theorem Agrees.topicCount {r : Registry} {s : Subscriptions} (agrees : Agrees r s) :
    r.topicCount = (s.pairs.image Prod.snd).card := by
  unfold Registry.topicCount
  rw [← card_keys]
  congr 1
  ext topic
  rw [List.mem_toFinset, agrees.mem_topics, Finset.mem_image]
  constructor
  · rintro ⟨id, pair⟩
    exact ⟨(id, topic), pair, rfl⟩
  · rintro ⟨⟨id, own⟩, pair, rfl⟩
    exact ⟨id, pair⟩

theorem step_of_error {r : Registry} {command : Command} {cause : RegistryError}
    (failed : (r.step command).2 = .subscribed (.error cause)) : (r.step command).1 = r := by
  cases command with
  | subscribe id topic =>
      unfold step at failed ⊢
      dsimp only at failed ⊢
      split
      · rename_i answer
        rw [answer] at failed
        cases failed
      · rfl
  | register handle => cases failed
  | unsubscribe id topic => cases failed
  | unsubscribeAll id => cases failed

structure AnswersFrom (r : Registry) (s : Subscriptions) : Prop where
  consistent : r.isConsistent = true
  bounded : ∀ id, (s.topicsOf id).card ≤ r.limit
  isSubscribed : ∀ id topic, r.isSubscribed id topic = true ↔ (id, topic) ∈ s.pairs
  subscribers_nodup : ∀ topic, ((r.subscribers topic).map Handle.connection).Nodup
  mem_subscribers : ∀ topic id,
    id ∈ (r.subscribers topic).map Handle.connection ↔ (id, topic) ∈ s.pairs
  topicsOf_sorted : ∀ id, (r.topicsOf id).Pairwise fun a b => compare a b = .lt
  mem_topicsOf : ∀ id topic, topic ∈ r.topicsOf id ↔ (id, topic) ∈ s.pairs
  connectionCount : r.connectionCount = s.ids.card
  topicCount : r.topicCount = (s.pairs.image Prod.snd).card

theorem Agrees.answersFrom {r : Registry} {s : Subscriptions} (agrees : Agrees r s) :
    AnswersFrom r s where
  consistent := agrees.isConsistent
  bounded := agrees.within
  isSubscribed := agrees.isSubscribed
  subscribers_nodup topic := (agrees.subscribers topic).1
  mem_subscribers topic := (agrees.subscribers topic).2
  topicsOf_sorted id := (agrees.topicsOf id).1
  mem_topicsOf id := (agrees.topicsOf id).2
  connectionCount := agrees.connectionCount
  topicCount := agrees.topicCount

theorem run_simulates (limit : Nat) (commands : List Command) :
    let r := ((empty limit).run commands).1
    let s := (Subscriptions.empty.run limit commands).1
    ((empty limit).run commands).2 = (Subscriptions.empty.run limit commands).2 ∧
      r.limit = limit ∧ AnswersFrom r s ∧
      ∀ command cause, (r.step command).2 = .subscribed (.error cause) → (r.step command).1 = r := by
  obtain ⟨agrees, answers, kept⟩ := agrees_run (agrees_empty limit) commands
  refine ⟨answers, kept, agrees.answersFrom, ?_⟩
  intro command cause failed
  exact step_of_error failed

end CandleFeed.Registry
