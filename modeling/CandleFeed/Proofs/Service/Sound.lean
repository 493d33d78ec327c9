import CandleFeed.Proofs.Engine.Refinement
import CandleFeed.Proofs.Service.Seats

/-!
# Sound services

Every session has one outbox, under its own number, and the registry knows the sessions that have
not ended, by the numbers of their outboxes.
-/

namespace CandleFeed

namespace Service

structure Sound (s : Service) : Prop where
  coherent : s.store.Coherent
  agrees : ∃ relation, s.registry.Agrees relation
  current : s.registry.Current
  numbered : ∀ n outbox, s.outboxes.get? n = some outbox → n < s.outboxes.size
  single : ∀ n n' outbox outbox', s.outboxes.get? n = some outbox →
    s.outboxes.get? n' = some outbox' → outbox.connection = outbox'.connection → n = n'
  registered : ∀ id handle, s.registry.handle? id = some handle ↔
    handle.connection = id ∧ ∃ outbox, s.outboxes.get? handle.outbox = some outbox ∧
      outbox.connection = id ∧ outbox.owned = true

theorem sound_create (settings : Settings) (now : Nat) (wall : Instant) (ids : Nat → Uuid) :
    Sound (Gateway.create settings (.empty now wall ids)).service where
  coherent := Store.coherent_empty now wall ids
  agrees := ⟨_, Registry.agrees_empty _⟩
  current _ _ _ found := by cases found
  numbered _ _ found := by cases found
  single _ _ _ _ found := by cases found
  registered id handle := by
    constructor
    · intro found
      cases found
    · rintro ⟨-, outbox, found, -⟩
      cases found

variable {s t : Service}

theorem Sound.number?_eq_some_iff (sound : s.Sound) {id : ConnectionId} {n : Nat} :
    s.number? id = some n ↔ ∃ outbox, s.outboxes.get? n = some outbox ∧ outbox.connection = id := by
  have exists_of_number {m : Nat} (found : s.number? id = some m) :
      ∃ outbox, s.outboxes.get? m = some outbox ∧ outbox.connection = id := by
    obtain ⟨entry, first, rfl⟩ := Option.map_eq_some_iff.mp found
    refine ⟨entry.2, (s.outboxes.mem_iff_get? _ _).mp (List.mem_of_find?_eq_some first), ?_⟩
    simpa using List.find?_some first
  refine ⟨exists_of_number, ?_⟩
  rintro ⟨outbox, found, owner⟩
  cases number : s.number? id with
  | none =>
      have missing := List.find?_eq_none.mp (Option.map_eq_none_iff.mp number) (n, outbox)
        ((s.outboxes.mem_iff_get? _ _).mpr found)
      exact absurd (decide_eq_true owner) missing
  | some m =>
      obtain ⟨outbox', found', owner'⟩ := exists_of_number number
      rw [sound.single n m outbox outbox' found found' (owner.trans owner'.symm)]

/-- A connection has its outbox under a number, and wants the topics of its seat. -/
structure Seated (s : Service) (id : ConnectionId) (number : Nat) (seat : Seat) : Prop where
  wants : s.registry.wants id = seat.topics
  owner : seat.outbox.connection = id
  placed : s.outboxes.get? number = some seat.outbox

theorem Sound.outbox?_eq_some_iff (sound : s.Sound) {id : ConnectionId} {outbox : Outbox Frame} :
    s.outbox? id = some outbox ↔
      outbox.connection = id ∧ ∃ number, s.outboxes.get? number = some outbox := by
  unfold outbox?
  rw [Option.bind_eq_some_iff]
  constructor
  · rintro ⟨n, number, placed⟩
    obtain ⟨own, placed', owner⟩ := sound.number?_eq_some_iff.mp number
    rw [placed] at placed'
    cases placed'
    exact ⟨owner, n, placed⟩
  · rintro ⟨owner, n, placed⟩
    exact ⟨n, sound.number?_eq_some_iff.mpr ⟨outbox, placed, owner⟩, placed⟩

theorem Sound.registered_of_owned (sound : s.Sound) {id : ConnectionId} {outbox : Outbox Frame}
    (found : s.outbox? id = some outbox) (owned : outbox.owned = true) :
    ∃ handle, s.registry.handle? id = some handle := by
  obtain ⟨owner, n, placed⟩ := sound.outbox?_eq_some_iff.mp found
  exact ⟨⟨id, n⟩, (sound.registered id _).mpr ⟨rfl, outbox, placed, owner, owned⟩⟩

theorem Sound.exists_outbox_of_subscribed (sound : s.Sound) {id : ConnectionId} {topic : Topic}
    (subscribed : s.registry.isSubscribed id topic = true) :
    ∃ outbox, s.outbox? id = some outbox := by
  obtain ⟨entry, known, -⟩ := (Option.any_eq_true _ _).mp subscribed
  obtain ⟨-, outbox, placed, owner, -⟩ :=
    (sound.registered id entry.handle).mp (Registry.handle?_of_get? known)
  exact ⟨outbox, sound.outbox?_eq_some_iff.mpr ⟨owner, _, placed⟩⟩

theorem Sound.seat?_eq_some_iff (sound : s.Sound) {id : ConnectionId} {seat : Seat} :
    s.seat? id = some seat ↔ ∃ number, s.Seated id number seat := by
  unfold seat?
  rw [Option.map_eq_some_iff]
  constructor
  · rintro ⟨outbox, found, rfl⟩
    obtain ⟨owner, n, placed⟩ := sound.outbox?_eq_some_iff.mp found
    exact ⟨n, rfl, owner, placed⟩
  · rintro ⟨n, wants, owner, placed⟩
    refine ⟨seat.outbox, sound.outbox?_eq_some_iff.mpr ⟨owner, n, placed⟩, ?_⟩
    rw [wants]

theorem seat?_outbox (s : Service) (id : ConnectionId) :
    (s.seat? id).map Seat.outbox = s.outbox? id := by
  rw [seat?, Option.map_map]
  exact Option.map_id'

theorem seat?_of_outbox {id : ConnectionId} {outbox : Outbox Frame}
    (found : s.outbox? id = some outbox) : s.seat? id = some ⟨s.registry.wants id, outbox⟩ := by
  rw [seat?, found]
  rfl

theorem Sound.seat?_congr (sound : s.Sound) (sound' : t.Sound) {id : ConnectionId}
    (wants : t.registry.wants id = s.registry.wants id)
    (placed : ∀ number outbox, outbox.connection = id →
      (t.outboxes.get? number = some outbox ↔ s.outboxes.get? number = some outbox)) :
    t.seat? id = s.seat? id := by
  apply Option.ext
  intro seat
  rw [sound'.seat?_eq_some_iff, sound.seat?_eq_some_iff]
  apply exists_congr
  intro number
  constructor
  · intro seated
    exact ⟨wants ▸ seated.wants, seated.owner, (placed number _ seated.owner).mp seated.placed⟩
  · intro seated
    exact ⟨wants ▸ seated.wants, seated.owner, (placed number _ seated.owner).mpr seated.placed⟩

def mark (o : Outbox Frame) : ConnectionId × Bool :=
  (o.connection, o.owned)

theorem mark_send (o : Outbox Frame) (frame : Frame) : mark (o.send frame).1 = mark o := by
  unfold Outbox.send
  split
  · rfl
  · split
    · rw [Outbox.overflow_eq]
      rfl
    · rfl

theorem mark_enqueue (o : Outbox Frame) (frame : Frame) : mark (o.enqueue frame).1 = mark o := by
  unfold Outbox.enqueue
  split
  · exact mark_send o frame
  · rfl

theorem mark_receive (o : Outbox Frame) : mark o.receive.1 = mark o := by
  unfold Outbox.receive
  split
  · split <;> rfl
  · rfl

theorem mark_requestClose (o : Outbox Frame) : mark o.requestClose = mark o := rfl

theorem mark_abandon (o : Outbox Frame) : mark o.abandon = mark o := rfl

theorem Sound.of_connections (sound : s.Sound) (coherent : t.store.Coherent)
    (agrees : ∃ relation, t.registry.Agrees relation) (current : t.registry.Current)
    (size : t.outboxes.size = s.outboxes.size)
    (same : ∀ n, (t.outboxes.get? n).map Outbox.connection =
      (s.outboxes.get? n).map Outbox.connection)
    (registered : ∀ id handle, t.registry.handle? id = some handle ↔
      handle.connection = id ∧ ∃ outbox, t.outboxes.get? handle.outbox = some outbox ∧
        outbox.connection = id ∧ outbox.owned = true) : t.Sound := by
  have before {n : Nat} {outbox : Outbox Frame} (found : t.outboxes.get? n = some outbox) :
      ∃ old, s.outboxes.get? n = some old ∧ old.connection = outbox.connection := by
    have same := same n
    rw [found] at same
    exact Option.map_eq_some_iff.mp same.symm
  refine ⟨coherent, agrees, current, ?_, ?_, registered⟩
  · intro n outbox found
    obtain ⟨old, found, -⟩ := before found
    rw [size]
    exact sound.numbered n old found
  · intro n n' outbox outbox' found found' owner
    obtain ⟨old, found, kept⟩ := before found
    obtain ⟨old', found', kept'⟩ := before found'
    exact sound.single n n' old old' found found' (kept.trans (owner.trans kept'.symm))

theorem Sound.of_marks (sound : s.Sound) (coherent : t.store.Coherent)
    (agrees : ∃ relation, t.registry.Agrees relation) (current : t.registry.Current)
    (handle : ∀ id, t.registry.handle? id = s.registry.handle? id)
    (size : t.outboxes.size = s.outboxes.size)
    (marks : ∀ n, (t.outboxes.get? n).map mark = (s.outboxes.get? n).map mark) : t.Sound := by
  refine sound.of_connections coherent agrees current size ?_ ?_
  · intro n
    have same := congrArg (Option.map Prod.fst) (marks n)
    rw [Option.map_map, Option.map_map] at same
    exact same
  · intro id own
    have marked (s : Service) : (∃ outbox, s.outboxes.get? own.outbox = some outbox ∧
        outbox.connection = id ∧ outbox.owned = true) ↔
        (s.outboxes.get? own.outbox).map mark = some (id, true) := by
      simp only [Option.map_eq_some_iff, mark, Prod.mk.injEq]
    rw [handle, sound.registered, marked, marked, marks]

theorem Sound.number?_of_connections (sound : s.Sound) (sound' : t.Sound)
    (same : ∀ n, (t.outboxes.get? n).map Outbox.connection =
      (s.outboxes.get? n).map Outbox.connection) (id : ConnectionId) :
    t.number? id = s.number? id := by
  apply Option.ext
  intro n
  have exists_iff (s : Service) : (∃ outbox, s.outboxes.get? n = some outbox ∧
      outbox.connection = id) ↔ (s.outboxes.get? n).map Outbox.connection = some id :=
    Option.map_eq_some_iff.symm
  rw [sound'.number?_eq_some_iff, sound.number?_eq_some_iff, exists_iff, exists_iff, same]

end Service

end CandleFeed
