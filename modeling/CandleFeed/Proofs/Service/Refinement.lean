import CandleFeed.Proofs.Service.Sound

namespace CandleFeed.Service

variable {s t : Service} {id : ConnectionId} {number : Nat} {seat : Seat}

/-- One connection has another seat. Nothing else has changed but the counts. -/
structure Reseats (s : Service) (id : ConnectionId) (seat : Option Seat) (t : Service) : Prop where
  sound : t.Sound
  own : t.seat? id = seat
  others : ∀ other, other ≠ id → t.seat? other = s.seat? other
  ingester : ∃ m, t.toIngester = s.toIngester.counting m
  publicTrades : t.publicTrades = s.publicTrades
  limit : t.registry.limit = s.registry.limit

def rework (s : Service) (r : Registry) (number : Nat) (change : Outbox Frame → Outbox Frame)
    (m : Metrics) : Service :=
  { s with registry := r, outboxes := s.outboxes.modify number change, metrics := m }

theorem Sound.reseats_rework (sound : s.Sound) (seated : s.Seated id number seat) {r : Registry}
    {change : Outbox Frame → Outbox Frame} {m : Metrics} {topics : List Topic}
    (sound' : (s.rework r number change m).Sound) (limit : r.limit = s.registry.limit)
    (wants : ∀ other, r.wants other = if other = id then topics else s.registry.wants other)
    (connection : ∀ outbox, (change outbox).connection = outbox.connection) :
    Reseats s id (some ⟨topics, change seat.outbox⟩) (s.rework r number change m) := by
  have lookup (n : Nat) : (s.rework r number change m).outboxes.get? n =
      if n = number then some (change seat.outbox) else s.outboxes.get? n := by
    change (s.outboxes.modify number change).get? n = _
    rw [Table.get?_modify, seated.placed]
    rfl
  have owner : (change seat.outbox).connection = id := (connection _).trans seated.owner
  constructor
  case sound => exact sound'
  case own =>
    refine sound'.seat?_eq_some_iff.mpr ⟨number, ?_, owner, ?_⟩
    · exact (wants id).trans (if_pos rfl)
    · exact (lookup number).trans (if_pos rfl)
  case others =>
    intro other apart
    refine sound.seat?_congr sound' ((wants other).trans (if_neg apart)) ?_
    intro n outbox theirs
    rw [lookup]
    split
    · rename_i here
      rw [here, seated.placed]
      -- under this number no outbox is theirs, neither before nor after
      constructor <;> intro same <;> cases same
      · exact absurd (theirs.symm.trans owner) apart
      · exact absurd (theirs.symm.trans seated.owner) apart
    · rfl
  case ingester => exact ⟨m, rfl⟩
  case publicTrades => rfl
  case limit => exact limit

/-! ## Sessions that go on -/

theorem Sound.retopics (sound : s.Sound) (seated : s.Seated id number seat) {r : Registry}
    {change : Outbox Frame → Outbox Frame} {topics : List Topic}
    (retopics : s.registry.Retopics id topics r)
    (marks : ∀ outbox, mark (change outbox) = mark outbox) (m : Metrics) :
    Reseats s id (some ⟨topics, change seat.outbox⟩) (s.rework r number change m) := by
  refine sound.reseats_rework seated ?_ retopics.limit retopics.wants
    fun outbox => congrArg Prod.fst (marks outbox)
  refine sound.of_marks sound.coherent retopics.agrees retopics.current retopics.handle
    (Table.size_modify ..) ?_
  intro n
  change ((s.outboxes.modify number change).get? n).map mark = _
  rw [Table.get?_modify]
  split
  · rename_i here
    rw [here, Option.map_map]
    exact congrArg (Option.map · _) (funext marks)
  · rfl

theorem Sound.reoutbox (sound : s.Sound) (seated : s.Seated id number seat)
    {change : Outbox Frame → Outbox Frame} (marks : ∀ outbox, mark (change outbox) = mark outbox)
    (m : Metrics) :
    Reseats s id (some { seat with outbox := change seat.outbox })
      (s.rework s.registry number change m) := by
  obtain ⟨relation, agrees⟩ := sound.agrees
  have all := sound.retopics seated (.refl agrees sound.current id) marks m
  rw [seated.wants] at all
  exact all

/-! ## The end of a session -/

theorem Sound.ended (sound : s.Sound) (seated : s.Seated id number seat) (m : Metrics) :
    Reseats s id (some ⟨[], seat.outbox.requestClose.disown⟩)
      (s.rework (s.registry.unsubscribeAll id).1 number (fun o => o.requestClose.disown) m) := by
  obtain ⟨relation, agrees⟩ := sound.agrees
  obtain ⟨agrees', -, limit⟩ := Registry.simulates_step agrees (.unsubscribeAll id)
  have kept (o : Outbox Frame) : o.requestClose.disown.connection = o.connection := rfl
  refine sound.reseats_rework seated ?_ limit (s.registry.wants_unsubscribeAll id) kept
  have lookup (n : Nat) : (s.outboxes.modify number fun o => o.requestClose.disown).get? n =
      if n = number then some seat.outbox.requestClose.disown else s.outboxes.get? n := by
    rw [Table.get?_modify, seated.placed]
    rfl
  refine sound.of_connections sound.coherent ⟨_, agrees'⟩
    (sound.current.step agrees (.unsubscribeAll id) (by simp)) (Table.size_modify ..) ?_ ?_
  · intro n
    change ((s.outboxes.modify number _).get? n).map _ = _
    rw [lookup]
    split
    · rename_i here
      rw [here, seated.placed]
      rfl
    · rfl
  · intro other handle
    change (s.registry.unsubscribeAll id).1.handle? other = _ ↔ _ ∧ ∃ outbox,
      (s.outboxes.modify number _).get? handle.outbox = _ ∧ _
    rw [Registry.handle?_unsubscribeAll, lookup]
    by_cases here : handle.outbox = number
    · rw [if_pos here]
      -- the outbox has no owner now, and its connection is registered no more
      constructor
      · intro known
        split at known
        · cases known
        · rename_i apart
          obtain ⟨-, outbox, placed, owner, -⟩ := (sound.registered other handle).mp known
          rw [here, seated.placed] at placed
          cases placed
          exact absurd (owner.symm.trans seated.owner) apart
      · rintro ⟨-, outbox, same, -, owned⟩
        cases same
        cases owned
    · rw [if_neg here]
      by_cases mine : other = id
      · rw [if_pos mine]
        constructor
        · intro known
          cases known
        · rintro ⟨-, outbox, placed, owner, -⟩
          have same := owner.trans (mine.trans seated.owner.symm)
          exact absurd (sound.single _ _ _ _ placed seated.placed same) here
      · rw [if_neg mine, sound.registered]

/-! ## The start of a session -/

theorem Sound.fresh (sound : s.Sound) (new : s.number? id = none) {n : Nat}
    {outbox : Outbox Frame} (placed : s.outboxes.get? n = some outbox) : outbox.connection ≠ id := by
  intro owner
  rw [sound.number?_eq_some_iff.mpr ⟨outbox, placed, owner⟩] at new
  cases new

theorem Sound.unregistered (sound : s.Sound) (new : s.number? id = none) :
    s.registry.handle? id = none := by
  cases known : s.registry.handle? id with
  | none => rfl
  | some handle =>
      obtain ⟨-, outbox, placed, owner, -⟩ := (sound.registered id handle).mp known
      exact absurd owner (sound.fresh new placed)

theorem Sound.get?_size (sound : s.Sound) : s.outboxes.get? s.outboxes.size = none :=
  Table.get?_size_of_numbered sound.numbered

theorem get?_openSession (s : Service) (id : ConnectionId) (capacity : Nat) (policy : DropPolicy)
    (n : Nat) : (s.openSession id capacity policy).1.outboxes.get? n =
      if n = s.outboxes.size then some (.create id capacity policy) else s.outboxes.get? n :=
  Table.get?_insert ..

theorem Sound.openSession (sound : s.Sound) (new : s.number? id = none) (capacity : Nat)
    (policy : DropPolicy) : (s.openSession id capacity policy).1.Sound := by
  obtain ⟨relation, agrees⟩ := sound.agrees
  obtain ⟨agrees', -, -⟩ := Registry.simulates_step agrees (.register ⟨id, s.outboxes.size⟩)
  constructor
  case coherent => exact sound.coherent
  case agrees => exact ⟨_, agrees'⟩
  case current =>
    refine sound.current.step agrees (.register ⟨id, s.outboxes.size⟩) ?_
    rintro handle same
    cases same
    exact sound.unregistered new
  case numbered => exact fun n outbox => Table.numbered_insert_size sound.numbered _
  case single =>
    intro n n' outbox outbox' placed placed' same
    rw [get?_openSession] at placed placed'
    split at placed
    · rename_i last
      cases placed
      split at placed'
      · rename_i last'
        rw [last, last']
      · exact absurd same.symm (sound.fresh new placed')
    · split at placed'
      · cases placed'
        exact absurd same (sound.fresh new placed)
      · exact sound.single n n' outbox outbox' placed placed' same
  case registered =>
    intro other handle
    change (s.registry.register _).handle? other = _ ↔ _
    rw [Registry.handle?_register, get?_openSession]
    by_cases here : other = id
    · subst here
      rw [if_pos rfl]
      constructor
      · intro same
        cases same
        exact ⟨rfl, _, if_pos rfl, rfl, rfl⟩
      · rintro ⟨owner, outbox, placed, owner', -⟩
        split at placed
        · rename_i last
          rw [← owner, ← last]
        · exact absurd owner' (sound.fresh new placed)
    · rw [if_neg here, sound.registered]
      by_cases last : handle.outbox = s.outboxes.size
      · rw [if_pos last, last, sound.get?_size]
        constructor
        · rintro ⟨-, outbox, placed, -⟩
          cases placed
        · rintro ⟨-, outbox, placed, owner, -⟩
          cases placed
          exact absurd owner.symm here
      · rw [if_neg last]

theorem Sound.started (sound : s.Sound) (new : s.number? id = none) (capacity : Nat)
    (policy : DropPolicy) :
    Reseats s id (some ⟨[], .create id capacity policy⟩) (s.openSession id capacity policy).1 := by
  have sound' := sound.openSession new capacity policy
  have wants (other : ConnectionId) :
      (s.openSession id capacity policy).1.registry.wants other = s.registry.wants other :=
    Registry.wants_register ..
  constructor
  case sound => exact sound'
  case own =>
    refine sound'.seat?_eq_some_iff.mpr ⟨s.outboxes.size, ?_, rfl, ?_⟩
    · have unknown := Option.map_eq_none_iff.mp (sound.unregistered new)
      rw [wants, Registry.wants, unknown]
      rfl
    · exact (s.get?_openSession ..).trans (if_pos rfl)
  case others =>
    intro other apart
    refine sound.seat?_congr sound' (wants other) ?_
    intro n outbox theirs
    rw [get?_openSession]
    split
    · rename_i last
      rw [last, sound.get?_size]
      constructor <;> intro same <;> cases same
      exact absurd theirs.symm apart
    · rfl
  case ingester => exact ⟨s.metrics.connectionOpened, rfl⟩
  case publicTrades => rfl
  case limit => rfl

/-! ## Texts -/

theorem Sound.perform (sound : s.Sound) {handle : Handle}
    (known : s.registry.handle? id = some handle) (request : Request) :
    match Seat.perform (s.registry.wants id) s.registry.limit request with
    | .error cause => s.perform id request = .error cause
    | .ok (topics, message) => ∃ r, s.registry.Retopics id topics r ∧
        s.perform id request = .ok ({ s with registry := r }, message) := by
  obtain ⟨relation, agrees⟩ := sound.agrees
  obtain ⟨entry, known, -⟩ := Option.map_eq_some_iff.mp known
  have unchanged := Registry.Retopics.refl agrees sound.current id
  cases request with
  | ping => exact ⟨_, unchanged, rfl⟩
  | unsubscribe topic => exact ⟨_, Registry.retopics_unsubscribe agrees sound.current id topic, rfl⟩
  | subscribe topic =>
      unfold Seat.perform
      dsimp only
      by_cases old : topic ∈ s.registry.wants id
      · rw [if_pos old]
        refine ⟨_, unchanged, ?_⟩
        rw [Registry.wants_of_get? known] at old
        unfold Service.perform
        dsimp only
        rw [Registry.subscribe_of_mem known old]
      · rw [if_neg old]
        by_cases full : s.registry.limit ≤ (s.registry.wants id).length
        · rw [if_pos full]
          rw [Registry.wants_of_get? known] at old full
          simp [Service.perform, Registry.subscribe, known, old, full, RegistryError.toProtocol]
        · rw [if_neg full]
          obtain ⟨r, made, retopics⟩ := Registry.retopics_subscribe agrees sound.current known old
            (Nat.lt_of_not_le full)
          refine ⟨r, retopics, ?_⟩
          unfold Service.perform
          dsimp only
          rw [made]

theorem Sound.handleText (sound : s.Sound) {handle : Handle}
    (known : s.registry.handle? id = some handle) (number : Nat) (text : String) :
    let reply := Seat.answer (s.registry.wants id) s.registry.limit text
    ∃ r m, s.registry.Retopics id reply.topics r ∧
      s.handleText number id text =
        (s.rework r number (fun o => (o.send (s.frame reply.message)).1) m, reply.result) := by
  obtain ⟨relation, agrees⟩ := sound.agrees
  have unchanged := Registry.Retopics.refl agrees sound.current id
  unfold Seat.answer Service.handleText
  cases Request.parse text with
  | error cause => exact ⟨_, s.metrics.protocolError, unchanged, rfl⟩
  | ok request =>
      have performed := sound.perform known request
      dsimp only
      generalize Seat.perform (s.registry.wants id) s.registry.limit request = done at performed
      rcases done with cause | ⟨topics, message⟩
      · have performed : s.perform id request = .error cause := performed
        refine ⟨_, s.metrics.protocolError, unchanged, ?_⟩
        simp only [bind, Except.bind, performed]
        rfl
      · obtain ⟨r, retopics, performed⟩ := performed
        refine ⟨r, s.metrics, retopics, ?_⟩
        simp only [bind, Except.bind, performed]
        rfl

/-! ## Acts -/

theorem Sound.unseated (sound : s.Sound) (id : ConnectionId) : Reseats s id (s.seat? id) s where
  sound := sound
  own := rfl
  others _ _ := rfl
  ingester := ⟨s.metrics, rfl⟩
  publicTrades := rfl
  limit := rfl

theorem Sound.idle (sound : s.Sound) (seated : s.Seated id number seat) : Reseats s id (some seat) s := by
  have same := sound.unseated id
  rw [sound.seat?_eq_some_iff.mpr ⟨number, seated⟩] at same
  exact same

theorem Seated.session?_eq (seated : s.Seated id number seat) :
    s.session? number = if seat.outbox.owned then some seat.outbox else none := by
  rw [session?, seated.placed, Option.filter_some]

theorem Sound.asSession (sound : s.Sound) (seated : s.Seated id number seat)
    {done : Service × Effect} {done' : Seat × Effect}
    (same : seat.outbox.owned = true → Reseats s id (some done'.1) done.1 ∧ done.2 = done'.2) :
    Reseats s id (some (seat.asOwner done').1) (s.asSession number done).1 ∧
      (s.asSession number done).2 = (seat.asOwner done').2 := by
  have exists_iff : (s.session? number).isSome = seat.outbox.owned := by
    rw [seated.session?_eq]
    cases seat.outbox.owned <;> rfl
  unfold Service.asSession Seat.asOwner
  rw [exists_iff]
  split
  · rename_i owned
    exact same owned
  · exact ⟨sound.idle seated, rfl⟩

theorem Seated.receive (seated : s.Seated id number seat) :
    s.receive number =
      (s.rework s.registry number (fun o => o.receive.1) s.metrics, seat.outbox.receive.2) := by
  unfold Service.receive rework Table.modify
  rw [seated.placed]
  rfl

theorem Seated.dropSession (seated : s.Seated id number seat) (owned : seat.outbox.owned = true) :
    s.dropSession number =
      (s.rework (s.registry.unsubscribeAll id).1 number (fun o => o.requestClose.disown)
          s.metrics.connectionClosed,
        seat.topics.length) := by
  have session : s.session? number = some seat.outbox := seated.session?_eq.trans (if_pos owned)
  unfold Service.dropSession
  rw [session]
  dsimp only
  rw [seated.owner, ← seated.wants, ← Registry.length_wants_unsubscribeAll]
  unfold rework Table.modify
  rw [seated.placed]
  rfl

theorem Sound.actAt (sound : s.Sound) (seated : s.Seated id number seat) (act : Act) :
    let done := seat.act s.registry.limit s.store.wall.millis act
    Reseats s id (some done.1) (s.actAt id number act).1 ∧ (s.actAt id number act).2 = done.2 := by
  unfold Service.actAt Seat.act
  cases act with
  | start capacity policy => exact ⟨sound.idle seated, rfl⟩
  | text text =>
      refine sound.asSession seated ?_
      intro owned
      have known : s.registry.handle? id = some ⟨id, number⟩ :=
        (sound.registered id _).mpr ⟨rfl, seat.outbox, seated.placed, seated.owner, owned⟩
      obtain ⟨r, m, retopics, answered⟩ := sound.handleText known number text
      rw [seated.wants] at retopics answered
      rw [answered]
      exact ⟨sound.retopics seated retopics (fun o => mark_send o _) m, rfl⟩
  | receive =>
      dsimp only
      rw [seated.receive]
      exact ⟨sound.reoutbox seated mark_receive s.metrics, rfl⟩
  | requestClose =>
      refine sound.asSession seated ?_
      intro _
      exact ⟨sound.reoutbox seated mark_requestClose s.metrics, rfl⟩
  | close reason =>
      refine sound.asSession seated ?_
      intro owned
      unfold closeSession
      rw [seated.dropSession owned]
      exact ⟨sound.ended seated (countClose s.metrics.connectionClosed reason), rfl⟩
  | drop =>
      refine sound.asSession seated ?_
      intro owned
      rw [seated.dropSession owned]
      exact ⟨sound.ended seated s.metrics.connectionClosed, rfl⟩
  | abandon => exact ⟨sound.reoutbox seated mark_abandon s.metrics, rfl⟩

/-- An act on a session changes the seat of that session, as if it were the only one. -/
theorem Sound.act (sound : s.Sound) (id : ConnectionId) (act : Act) :
    let done := Seat.step id s.registry.limit s.store.wall.millis (s.seat? id) act
    Reseats s id done.1 (s.act id act).1 ∧ (s.act id act).2 = done.2 := by
  unfold Service.act
  cases found : s.number? id with
  | none =>
      have missing : s.seat? id = none := by
        rw [seat?, outbox?, found]
        rfl
      have idle := sound.unseated id
      rw [missing] at idle ⊢
      cases act with
      | start capacity policy => exact ⟨sound.started found capacity policy, rfl⟩
      | _ => exact ⟨idle, rfl⟩
  | some number =>
      obtain ⟨outbox, placed, owner⟩ := sound.number?_eq_some_iff.mp found
      have seated : s.Seated id number ⟨s.registry.wants id, outbox⟩ := ⟨rfl, owner, placed⟩
      have done := sound.actAt seated act
      rw [sound.seat?_eq_some_iff.mpr ⟨number, seated⟩]
      exact done

end CandleFeed.Service
