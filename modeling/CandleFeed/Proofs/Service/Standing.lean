import CandleFeed.Proofs.Service.News

namespace CandleFeed

def Act.Ends : Act → Prop
  | .close _ | .drop => True
  | _ => False

theorem Registry.topicsOf_eq (r : Registry) (id : ConnectionId) :
    r.topicsOf id = (r.wants id).mergeSort Topic.le := rfl

namespace Service

variable {s : Service} {id : ConnectionId}

def standing? (s : Service) (id : ConnectionId) : Option Bool :=
  (s.outbox? id).map Outbox.owned

/-- What an act can do to the standing of its session, by what comes of it. -/
inductive Turns : Option Bool → Effect → Option Bool → Prop
  | starts : Turns none .started (some true)
  | ends (topics : Nat) : Turns (some true) (.ended topics) (some false)
  | stays {standing : Option Bool} {effect : Effect} (starts : effect ≠ .started)
      (ends : ∀ topics, effect ≠ .ended topics) : Turns standing effect standing

theorem Turns.of_ended {before after : Option Bool} {topics : Nat}
    (turns : Turns before (.ended topics) after) : after = some false := by
  cases turns with
  | ends topics => rfl
  | stays starts ends => exact absurd rfl (ends topics)

theorem Turns.of_mark {o after : Outbox Frame} {effect : Effect} (same : mark after = mark o)
    (starts : effect ≠ .started) (ends : ∀ topics, effect ≠ .ended topics) :
    Turns (some o.owned) effect (some after.owned) := by
  have owned : after.owned = o.owned := congrArg Prod.snd same
  rw [owned]
  exact .stays starts ends

theorem turns_asOwner {seat : Seat} {done : Seat × Effect}
    (turns : seat.outbox.owned = true →
      Turns (some seat.outbox.owned) done.2 (some done.1.outbox.owned)) :
    Turns (some seat.outbox.owned) (seat.asOwner done).2 (some (seat.asOwner done).1.outbox.owned) := by
  unfold Seat.asOwner
  split
  · rename_i owned
    exact turns owned
  · exact .stays nofun nofun

theorem turns_seat (seat : Seat) (limit : Nat) (now : Int) (act : Act) :
    Turns (some seat.outbox.owned) (seat.act limit now act).2
      (some (seat.act limit now act).1.outbox.owned) := by
  have ends : Turns (some seat.outbox.owned)
      (seat.asOwner (⟨[], seat.outbox.requestClose.disown⟩, .ended seat.topics.length)).2
      (some (seat.asOwner
        (⟨[], seat.outbox.requestClose.disown⟩, .ended seat.topics.length)).1.outbox.owned) := by
    refine turns_asOwner fun owned => ?_
    rw [owned]
    exact .ends seat.topics.length
  cases act with
  | start capacity policy => exact .stays nofun nofun
  | text text => exact turns_asOwner fun _ => .of_mark (mark_send _ _) nofun nofun
  | receive => exact .of_mark (mark_receive _) nofun nofun
  | requestClose => exact turns_asOwner fun _ => .of_mark (mark_requestClose _) nofun nofun
  | close reason => exact ends
  | drop => exact ends
  | abandon => exact .of_mark (mark_abandon _) nofun nofun

theorem standing?_eq (s : Service) (id : ConnectionId) :
    s.standing? id = (s.seat? id).map fun seat => seat.outbox.owned := by
  rw [standing?, ← seat?_outbox, Option.map_map]
  rfl

theorem Sound.turns_act (sound : s.Sound) (id : ConnectionId) (act : Act) :
    Turns (s.standing? id) (s.act id act).2 ((s.act id act).1.standing? id) := by
  obtain ⟨reseats, effect⟩ := sound.act id act
  rw [effect, standing?_eq, standing?_eq, reseats.own]
  cases s.seat? id with
  | some seat => exact turns_seat seat _ _ act
  | none =>
      cases act with
      | start capacity policy => exact .starts
      | _ => exact .stays nofun nofun

theorem Sound.standing?_act (sound : s.Sound) (id : ConnectionId) (act : Act) {other : ConnectionId}
    (apart : other ≠ id) : (s.act id act).1.standing? other = s.standing? other := by
  rw [standing?_eq, standing?_eq, (sound.act id act).1.others other apart]

theorem Sound.standing?_hear (sound : s.Sound) (news : News) (id : ConnectionId) :
    (s.hear news).standing? id = s.standing? id := by
  rw [standing?, (sound.hear news).outboxes, Option.map_map]
  exact congrArg (Option.map · _) (funext fun o => congrArg Prod.snd (mark_offer o _))

def live (s : Service) : List ConnectionId :=
  (s.outboxes.values.filter Outbox.owned).map Outbox.connection

theorem Sound.mem_live (sound : s.Sound) : id ∈ s.live ↔ s.standing? id = some true := by
  unfold standing? live
  simp only [Option.map_eq_some_iff, List.mem_map, List.mem_filter, Table.mem_values_iff,
    sound.outbox?_eq_some_iff]
  constructor
  · rintro ⟨outbox, ⟨placed, owned⟩, owner⟩
    exact ⟨outbox, ⟨owner, placed⟩, owned⟩
  · rintro ⟨outbox, ⟨owner, placed⟩, owned⟩
    exact ⟨outbox, ⟨placed, owned⟩, owner⟩

theorem Sound.nodup_live (sound : s.Sound) : s.live.Nodup := by
  have connections : (s.outboxes.values.map Outbox.connection).Nodup := by
    unfold Table.values
    rw [List.map_map]
    refine List.Nodup.map_on ?_ (s.outboxes.distinct.of_map _)
    rintro ⟨n, outbox⟩ mem ⟨n', outbox'⟩ mem' same
    have placed := (s.outboxes.mem_iff_get? n outbox).mp mem
    have placed' := (s.outboxes.mem_iff_get? n' outbox').mp mem'
    obtain rfl := sound.single n n' outbox outbox' placed placed' same
    rw [placed] at placed'
    cases placed'
    rfl
  exact connections.sublist (List.filter_sublist.map Outbox.connection)

theorem Sound.mem_connections (sound : s.Sound) :
    id ∈ s.registry.connections.keys ↔ id ∈ s.live := by
  rw [sound.mem_live, Table.mem_keys_iff]
  constructor
  · intro known
    obtain ⟨entry, known⟩ := Option.isSome_iff_exists.mp known
    obtain ⟨-, outbox, placed, owner, owned⟩ :=
      (sound.registered id _).mp (Registry.handle?_of_get? known)
    have found := sound.outbox?_eq_some_iff.mpr ⟨owner, _, placed⟩
    rw [standing?, found, Option.map_some, owned]
  · intro lives
    obtain ⟨outbox, found, owned⟩ := Option.map_eq_some_iff.mp lives
    obtain ⟨handle, known⟩ := sound.registered_of_owned found owned
    obtain ⟨entry, known, -⟩ := Option.map_eq_some_iff.mp known
    rw [known]
    rfl

theorem Sound.mem_live_of_listed (sound : s.Sound) {topic : Topic}
    (listed : id ∈ (s.registry.subscribers topic).map Handle.connection) : id ∈ s.live := by
  obtain ⟨relation, agrees⟩ := sound.agrees
  have pair := ((agrees.subscribers topic).2 id).mp listed
  obtain ⟨entry, known⟩ := (agrees.registered id).mp (agrees.known id topic pair)
  rw [← sound.mem_connections, Table.mem_keys_iff, known]
  rfl

theorem Sound.connectionCount_eq (sound : s.Sound) : s.registry.connectionCount = s.live.length := by
  have same : s.registry.connections.keys.Perm s.live :=
    (List.perm_ext_iff_of_nodup s.registry.connections.distinct sound.nodup_live).mpr
      fun _ => sound.mem_connections
  rw [← same.length_eq]
  exact (List.length_map _).symm

theorem Sound.topicCount_of_vacant (sound : s.Sound) (vacant : s.live = []) :
    s.registry.topicCount = 0 := by
  obtain ⟨relation, agrees⟩ := sound.agrees
  have nobody : relation.ids = ∅ := by
    rw [← Finset.card_eq_zero, ← agrees.connectionCount, sound.connectionCount_eq, vacant]
    rfl
  have nothing : relation.pairs = ∅ := by
    apply Finset.eq_empty_of_forall_notMem
    rintro ⟨id, topic⟩ pair
    have known := agrees.known id topic pair
    rw [nobody] at known
    exact absurd known (Finset.notMem_empty id)
  rw [agrees.topicCount, nothing]
  rfl

structure Gone (s : Service) (id : ConnectionId) : Prop where
  ended : s.standing? id = some false
  unlisted : ∀ topic, id ∉ (s.registry.subscribers topic).map Handle.connection
  unreached : ∀ news, (s.hear news).outbox? id = s.outbox? id
  settled : ∀ number, s.number? id = some number → s.dropSession number = (s, 0)
  closed : ∀ reason, s.act id (.close reason) = (s, .absent)
  dropped : s.act id .drop = (s, .absent)

theorem Sound.gone (sound : s.Sound) (ended : s.standing? id = some false) : s.Gone id := by
  obtain ⟨outbox, found, disowned⟩ := Option.map_eq_some_iff.mp ended
  have session {number : Nat} (own : s.number? id = some number) : s.session? number = none := by
    rw [outbox?, own, Option.bind_some] at found
    rw [session?, found]
    simp [disowned]
  constructor
  case ended => exact ended
  case unlisted =>
    intro topic listed
    have lives := sound.mem_live.mp (sound.mem_live_of_listed listed)
    rw [ended] at lives
    cases lives
  case unreached =>
    intro news
    rw [(sound.hear news).outboxes, found, Option.map_some, Outbox.offer_disowned disowned]
  case settled =>
    intro number own
    unfold dropSession
    rw [session own]
  all_goals
    obtain ⟨number, own, -⟩ := Option.bind_eq_some_iff.mp found
    intros
    unfold Service.act
    rw [own]
    unfold Service.actAt Service.asSession
    dsimp only
    rw [session own]
    rfl

structure Leaves (s : Service) (id : ConnectionId) (done : Service × Effect) : Prop where
  distinct : (s.registry.topicsOf id).Nodup
  answer : done.2 = .ended (s.registry.topicsOf id).length
  registry : done.1.registry = (s.registry.unsubscribeAll id).1
  topics : ∀ other,
    done.1.registry.topicsOf other = if other = id then [] else s.registry.topicsOf other
  gone : done.1.Gone id

theorem Sound.registry_ends (sound : s.Sound) (lives : id ∈ s.live) {act : Act} (ends : act.Ends) :
    (s.act id act).1.registry = (s.registry.unsubscribeAll id).1 := by
  obtain ⟨outbox, found, owned⟩ := Option.map_eq_some_iff.mp (sound.mem_live.mp lives)
  obtain ⟨number, seated⟩ := sound.seat?_eq_some_iff.mp (seat?_of_outbox found)
  have own : s.number? id = some number :=
    sound.number?_eq_some_iff.mpr ⟨outbox, seated.placed, seated.owner⟩
  have session : (s.session? number).isSome = true := by
    rw [seated.session?_eq, if_pos owned]
    rfl
  have dropped : (s.dropSession number).1.registry = (s.registry.unsubscribeAll id).1 := by
    rw [seated.dropSession owned]
    rfl
  have goes (done : Service × Effect) : (s.asSession number done).1.registry = done.1.registry :=
    congrArg (fun done : Service × Effect => done.1.registry) (if_pos session)
  unfold Service.act
  rw [own]
  cases act with
  | close reason => exact (goes _).trans dropped
  | drop => exact (goes _).trans dropped
  | _ => exact ends.elim

theorem Sound.leaves (sound : s.Sound) (lives : id ∈ s.live) {act : Act} (ends : act.Ends) :
    Leaves s id (s.act id act) := by
  have stood := sound.mem_live.mp lives
  have turns := sound.turns_act id act
  have registry := sound.registry_ends lives ends
  obtain ⟨reseats, effect⟩ := sound.act id act
  obtain ⟨outbox, found, owned⟩ := Option.map_eq_some_iff.mp stood
  obtain ⟨relation, agrees⟩ := sound.agrees
  have answer : (s.act id act).2 = .ended (s.registry.wants id).length := by
    have owns (done : Seat × Effect) : (Seat.asOwner ⟨s.registry.wants id, outbox⟩ done).2 = done.2 :=
      congrArg Prod.snd (if_pos owned)
    rw [effect, seat?_of_outbox found]
    cases act with
    | close reason => exact owns _
    | drop => exact owns _
    | _ => exact ends.elim
  have gone : (s.act id act).1.standing? id = some false := by
    rw [answer] at turns
    exact turns.of_ended
  constructor
  case distinct => exact (List.mergeSort_perm _ _).nodup_iff.mpr (agrees.nodup_wants id)
  case answer => rw [answer, Registry.topicsOf_eq, List.length_mergeSort]
  case registry => exact registry
  case topics =>
    intro other
    rw [registry, Registry.topicsOf_eq, Registry.topicsOf_eq, Registry.wants_unsubscribeAll]
    split
    · exact List.mergeSort_nil
    · rfl
  case gone => exact reseats.sound.gone gone

end Service

end CandleFeed
