import CandleFeed.Proofs.Service.Refinement
import Mathlib.Data.List.Nodup

namespace CandleFeed

def Service.framesAt (number : Nat) (offers : List (Handle × Frame)) : List Frame :=
  (offers.filter fun offer => offer.1.outbox = number).map Prod.snd

def Service.offered (s : Service) (news : News) (id : ConnectionId) : List Frame :=
  ((s.offers news).filter fun offer => offer.1.connection = id).map Prod.snd

namespace Service

variable {s : Service} {id : ConnectionId} {number : Nat}

theorem map_filter_const_of_nodup {α β γ : Type} [DecidableEq β] {f : α → β} {xs : List α}
    (distinct : (xs.map f).Nodup) (b : β) (c : γ) :
    (xs.filter fun x => f x = b).map (fun _ => c) = if b ∈ xs.map f then [c] else [] := by
  have times : (xs.filter fun x => f x = b).length = if b ∈ xs.map f then 1 else 0 := by
    have counted := distinct.count (a := b)
    rw [List.count_eq_countP, List.countP_map, List.countP_eq_length_filter] at counted
    exact counted
  rw [List.map_const', times]
  split <;> rfl

theorem get?_offers (outboxes : Table Nat (Outbox Frame)) (offers : List (Handle × Frame))
    (number : Nat) :
    (offers.foldl offerTo outboxes).get? number =
      (outboxes.get? number).map fun o => o.offer (framesAt number offers) := by
  induction offers generalizing outboxes with
  | nil => exact Option.map_id'.symm
  | cons offer rest ih =>
      rw [List.foldl_cons, ih, offerTo, Table.get?_modify]
      unfold framesAt
      by_cases here : offer.1.outbox = number
      · rw [List.filter_cons_of_pos (by simpa using here), if_pos here.symm, here, Option.map_map]
        rfl
      · rw [List.filter_cons_of_neg (by simpa using here), if_neg (Ne.symm here)]

theorem mark_offer (o : Outbox Frame) (frames : List Frame) : mark (o.offer frames) = mark o := by
  induction frames generalizing o with
  | nil => rfl
  | cons frame rest ih => exact (ih (o.enqueue frame).1).trans (mark_enqueue o frame)

theorem size_offers (outboxes : Table Nat (Outbox Frame)) (offers : List (Handle × Frame)) :
    (offers.foldl offerTo outboxes).size = outboxes.size := by
  induction offers generalizing outboxes with
  | nil => rfl
  | cons offer rest ih => rw [List.foldl_cons, ih, offerTo, Table.size_modify]

theorem Sound.of_offers {t : Service} {offers : List (Handle × Frame)} (sound : s.Sound)
    (coherent : t.store.Coherent) (registry : t.registry = s.registry)
    (outboxes : t.outboxes = offers.foldl offerTo s.outboxes) : t.Sound := by
  obtain ⟨relation, agrees⟩ := sound.agrees
  refine sound.of_marks coherent ⟨relation, registry ▸ agrees⟩ (registry ▸ sound.current) ?_ ?_ ?_
  · intro id
    rw [registry]
  · rw [outboxes]
    exact size_offers s.outboxes offers
  · intro n
    rw [outboxes, get?_offers, Option.map_map]
    exact congrArg (Option.map · _) (funext fun o => mark_offer o _)

theorem Sound.offersOf_eq (sound : s.Sound) (push : Push) (id : ConnectionId) :
    ((offersOf s.registry push).filter fun offer => offer.1.connection = id).map Prod.snd =
      if push.topic ∈ s.registry.wants id then [push.frame] else [] := by
  obtain ⟨relation, agrees⟩ := sound.agrees
  obtain ⟨distinct, mem_iff⟩ := agrees.subscribers push.topic
  have frames : ((offersOf s.registry push).filter fun offer => offer.1.connection = id).map Prod.snd =
      ((s.registry.subscribers push.topic).filter fun handle => handle.connection = id).map
        fun _ => push.frame := by
    unfold offersOf
    rw [List.filter_map, List.map_map]
    rfl
  -- the connections of the subscribers are distinct, so that a session is among them once or never
  rw [frames, map_filter_const_of_nodup distinct]
  simp only [mem_iff, agrees.mem_wants]

theorem Sound.wanted_eq (sound : s.Sound) (pushes : List Push) (id : ConnectionId) :
    ((pushes.flatMap (offersOf s.registry)).filter fun offer => offer.1.connection = id).map
        Prod.snd = Seat.wanted (s.registry.wants id) pushes := by
  unfold Seat.wanted
  induction pushes with
  | nil => rfl
  | cons push rest ih =>
      rw [List.flatMap_cons, List.filter_append, List.map_append, sound.offersOf_eq, ih]
      by_cases wanted : push.topic ∈ s.registry.wants id
      · rw [if_pos wanted, List.filter_cons_of_pos (by simpa using wanted)]
        rfl
      · rw [if_neg wanted, List.filter_cons_of_neg (by simpa using wanted)]
        rfl

theorem Sound.offered_eq (sound : s.Sound) (news : News) (id : ConnectionId) :
    s.offered news id =
      Seat.wanted (s.registry.wants id) (s.toIngester.pushes s.publicTrades news) :=
  sound.wanted_eq _ id

theorem Sound.framesAt_eq (sound : s.Sound) (pushes : List Push) (found : s.number? id = some number) :
    framesAt number (pushes.flatMap (offersOf s.registry)) =
      Seat.wanted (s.registry.wants id) pushes := by
  rw [← sound.wanted_eq]
  unfold framesAt
  congr 1
  apply List.filter_congr
  rintro ⟨handle, frame⟩ mem
  obtain ⟨relation, agrees⟩ := sound.agrees
  obtain ⟨push, -, offered⟩ := List.mem_flatMap.mp mem
  obtain ⟨own, subscriber, same⟩ := List.mem_map.mp offered
  cases same
  obtain ⟨key, held⟩ := (Table.mem_values_iff _ _).mp subscriber
  obtain ⟨owner, outbox, placed, owner', -⟩ :=
    (sound.registered key handle).mp (sound.current push.topic key handle held)
  obtain ⟨mine, placed', owner''⟩ := sound.number?_eq_some_iff.mp found
  -- the handle of a subscriber has the outbox of its connection, and a connection has one only
  apply decide_eq_decide.mpr
  constructor
  · rintro rfl
    rw [placed] at placed'
    cases placed'
    exact owner.trans (owner'.symm.trans owner'')
  · rintro rfl
    exact sound.single _ _ _ _ placed placed' (owner'.trans (owner.symm.trans owner''.symm))

theorem Sound.outbox?_offers {t : Service} (sound : s.Sound) (sound' : t.Sound) {pushes : List Push}
    (outboxes : t.outboxes = (pushes.flatMap (offersOf s.registry)).foldl offerTo s.outboxes)
    (id : ConnectionId) :
    t.outbox? id = (s.outbox? id).map fun o => o.offer (Seat.wanted (s.registry.wants id) pushes) := by
  have lookup (n : Nat) := get?_offers s.outboxes (pushes.flatMap (offersOf s.registry)) n
  rw [← outboxes] at lookup
  have numbers := sound.number?_of_connections sound' fun n => by
    rw [lookup, Option.map_map]
    exact congrArg (Option.map · _) (funext fun o => congrArg Prod.fst (mark_offer o _))
  unfold outbox?
  rw [numbers]
  cases found : s.number? id with
  | none => rfl
  | some n => rw [Option.bind_some, Option.bind_some, lookup, sound.framesAt_eq pushes found]

theorem hear_store (i : Ingester) (news : News) :
    (i.hear news).store = i.store ∨
      ∃ command, (i.hear news).store = (i.toEngine.step command).store ∧
        ∀ tick nanos, command = .ingest tick nanos →
          ∃ event, news = .event event nanos ∧ event.toTick = .ok tick := by
  cases news with
  | event event nanos =>
      change (i.ingestEvent event nanos).1.store = _ ∨
        ∃ command, (i.ingestEvent event nanos).1.store = _ ∧ _
      have kept := i.store_screen event
      rcases screened : i.screen event with ⟨after, cause | _ | tick⟩
      · rw [screened] at kept
        rw [Ingester.ingestEvent_rejected screened]
        exact .inl kept
      · rw [screened] at kept
        rw [Ingester.ingestEvent_duplicate screened]
        exact .inl kept
      · obtain ⟨read, window, rfl⟩ := Ingester.screen_admitted screened
        rw [Ingester.ingestEvent_admitted screened]
        refine .inr ⟨.ingest tick nanos, rfl, ?_⟩
        rintro _ _ ⟨⟩
        exact ⟨event, rfl, read⟩
  | complete key => exact .inr ⟨.complete key, rfl, fun _ _ other => nomatch other⟩
  | publish topic payload => exact .inl rfl
  | advance span wall => exact .inr ⟨.advance span wall, rfl, fun _ _ other => nomatch other⟩

theorem coherent_hear {i : Ingester} (coherent : i.store.Coherent) (news : News) :
    (i.hear news).store.Coherent := by
  rcases hear_store i news with same | ⟨command, same, -⟩
  · exact same ▸ coherent
  · exact same ▸ (Engine.step_spec coherent command).coherent

/-- What news does to a service: the ingester goes on, and each seat is offered its frames. -/
structure Hears (s : Service) (news : News) (t : Service) : Prop where
  sound : t.Sound
  seats : ∀ id, t.seat? id =
    (s.seat? id).map fun seat => seat.hear (s.toIngester.pushes s.publicTrades news)
  outboxes : ∀ id, t.outbox? id = (s.outbox? id).map fun o => o.offer (s.offered news id)
  ingester : ∃ m, t.toIngester = (s.toIngester.hear news).counting m
  publicTrades : t.publicTrades = s.publicTrades
  registry : t.registry = s.registry

theorem Sound.hear (sound : s.Sound) (news : News) : Hears s news (s.hear news) := by
  obtain ⟨m, heard⟩ := s.hear_eq news
  have outboxes : (s.hear news).outboxes = (s.offers news).foldl offerTo s.outboxes := by
    rw [heard]
    rfl
  have registry : (s.hear news).registry = s.registry := by
    rw [heard]
    rfl
  have coherent : (s.hear news).store.Coherent := by
    rw [heard]
    exact coherent_hear sound.coherent news
  have sound' := sound.of_offers coherent registry outboxes
  have offered := sound.outbox?_offers sound' outboxes
  refine ⟨sound', ?_, ?_, ⟨m, ?_⟩, ?_, registry⟩
  · intro id
    unfold seat?
    rw [offered, registry, Option.map_map, Option.map_map]
    rfl
  · intro id
    rw [offered, sound.offered_eq]
  · rw [heard]
    rfl
  · rw [heard]
    rfl

theorem Sound.step (sound : s.Sound) (command : Command) : (s.step command).Sound := by
  cases command with
  | act id act => exact (sound.act id act).1.sound
  | news news => exact (sound.hear news).sound

theorem Sound.run (sound : s.Sound) (commands : List Command) : (s.run commands).Sound := by
  induction commands generalizing s with
  | nil => exact sound
  | cons command rest ih => exact ih (sound.step command)

theorem sound_run (settings : Settings) (now : Nat) (wall : Instant) (ids : Nat → Uuid)
    (commands : List Command) :
    ((Gateway.create settings (.empty now wall ids)).service.run commands).Sound :=
  (sound_create settings now wall ids).run commands

end Service

end CandleFeed
