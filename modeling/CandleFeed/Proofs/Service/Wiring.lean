import CandleFeed.Proofs.Service.News

/-!
# Outboxes and registrations

A registry refers to outboxes that others make, fill, empty and close. Whatever they do, and in
whatever order, a subscriber is listed with the outbox that it registered, and different subscribers
have different outboxes, as long as no connection registers twice.
-/

namespace CandleFeed.Service

variable {s : Service}

/-- Every registered connection has an outbox, and every topic has the handles that its subscribers
registered. -/
structure Wired (s : Service) : Prop where
  agrees : ∃ relation, s.registry.Agrees relation
  current : s.registry.Current
  numbered : ∀ n o, s.outboxes.get? n = some o → n < s.outboxes.size
  placed : ∀ id handle, s.registry.handle? id = some handle →
    handle.connection = id ∧ ∃ o, s.outboxes.get? handle.outbox = some o ∧ o.connection = id

theorem Sound.wired (sound : s.Sound) : s.Wired where
  agrees := sound.agrees
  current := sound.current
  numbered := sound.numbered
  placed id handle known := by
    obtain ⟨owner, o, found, connection, -⟩ := (sound.registered id handle).mp known
    exact ⟨owner, o, found, connection⟩

theorem wired_create (ingester : Ingester) (maxSubscriptions : Nat) (publicTrades : Bool) :
    (create ingester maxSubscriptions publicTrades).Wired where
  agrees := ⟨_, Registry.agrees_empty maxSubscriptions⟩
  current _ _ _ found := by cases found
  numbered _ _ found := by cases found
  placed _ _ known := by cases known

variable {topic : Topic}

theorem Wired.mem_subscribers_iff (wired : s.Wired) {handle : Handle} :
    handle ∈ s.registry.subscribers topic ↔
      s.registry.isSubscribed handle.connection topic = true ∧
        s.registry.handle? handle.connection = some handle := by
  obtain ⟨relation, agrees⟩ := wired.agrees
  rw [Registry.subscribers, Table.mem_values_iff, agrees.isSubscribed, agrees.subscribed]
  constructor
  · rintro ⟨id, found⟩
    obtain rfl := agrees.named id topic handle found
    exact ⟨⟨handle, found⟩, wired.current topic _ handle found⟩
  · rintro ⟨⟨own, found⟩, known⟩
    have same := wired.current topic _ own found
    rw [known] at same
    cases same
    exact ⟨_, found⟩

theorem Wired.nodup_outboxes (wired : s.Wired) (topic : Topic) :
    ((s.registry.subscribers topic).map Handle.outbox).Nodup := by
  obtain ⟨relation, agrees⟩ := wired.agrees
  refine List.Nodup.map_on ?_ (List.Nodup.of_map _ (agrees.subscribers topic).1)
  intro first mem second mem' same
  obtain ⟨-, known⟩ := wired.mem_subscribers_iff.mp mem
  obtain ⟨-, known'⟩ := wired.mem_subscribers_iff.mp mem'
  obtain ⟨-, o, found, connection⟩ := wired.placed _ first known
  obtain ⟨-, o', found', connection'⟩ := wired.placed _ second known'
  rw [same, found'] at found
  cases found
  rw [← connection, connection'] at known
  exact Option.some.inj (known.symm.trans known')

inductive Operation
  | make (connection : ConnectionId) (capacity : Nat) (policy : DropPolicy)
  | registry (command : Registry.Command)
  | outbox (number : Nat) (command : Outbox.Command Frame)
  | abandon (number : Nat)
  | publish (topic : Topic) (payload : Payload)

def Operation.registers? : Operation → Option ConnectionId
  | .registry (.register handle) => some handle.connection
  | _ => none

/-- A handle that is registered leads to an outbox of its connection. -/
def permits (s : Service) : Registry.Command → Bool
  | .register handle =>
      (s.outboxes.get? handle.outbox).any fun o => o.connection = handle.connection
  | _ => true

def operate (s : Service) : Operation → Service
  | .make id capacity policy => s.setOutbox s.outboxes.size (.create id capacity policy)
  | .registry command =>
      if s.permits command then { s with registry := (s.registry.step command).1 } else s
  | .outbox number command => s.changeOutbox number fun o => (o.step command).1
  | .abandon number => s.changeOutbox number Outbox.abandon
  | .publish topic payload => (s.publishOn topic payload).1

def operateAll (s : Service) (operations : List Operation) : Service :=
  operations.foldl operate s

theorem Wired.of_connections {t : Service} (wired : s.Wired) (registry : t.registry = s.registry)
    (size : t.outboxes.size = s.outboxes.size)
    (same : ∀ n, (t.outboxes.get? n).map Outbox.connection =
      (s.outboxes.get? n).map Outbox.connection) : t.Wired := by
  constructor
  case agrees => exact registry ▸ wired.agrees
  case current => exact registry ▸ wired.current
  case numbered =>
    intro n o found
    have same := same n
    rw [found] at same
    obtain ⟨old, found, -⟩ := Option.map_eq_some_iff.mp same.symm
    rw [size]
    exact wired.numbered n old found
  case placed =>
    intro id handle known
    rw [registry] at known
    obtain ⟨owner, o, found, connection⟩ := wired.placed id handle known
    have same := same handle.outbox
    rw [found] at same
    obtain ⟨new, found', connection'⟩ := Option.map_eq_some_iff.mp same
    exact ⟨owner, new, found', connection'.trans connection⟩

theorem Wired.changeOutbox (wired : s.Wired) (number : Nat) {change : Outbox Frame → Outbox Frame}
    (same : ∀ o, (change o).connection = o.connection) : (s.changeOutbox number change).Wired := by
  refine wired.of_connections (t := s.changeOutbox number change) rfl (Table.size_modify _ _ _) ?_
  intro n
  unfold Service.changeOutbox
  dsimp only
  rw [Table.get?_modify]
  split
  · rename_i here
    rw [here, Option.map_map]
    exact congrArg (Option.map · _) (funext same)
  · rfl

theorem connection_step (o : Outbox Frame) (command : Outbox.Command Frame) :
    (o.step command).1.connection = o.connection := by
  have asOwner {done : Outbox Frame × Outbox.Outcome Frame}
      (same : done.1.connection = o.connection) : (o.asOwner done).1.connection = o.connection := by
    unfold Outbox.asOwner
    split
    · exact same
    · rfl
  cases command with
  | enqueue frame => exact congrArg Prod.fst (mark_enqueue o frame)
  | send frame => exact asOwner (congrArg Prod.fst (mark_send o frame))
  | receive => exact congrArg Prod.fst (mark_receive o)
  | requestClose => exact asOwner rfl
  | disown => exact asOwner rfl

theorem Wired.publish (wired : s.Wired) (topic : Topic) (payload : Payload) :
    (s.publishOn topic payload).1.Wired := by
  obtain ⟨m, sent⟩ := publishOn_eq s topic payload
  rw [sent]
  refine wired.of_connections (t := s.sending _ m) rfl (size_offers _ _) ?_
  intro n
  unfold sending
  dsimp only
  rw [get?_offers, Option.map_map]
  exact congrArg (Option.map · _) (funext fun o => congrArg Prod.fst (mark_offer o _))

theorem Wired.make (wired : s.Wired) (id : ConnectionId) (capacity : Nat) (policy : DropPolicy) :
    (s.operate (.make id capacity policy)).Wired := by
  have new := Table.get?_size_of_numbered wired.numbered
  have lookup (n : Nat) : (s.operate (.make id capacity policy)).outboxes.get? n =
      if n = s.outboxes.size then some (.create id capacity policy) else s.outboxes.get? n :=
    Table.get?_insert _ _ _ _
  constructor
  case agrees => exact wired.agrees
  case current => exact wired.current
  case numbered => exact fun n o => Table.numbered_insert_size wired.numbered _
  case placed =>
    intro own handle known
    obtain ⟨owner, o, found, connection⟩ := wired.placed own handle known
    refine ⟨owner, o, ?_, connection⟩
    rw [lookup, if_neg, found]
    rintro same
    rw [same, new] at found
    cases found

theorem handle?_of_step (r : Registry) (command : Registry.Command) {id : ConnectionId}
    {handle : Handle} (known : (r.step command).1.handle? id = some handle) :
    r.handle? id = some handle ∨ command = .register handle ∧ handle.connection = id := by
  cases command with
  | register other =>
      have known : (r.register other).handle? id = some handle := known
      rw [Registry.handle?_register] at known
      split at known
      · rename_i here
        cases known
        exact .inr ⟨rfl, here.symm⟩
      · exact .inl known
  | subscribe own topic => exact .inl ((Registry.handle?_subscribe r own topic id).symm.trans known)
  | unsubscribe own topic =>
      exact .inl ((Registry.handle?_unsubscribe r own topic id).symm.trans known)
  | unsubscribeAll own =>
      have known : (r.unsubscribeAll own).1.handle? id = some handle := known
      rw [Registry.handle?_unsubscribeAll] at known
      split at known
      · cases known
      · exact .inl known

theorem Wired.registry (wired : s.Wired) {command : Registry.Command}
    (permitted : s.permits command = true)
    (new : ∀ handle, command = .register handle → s.registry.handle? handle.connection = none) :
    Wired { s with registry := (s.registry.step command).1 } := by
  obtain ⟨relation, agrees⟩ := wired.agrees
  constructor
  case agrees => exact ⟨_, (Registry.simulates_step agrees command).1⟩
  case current => exact wired.current.step agrees command new
  case numbered => exact wired.numbered
  case placed =>
    intro id handle known
    rcases handle?_of_step s.registry command known with old | ⟨rfl, owner⟩
    · exact wired.placed id handle old
    · obtain ⟨o, found, connection⟩ := (Option.any_eq_true _ _).mp permitted
      exact ⟨owner, o, found, (of_decide_eq_true connection).trans owner⟩

theorem Wired.operate (wired : s.Wired) (operation : Operation)
    (new : ∀ id, operation.registers? = some id → s.registry.handle? id = none) :
    (s.operate operation).Wired := by
  cases operation with
  | make id capacity policy => exact wired.make id capacity policy
  | registry command =>
      unfold Service.operate
      dsimp only
      split
      · rename_i permitted
        apply wired.registry permitted
        rintro handle rfl
        exact new handle.connection rfl
      · exact wired
  | outbox number command => exact wired.changeOutbox number fun o => connection_step o command
  | abandon number => exact wired.changeOutbox number fun _ => rfl
  | publish topic payload => exact wired.publish topic payload

theorem handle?_of_operate (operation : Operation) {id : ConnectionId}
    (unknown : s.registry.handle? id = none) (other : operation.registers? ≠ some id) :
    (s.operate operation).registry.handle? id = none := by
  cases operation with
  | registry command =>
      unfold Service.operate
      dsimp only
      split
      · cases known : (s.registry.step command).1.handle? id with
        | none => rfl
        | some handle =>
            rcases handle?_of_step s.registry command known with old | ⟨rfl, rfl⟩
            · cases old.symm.trans unknown
            · exact absurd rfl other
      · exact unknown
  | publish topic payload =>
      obtain ⟨m, sent⟩ := publishOn_eq s topic payload
      change (s.publishOn topic payload).1.registry.handle? id = none
      rw [sent]
      exact unknown
  | _ => exact unknown

def registered (operations : List Operation) : List ConnectionId :=
  operations.filterMap Operation.registers?

theorem Wired.operateAll (wired : s.Wired) {operations : List Operation}
    (once : (registered operations).Nodup)
    (new : ∀ id ∈ registered operations, s.registry.handle? id = none) :
    (s.operateAll operations).Wired := by
  induction operations generalizing s with
  | nil => exact wired
  | cons operation rest ih =>
      have step := wired.operate operation
      unfold registered at once new
      rw [List.filterMap_cons] at once new
      cases registers : operation.registers? with
      | none =>
          rw [registers] at once new
          have wired := step fun id same => by cases registers.symm.trans same
          refine ih wired once ?_
          intro id mem
          apply handle?_of_operate operation (new id mem)
          rw [registers]
          exact nofun
      | some own =>
          rw [registers] at once new
          obtain ⟨later, once⟩ := List.nodup_cons.mp once
          have wired := step fun id same => by
            obtain rfl := Option.some.inj (registers.symm.trans same)
            exact new own List.mem_cons_self
          refine ih wired once ?_
          intro id mem
          apply handle?_of_operate operation (new id (List.mem_cons_of_mem _ mem))
          rw [registers]
          rintro same
          obtain rfl := Option.some.inj same
          exact later mem

end CandleFeed.Service
