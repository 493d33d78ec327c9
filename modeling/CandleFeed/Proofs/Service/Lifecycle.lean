import CandleFeed.Proofs.Service.Counters
import CandleFeed.Proofs.Service.Standing

namespace CandleFeed

structure Ending where
  id : ConnectionId
  reason : Option CloseReason

def Act.reason : Act → Option CloseReason
  | .close reason => some reason
  | _ => none

namespace Effect

def starts (id : ConnectionId) : Effect → List ConnectionId
  | .started => [id]
  | _ => []

def endings (id : ConnectionId) (act : Act) : Effect → List Ending
  | .ended _ => [⟨id, act.reason⟩]
  | _ => []

variable {effect : Effect} {id : ConnectionId} {act : Act}

theorem starts_eq_nil (other : effect ≠ .started) : effect.starts id = [] := by
  cases effect with
  | started => exact absurd rfl other
  | _ => rfl

theorem endings_eq_nil (other : ∀ topics, effect ≠ .ended topics) : effect.endings id act = [] := by
  cases effect with
  | ended topics => exact absurd rfl (other topics)
  | _ => rfl

end Effect

def Presence.of (started : List ConnectionId) (ended : List Ending) : Presence Nat where
  opened := started.length
  closed := ended.length
  idle := ended.countP fun ending => ending.reason = some .idleTimeout
  slow := ended.countP fun ending => ending.reason = some .backpressure

theorem Presence.toNat_map {started : List ConnectionId} {ended : List Ending}
    (few : started.length < UInt64.size) (ended_le : ended.length ≤ started.length) :
    ((Presence.of started ended).map UInt64.ofNat).map UInt64.toNat = .of started ended := by
  have within (test : Ending → Bool) : ended.countP test < UInt64.size :=
    (List.countP_le_length.trans ended_le).trans_lt few
  have closed := ended_le.trans_lt few
  simp_all [Presence.map, Presence.of, Nat.mod_eq_of_lt]

theorem Metrics.presence_afterAct {m : Metrics} {started : List ConnectionId} {ended : List Ending}
    (counted : m.presence = (Presence.of started ended).map .ofNat) (id : ConnectionId) (act : Act)
    (effect : Effect) :
    (m.afterAct act effect).presence =
      (Presence.of (started ++ effect.starts id) (ended ++ effect.endings id act)).map .ofNat := by
  simp only [presence, Presence.map, Presence.of, Presence.mk.injEq] at counted ⊢
  cases effect with
  | started => cases act <;> simp [afterAct, connectionOpened, counted, Effect.starts, Effect.endings]
  | ended topics =>
      cases act with
      | close reason =>
          cases reason <;>
            simp [afterAct, Service.countClose, connectionClosed, idleTimeout, slowDisconnect, counted,
              Effect.starts, Effect.endings, Act.reason]
      | _ => simp [afterAct, connectionClosed, counted, Effect.starts, Effect.endings, Act.reason]
  | answered result =>
      cases result <;> cases act <;>
        simp [afterAct, protocolError, counted, Effect.starts, Effect.endings]
  | _ => cases act <;> simp [afterAct, counted, Effect.starts, Effect.endings]

namespace Service

variable {s : Service} {started : List ConnectionId} {ended : List Ending}

/-! ## What a run starts and ends -/

def startsBy (s : Service) : Command → List ConnectionId
  | .act id act => (s.act id act).2.starts id
  | .news _ => []

def starts (s : Service) : List Command → List ConnectionId
  | [] => []
  | command :: rest => s.startsBy command ++ (s.step command).starts rest

def endingsBy (s : Service) : Command → List Ending
  | .act id act => (s.act id act).2.endings id act
  | .news _ => []

def endings (s : Service) : List Command → List Ending
  | [] => []
  | command :: rest => s.endingsBy command ++ (s.step command).endings rest

/-! ## The roll -/

structure Roll (s : Service) (started : List ConnectionId) (ended : List Ending) : Prop where
  sound : s.Sound
  counted : s.metrics.presence = (Presence.of started ended).map .ofNat
  started_nodup : started.Nodup
  mem_started : ∀ id, id ∈ started ↔ s.standing? id ≠ none
  ended_nodup : (ended.map Ending.id).Nodup
  mem_ended : ∀ id, id ∈ ended.map Ending.id ↔ s.standing? id = some false

theorem roll_create (settings : Settings) (now : Nat) (wall : Instant) (ids : Nat → Uuid) :
    Roll (Gateway.create settings (.empty now wall ids)).service [] [] where
  sound := sound_create settings now wall ids
  counted := rfl
  started_nodup := List.nodup_nil
  mem_started _ := ⟨fun mem => absurd mem List.not_mem_nil, fun stands => absurd rfl stands⟩
  ended_nodup := List.nodup_nil
  mem_ended _ := ⟨fun mem => absurd mem List.not_mem_nil, nofun⟩

theorem Roll.of_same {t : Service} (roll : Roll s started ended) (sound : t.Sound)
    (presence : t.metrics.presence = s.metrics.presence)
    (standing : ∀ id, t.standing? id = s.standing? id) : Roll t started ended where
  sound := sound
  counted := presence.trans roll.counted
  started_nodup := roll.started_nodup
  mem_started id := standing id ▸ roll.mem_started id
  ended_nodup := roll.ended_nodup
  mem_ended id := standing id ▸ roll.mem_ended id

theorem Roll.starts {t : Service} {id : ConnectionId} (roll : Roll s started ended) (sound : t.Sound)
    (counted : t.metrics.presence = (Presence.of (started ++ [id]) ended).map .ofNat)
    (before : s.standing? id = none) (after : t.standing? id = some true)
    (others : ∀ other, other ≠ id → t.standing? other = s.standing? other) :
    Roll t (started ++ [id]) ended := by
  have new : id ∉ started := fun mem => (roll.mem_started id).mp mem before
  constructor
  case sound => exact sound
  case counted => exact counted
  case started_nodup =>
    rw [← List.concat_eq_append]
    exact roll.started_nodup.concat new
  case mem_started =>
    intro other
    rw [List.mem_append, List.mem_singleton, roll.mem_started]
    by_cases own : other = id
    · rw [own, after]
      simp
    · rw [others other own]
      simp [own]
  case ended_nodup => exact roll.ended_nodup
  case mem_ended =>
    intro other
    rw [roll.mem_ended]
    by_cases own : other = id
    · rw [own, before, after]
      simp
    · rw [others other own]

theorem Roll.ends {t : Service} {id : ConnectionId} {reason : Option CloseReason}
    (roll : Roll s started ended) (sound : t.Sound)
    (counted : t.metrics.presence = (Presence.of started (ended ++ [⟨id, reason⟩])).map .ofNat)
    (before : s.standing? id = some true) (after : t.standing? id = some false)
    (others : ∀ other, other ≠ id → t.standing? other = s.standing? other) :
    Roll t started (ended ++ [⟨id, reason⟩]) := by
  have first : id ∉ ended.map Ending.id := by
    rw [roll.mem_ended, before]
    nofun
  have ids : (ended ++ [(⟨id, reason⟩ : Ending)]).map Ending.id = (ended.map Ending.id).concat id := by
    simp
  constructor
  case sound => exact sound
  case counted => exact counted
  case started_nodup => exact roll.started_nodup
  case mem_started =>
    intro other
    rw [roll.mem_started]
    by_cases own : other = id
    · rw [own, before, after]
      simp
    · rw [others other own]
  case ended_nodup =>
    rw [ids]
    exact roll.ended_nodup.concat first
  case mem_ended =>
    intro other
    rw [ids, List.concat_eq_append, List.mem_append, List.mem_singleton, roll.mem_ended]
    by_cases own : other = id
    · rw [own, after]
      simp
    · rw [others other own]
      simp [own]

theorem Roll.act (roll : Roll s started ended) (id : ConnectionId) (act : Act) :
    Roll (s.act id act).1 (started ++ (s.act id act).2.starts id)
      (ended ++ (s.act id act).2.endings id act) := by
  have sound := (roll.sound.act id act).1.sound
  have counted := Metrics.presence_afterAct roll.counted id act (s.act id act).2
  rw [← metrics_act] at counted
  have others (other : ConnectionId) (apart : other ≠ id) := roll.sound.standing?_act id act apart
  have turns := roll.sound.turns_act id act
  generalize before : s.standing? id = standing, (s.act id act).2 = effect,
    after : (s.act id act).1.standing? id = standing' at turns counted ⊢
  cases turns with
  | starts =>
      have nothing : Effect.started.endings id act = [] := rfl
      rw [nothing, List.append_nil] at counted ⊢
      exact roll.starts sound counted before after others
  | ends topics =>
      have nobody : (Effect.ended topics).starts id = [] := rfl
      rw [nobody, List.append_nil] at counted ⊢
      exact roll.ends sound counted before after others
  | stays starts ends =>
      rw [Effect.starts_eq_nil starts, Effect.endings_eq_nil ends, List.append_nil,
        List.append_nil] at counted ⊢
      refine roll.of_same sound (counted.trans roll.counted.symm) ?_
      intro other
      by_cases own : other = id
      · rw [own, after, before]
      · exact others other own

theorem Roll.hear (roll : Roll s started ended) (news : News) : Roll (s.hear news) started ended :=
  roll.of_same (roll.sound.hear news).sound (presence_hear roll.sound.coherent news)
    (roll.sound.standing?_hear news)

theorem Roll.step (roll : Roll s started ended) (command : Command) :
    Roll (s.step command) (started ++ s.startsBy command) (ended ++ s.endingsBy command) := by
  cases command with
  | act id act => exact roll.act id act
  | news news =>
      change Roll (s.hear news) (started ++ []) (ended ++ [])
      rw [List.append_nil, List.append_nil]
      exact roll.hear news

theorem Roll.run (roll : Roll s started ended) (commands : List Command) :
    Roll (s.run commands) (started ++ s.starts commands) (ended ++ s.endings commands) := by
  induction commands generalizing s started ended with
  | nil =>
      rw [Service.starts, endings, List.append_nil, List.append_nil]
      exact roll
  | cons command rest ih =>
      rw [Service.starts, endings, ← List.append_assoc, ← List.append_assoc]
      exact ih (roll.step command)

theorem roll_run (settings : Settings) (now : Nat) (wall : Instant) (ids : Nat → Uuid)
    (commands : List Command) :
    let start := (Gateway.create settings (.empty now wall ids)).service
    Roll (start.run commands) (start.starts commands) (start.endings commands) :=
  (roll_create settings now wall ids).run commands

/-! ## Who was started -/

def Command.Starts (id : ConnectionId) (command : Command) : Prop :=
  ∃ capacity policy, command = .act id (.start capacity policy)

theorem isSome_seat (id : ConnectionId) (limit : Nat) (now : Int) (seat : Option Seat) (act : Act) :
    (Seat.step id limit now seat act).1.isSome = true ↔
      seat.isSome = true ∨ Command.Starts id (.act id act) := by
  unfold Command.Starts
  cases seat with
  | some seat => simp [Seat.step]
  | none => cases act <;> simp [Seat.step]

theorem Sound.isSome_standing?_step (sound : s.Sound) (command : Command) (id : ConnectionId) :
    ((s.step command).standing? id).isSome = true ↔
      (s.standing? id).isSome = true ∨ command.Starts id := by
  cases command with
  | news news =>
      have same : (s.step (.news news)).standing? id = s.standing? id := sound.standing?_hear news id
      rw [same]
      simp [Command.Starts]
  | act own act =>
      change ((s.act own act).1.standing? id).isSome = true ↔ _
      by_cases mine : id = own
      · subst mine
        rw [standing?_eq, standing?_eq, (sound.act id act).1.own, Option.isSome_map, Option.isSome_map]
        exact isSome_seat id _ _ _ act
      · rw [sound.standing?_act own act mine]
        simp [Command.Starts, Ne.symm mine]

theorem Sound.isSome_standing?_run (sound : s.Sound) (commands : List Command) (id : ConnectionId) :
    ((s.run commands).standing? id).isSome = true ↔
      (s.standing? id).isSome = true ∨ ∃ command ∈ commands, command.Starts id := by
  induction commands generalizing s with
  | nil =>
      change (s.standing? id).isSome = true ↔ _
      simp
  | cons command rest ih =>
      change (((s.step command).run rest).standing? id).isSome = true ↔ _
      rw [ih (sound.step command), sound.isSome_standing?_step, or_assoc, List.exists_mem_cons_iff]

theorem mem_starts_iff (settings : Settings) (now : Nat) (wall : Instant) (ids : Nat → Uuid)
    (commands : List Command) (id : ConnectionId) :
    id ∈ (Gateway.create settings (.empty now wall ids)).service.starts commands ↔
      ∃ command ∈ commands, command.Starts id := by
  rw [(roll_run settings now wall ids commands).mem_started, ← Option.isSome_iff_ne_none,
    (sound_create settings now wall ids).isSome_standing?_run]
  exact or_iff_right nofun

/-! ## The accounts -/

theorem Roll.parted (roll : Roll s started ended) :
    started.Perm (ended.map Ending.id ++ s.live) := by
  have apart : (ended.map Ending.id ++ s.live).Nodup := by
    refine roll.ended_nodup.append roll.sound.nodup_live ?_
    intro id gone lives
    rw [roll.mem_ended, roll.sound.mem_live.mp lives] at gone
    cases gone
  refine (List.perm_ext_iff_of_nodup roll.started_nodup apart).mpr ?_
  intro id
  rw [List.mem_append, roll.mem_started, roll.mem_ended, roll.sound.mem_live]
  rcases s.standing? id with _ | _ | _ <;> simp

/-- The sessions are accounted for. -/
structure Attendance (s : Service) (started : List ConnectionId) (ended : List Ending) : Prop where
  counted : s.metrics.presence = (Presence.of started ended).map .ofNat
  once : started.Nodup
  parted : started.Perm (ended.map Ending.id ++ s.live)
  difference : s.metrics.connectionsOpened - s.metrics.connectionsClosed = .ofNat s.live.length
  registered : s.registry.connectionCount = s.live.length
  gone : ∀ ending ∈ ended, s.Gone ending.id
  leaves : ∀ id ∈ s.live, ∀ act : Act, act.Ends → Leaves s id (s.act id act)
  vacant : s.live = [] → s.registry.topicCount = 0

structure Told (m : Metrics) (live : Nat) (started : List ConnectionId) (ended : List Ending) :
    Prop where
  presence : m.presence.map UInt64.toNat = .of started ended
  opened : m.connectionsOpened.toNat = m.connectionsClosed.toNat + live
  active : m.activeConnections.toNat = live

theorem Roll.length_eq (roll : Roll s started ended) :
    started.length = ended.length + s.live.length := by
  rw [roll.parted.length_eq, List.length_append, List.length_map]

theorem Roll.attendance (roll : Roll s started ended) : Attendance s started ended where
  counted := roll.counted
  once := roll.started_nodup
  parted := roll.parted
  difference := by
    have opened : s.metrics.connectionsOpened = .ofNat started.length :=
      congrArg Presence.opened roll.counted
    have closed : s.metrics.connectionsClosed = .ofNat ended.length :=
      congrArg Presence.closed roll.counted
    rw [opened, closed, roll.length_eq, UInt64.ofNat_add, UInt64.add_comm, UInt64.add_sub_cancel]
  registered := roll.sound.connectionCount_eq
  gone ending mem := roll.sound.gone ((roll.mem_ended ending.id).mp (List.mem_map_of_mem mem))
  leaves _ lives _ ends := roll.sound.leaves lives ends
  vacant := roll.sound.topicCount_of_vacant

theorem Roll.told (roll : Roll s started ended) (few : started.length < UInt64.size) :
    Told s.metrics s.live.length started ended := by
  have length := roll.length_eq
  have presence : s.metrics.presence.map UInt64.toNat = .of started ended := by
    rw [roll.counted]
    exact Presence.toNat_map few (by omega)
  have opened : s.metrics.connectionsOpened.toNat = started.length :=
    congrArg Presence.opened presence
  have closed : s.metrics.connectionsClosed.toNat = ended.length :=
    congrArg Presence.closed presence
  have fewer : s.metrics.connectionsClosed ≤ s.metrics.connectionsOpened := by
    rw [UInt64.le_iff_toNat_le, opened, closed]
    omega
  constructor
  case presence => exact presence
  case opened => omega
  case active =>
    rw [Metrics.activeConnections, if_pos fewer, UInt64.toNat_sub_of_le _ _ fewer]
    omega

/-- In every state that a service can reach, each counter of the sessions is the last 64 bits of
what it counts. One session was started for each connection for which one was to be started, and it
lives or has ended once. Those that live are as many as are registered, and as were opened and not
closed. A close or a drop answers with how many topics its session had, after which the session is
gone, and when none lives no topic is kept. While no counter has begun anew, they are the numbers
themselves. -/
theorem sessions_accounted (settings : Settings) (now : Nat) (wall : Instant) (ids : Nat → Uuid)
    (commands : List Command) :
    let start := (Gateway.create settings (.empty now wall ids)).service
    let s := start.run commands
    let started := start.starts commands
    let ended := start.endings commands
    (∀ id, id ∈ started ↔ ∃ command ∈ commands, command.Starts id) ∧
      Attendance s started ended ∧
      (started.length < UInt64.size → Told s.metrics s.live.length started ended) := by
  intro start s started ended
  have roll := roll_run settings now wall ids commands
  exact ⟨mem_starts_iff settings now wall ids commands, roll.attendance, roll.told⟩

def departures : List Command :=
  let text := "\x7b\"type\":\"subscribe\",\"channel\":\"depth\",\"symbol\":\"BTC-USDT\"\x7d"
  [.act ⟨1⟩ (.start 1 .disconnect), .act ⟨1⟩ (.text text), .act ⟨1⟩ (.text "?"),
    .act ⟨2⟩ (.start 4 .dropNewest), .act ⟨2⟩ (.text text), .act ⟨3⟩ (.start 1 .disconnect),
    .act ⟨3⟩ (.text text), .act ⟨1⟩ .drop, .act ⟨2⟩ (.close .idleTimeout)]

def allDepartures : List Command :=
  departures ++ [.act ⟨3⟩ (.close .backpressure)]

theorem departures_accounted :
    let start := (Gateway.create .standard (.empty 0 .epoch Uuid.serial)).service
    let s := start.run departures
    let t := start.run allDepartures
    (start.starts departures).length < UInt64.size ∧
      Told s.metrics s.live.length (start.starts departures) (start.endings departures) ∧
      s.live = [⟨3⟩] ∧ Leaves s ⟨3⟩ (s.act ⟨3⟩ (.close .backpressure)) ∧
      t.live = [] ∧ t.registry.topicCount = 0 := by
  have few : ((Gateway.create .standard (.empty 0 .epoch Uuid.serial)).service.starts
      departures).length < UInt64.size := by decide +kernel
  have one : ((Gateway.create .standard (.empty 0 .epoch Uuid.serial)).service.run
      departures).live = [⟨3⟩] := by decide +kernel
  have none : ((Gateway.create .standard (.empty 0 .epoch Uuid.serial)).service.run
      allDepartures).live = [] := List.isEmpty_iff.mp (by decide +kernel)
  obtain ⟨-, attendance, told⟩ := sessions_accounted .standard 0 .epoch Uuid.serial departures
  have leaves := attendance.leaves ⟨3⟩ (by rw [one]; exact List.mem_singleton_self _)
    (.close .backpressure) trivial
  have vacant := (sessions_accounted .standard 0 .epoch Uuid.serial allDepartures).2.1.vacant none
  exact ⟨few, told few, one, leaves, none, vacant⟩

end Service

end CandleFeed
