import CandleFeed.Proofs.Service.Seats
import CandleFeed.Proofs.Window

namespace CandleFeed

namespace Ingester

variable {i : Ingester} {event : TradeEvent}

theorem screen_repeated {tick : Tick} (read : event.toTick = .ok tick)
    (old : i.window.remember event.eventId = none) :
    i.screen event = ({ i with metrics := i.metrics.duplicateTrade }, .duplicate) := by
  simp [screen, read, old]

theorem screen_fresh {tick : Tick} {window : Window} (read : event.toTick = .ok tick)
    (new : i.window.remember event.eventId = some window) :
    i.screen event = ({ i with window := window }, .admitted tick) := by
  simp [screen, read, new]

end Ingester

namespace Service

variable {s : Service} {event : TradeEvent}

theorem ingestEvent_faulty {cause : EventError} (faulty : event.toTick = .error cause)
    (nanos : Nat) :
    s.ingestEvent event nanos = (s.setMetrics Metrics.rejectedTrade, .rejected cause) := by
  unfold ingestEvent
  rw [Ingester.screen_of_rejected faulty]
  rfl

theorem ingestEvent_repeated {tick : Tick} (read : event.toTick = .ok tick)
    (old : s.window.remember event.eventId = none) (nanos : Nat) :
    s.ingestEvent event nanos = (s.setMetrics Metrics.duplicateTrade, .duplicate) := by
  unfold ingestEvent
  rw [Ingester.screen_repeated read old]
  rfl

theorem ingestEvent_fresh {tick : Tick} {window : Window} (read : event.toTick = .ok tick)
    (new : s.window.remember event.eventId = some window) (nanos : Nat) :
    (s.ingestEvent event nanos).1.window = window ∧
      ∃ candles, (s.ingestEvent event nanos).2 = .accepted candles := by
  obtain ⟨same, m, heard⟩ := s.ingestEvent_eq event nanos
  rw [Ingester.ingestEvent_admitted (Ingester.screen_fresh read new)] at same heard
  rw [same, heard]
  exact ⟨rfl, _, rfl⟩

structure Admits (s : Service) (recent : List String) (event : TradeEvent) (nanos : Nat) : Prop where
  rejected : ∀ cause, event.toTick = .error cause →
    s.ingestEvent event nanos = (s.setMetrics Metrics.rejectedTrade, .rejected cause)
  dropped : ∀ tick, event.toTick = .ok tick → event.eventId ∈ recent →
    s.ingestEvent event nanos = (s.setMetrics Metrics.duplicateTrade, .duplicate)
  accepted : ∀ tick, event.toTick = .ok tick → event.eventId ∉ recent →
    ∃ candles, (s.ingestEvent event nanos).2 = .accepted candles

variable {capacity : Nat} {ids : List String}

theorem admits_of_recalls (recalls : s.window.Recalls capacity ids) (event : TradeEvent)
    (nanos : Nat) : s.Admits (ids.rtake (max 1 capacity)) event nanos where
  rejected _ faulty := ingestEvent_faulty faulty nanos
  dropped _ read old := ingestEvent_repeated read (recalls.remember_old old) nanos
  accepted _ read new := by
    obtain ⟨window, remembered, -⟩ := recalls.remember_new new
    exact (ingestEvent_fresh read remembered nanos).2

def acceptedBy (s : Service) : Command → List String
  | .news (.event event nanos) =>
      match (s.ingestEvent event nanos).2 with
      | .accepted _ => [event.eventId]
      | .rejected _ | .duplicate => []
  | .news _ | .act _ _ => []

def acceptedIds (s : Service) : List Command → List String
  | [] => []
  | command :: rest => s.acceptedBy command ++ (s.step command).acceptedIds rest

theorem ingester_asSession {number : Nat} {done : Service × Effect}
    (counted : ∃ m, done.1.toIngester = s.toIngester.counting m) :
    ∃ m, (s.asSession number done).1.toIngester = s.toIngester.counting m := by
  unfold asSession
  split
  · exact counted
  · exact ⟨s.metrics, rfl⟩

theorem ingester_handleText (s : Service) (number : Nat) (id : ConnectionId) (text : String) :
    ∃ m, (s.handleText number id text).1.toIngester = s.toIngester.counting m := by
  rcases s.handleText_cases number id text with
    ⟨cause, refused⟩ | ⟨request, next, message, -, performed, answered⟩
  · rw [refused]
    exact ⟨s.metrics.protocolError, rfl⟩
  · obtain ⟨-, r, rfl⟩ := exists_registry_of_perform performed
    rw [answered]
    exact ⟨s.metrics, rfl⟩

theorem ingester_dropSession (s : Service) (number : Nat) :
    ∃ m, (s.dropSession number).1.toIngester = s.toIngester.counting m := by
  unfold dropSession
  split
  · exact ⟨s.metrics, rfl⟩
  · exact ⟨s.metrics.connectionClosed, rfl⟩

theorem ingester_closeSession (s : Service) (number : Nat) (reason : CloseReason) :
    ∃ m, (s.closeSession number reason).1.toIngester = s.toIngester.counting m := by
  obtain ⟨m, dropped⟩ := s.ingester_dropSession number
  have closed : (s.closeSession number reason).1.toIngester =
      (s.dropSession number).1.toIngester.counting
        (countClose (s.dropSession number).1.metrics reason) := rfl
  rw [closed, dropped]
  exact ⟨_, rfl⟩

theorem ingester_act (s : Service) (id : ConnectionId) (act : Act) :
    ∃ m, (s.act id act).1.toIngester = s.toIngester.counting m := by
  unfold Service.act
  cases s.number? id with
  | none => cases act with
    | start capacity policy => exact ⟨s.metrics.connectionOpened, rfl⟩
    | _ => exact ⟨s.metrics, rfl⟩
  | some number =>
      cases act with
      | start capacity policy => exact ⟨s.metrics, rfl⟩
      | text text => exact ingester_asSession (s.ingester_handleText number id text)
      | receive =>
          dsimp only [actAt]
          unfold receive
          split <;> exact ⟨s.metrics, rfl⟩
      | requestClose => exact ingester_asSession ⟨s.metrics, rfl⟩
      | close reason => exact ingester_asSession (s.ingester_closeSession number reason)
      | drop => exact ingester_asSession (s.ingester_dropSession number)
      | abandon => exact ⟨s.metrics, rfl⟩

theorem window_act (s : Service) (id : ConnectionId) (act : Act) :
    (s.act id act).1.window = s.window := by
  obtain ⟨m, same⟩ := s.ingester_act id act
  rw [same]
  rfl

theorem recalls_step (recalls : s.window.Recalls capacity ids) (command : Command) :
    (s.step command).window.Recalls capacity (ids ++ s.acceptedBy command) := by
  have unmoved : ids ++ [] = ids := List.append_nil ids
  cases command with
  | act id act =>
      change (s.act id act).1.window.Recalls capacity (ids ++ [])
      rw [window_act, unmoved]
      exact recalls
  | news news =>
      cases news with
      | event event nanos =>
          change (s.ingestEvent event nanos).1.window.Recalls capacity _
          unfold acceptedBy
          dsimp only
          cases read : event.toTick with
          | error cause =>
              rw [ingestEvent_faulty read, unmoved]
              exact recalls
          | ok tick =>
              by_cases old : event.eventId ∈ ids.rtake (max 1 capacity)
              · rw [ingestEvent_repeated read (recalls.remember_old old), unmoved]
                exact recalls
              · obtain ⟨window, remembered, after⟩ := recalls.remember_new old
                obtain ⟨same, candles, accepted⟩ := ingestEvent_fresh read remembered nanos
                rw [same, accepted]
                exact after
      | complete key =>
          obtain ⟨m, heard⟩ := s.hear_eq (.complete key)
          change (s.hear (.complete key)).window.Recalls capacity (ids ++ [])
          rw [heard, unmoved]
          exact recalls
      | publish topic payload =>
          obtain ⟨m, heard⟩ := s.hear_eq (.publish topic payload)
          change (s.hear (.publish topic payload)).window.Recalls capacity (ids ++ [])
          rw [heard, unmoved]
          exact recalls
      | advance span wall =>
          change s.window.Recalls capacity (ids ++ [])
          rw [unmoved]
          exact recalls

theorem recalls_run (recalls : s.window.Recalls capacity ids) (commands : List Command) :
    (s.run commands).window.Recalls capacity (ids ++ s.acceptedIds commands) := by
  induction commands generalizing s ids with
  | nil =>
      rw [acceptedIds, List.append_nil]
      exact recalls
  | cons command rest ih =>
      rw [acceptedIds, ← List.append_assoc]
      exact ih (recalls_step recalls command)

theorem ingestEvent_admits (engine : Engine) (dedupWindow limit : Nat) (publicTrades : Bool)
    (commands : List Command) (event : TradeEvent) (nanos : Nat) :
    let start := create (.create engine dedupWindow) limit publicTrades
    let s := start.run commands
    let recent := (start.acceptedIds commands).rtake (max 1 dedupWindow)
    s.Admits recent event nanos ∧
      ((∀ candles, (s.ingestEvent event nanos).2 ≠ .accepted candles) →
        ∀ next nanos', (s.ingestEvent event nanos).1.Admits recent next nanos') ∧
      s.window.order = recent ∧ s.window.order.Nodup ∧
      (∀ id, s.window.seen.contains id = true ↔ id ∈ s.window.order) ∧
      s.window.order.length ≤ max 1 dedupWindow := by
  intro start s recent
  have recalls : s.window.Recalls dedupWindow (start.acceptedIds commands) :=
    recalls_run (s := start) (Window.recalls_empty dedupWindow) commands
  have admits := admits_of_recalls recalls event nanos
  refine ⟨admits, ?_, recalls.last, recalls.distinct, recalls.seen, recalls.bounded⟩
  intro refused next nanos'
  have same : (s.ingestEvent event nanos).1.window = s.window := by
    cases read : event.toTick with
    | error cause =>
        rw [admits.rejected cause read]
        rfl
    | ok tick =>
        by_cases old : event.eventId ∈ recent
        · rw [admits.dropped tick read old]
          rfl
        · obtain ⟨candles, accepted⟩ := admits.accepted tick read old
          exact absurd accepted (refused candles)
  exact admits_of_recalls (same ▸ recalls) next nanos'

end Service

end CandleFeed
