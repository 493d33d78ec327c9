import CandleFeed.Proofs.Engine.Books
import CandleFeed.Proofs.Service.Admission
import CandleFeed.Proofs.Service.Containment

namespace CandleFeed

structure Books (α : Type) where
  ingested : α
  duplicate : α
  rejected : α
  failed : α
  created : α
  updated : α
  completed : α

structure Presence (α : Type) where
  opened : α
  closed : α
  idle : α
  slow : α

def Books.map {α β : Type} (f : α → β) (b : Books α) : Books β where
  ingested := f b.ingested
  duplicate := f b.duplicate
  rejected := f b.rejected
  failed := f b.failed
  created := f b.created
  updated := f b.updated
  completed := f b.completed

def Presence.map {α β : Type} (f : α → β) (p : Presence α) : Presence β where
  opened := f p.opened
  closed := f p.closed
  idle := f p.idle
  slow := f p.slow

namespace Metrics

def books (m : Metrics) : Books UInt64 where
  ingested := m.tradesIngested
  duplicate := m.tradesDuplicate
  rejected := m.tradesRejected
  failed := m.intervalFailures
  created := m.candlesCreated
  updated := m.candlesUpdated
  completed := m.candlesCompleted

def presence (m : Metrics) : Presence UInt64 where
  opened := m.connectionsOpened
  closed := m.connectionsClosed
  idle := m.idleTimeouts
  slow := m.slowDisconnects

theorem Sent.books {m after : Metrics} (sent : m.Sent after) : after.books = m.books := by
  obtain ⟨_, _, _, rfl⟩ := sent
  rfl

theorem Sent.presence {m after : Metrics} (sent : m.Sent after) : after.presence = m.presence := by
  obtain ⟨_, _, _, rfl⟩ := sent
  rfl

def afterAct (m : Metrics) : Act → Effect → Metrics
  | .close reason, .ended _ => Service.countClose m.connectionClosed reason
  | _, .ended _ => m.connectionClosed
  | _, .started => m.connectionOpened
  | _, .answered (.error _) => m.protocolError
  | _, _ => m

end Metrics

namespace Service
open Engine

variable {s : Service}

theorem metrics_handleText (s : Service) (number : Nat) (id : ConnectionId) (text : String) :
    (s.handleText number id text).1.metrics =
      s.metrics.afterAct (.text text) (.answered (s.handleText number id text).2) := by
  rcases s.handleText_cases number id text with
    ⟨cause, refused⟩ | ⟨request, next, message, -, performed, granted⟩
  · rw [refused]
    rfl
  · obtain ⟨-, r, rfl⟩ := exists_registry_of_perform performed
    rw [granted]
    rfl

theorem metrics_dropSession {number : Nat} (owned : (s.session? number).isSome = true) :
    (s.dropSession number).1.metrics = s.metrics.connectionClosed := by
  obtain ⟨outbox, found⟩ := Option.isSome_iff_exists.mp owned
  unfold dropSession
  rw [found]
  rfl

theorem metrics_asSession {number : Nat} {act : Act} {done : Service × Effect}
    (counted : (s.session? number).isSome = true →
      done.1.metrics = s.metrics.afterAct act done.2) :
    (s.asSession number done).1.metrics = s.metrics.afterAct act (s.asSession number done).2 := by
  unfold asSession
  split
  · exact counted ‹_›
  · cases act <;> rfl

theorem metrics_act (s : Service) (id : ConnectionId) (act : Act) :
    (s.act id act).1.metrics = s.metrics.afterAct act (s.act id act).2 := by
  unfold Service.act
  cases s.number? id with
  | none => cases act <;> rfl
  | some number =>
      cases act with
      | start capacity policy => rfl
      | text text => exact metrics_asSession fun _ => metrics_handleText s number id text
      | receive =>
          dsimp only [actAt]
          unfold receive
          split <;> rfl
      | requestClose => exact metrics_asSession fun _ => rfl
      | close reason =>
          refine metrics_asSession fun owned => ?_
          change countClose (s.dropSession number).1.metrics reason = _
          rw [metrics_dropSession owned]
          rfl
      | drop => exact metrics_asSession fun owned => metrics_dropSession owned
      | abandon => rfl

theorem books_act (s : Service) (id : ConnectionId) (act : Act) :
    (s.act id act).1.metrics.books = s.metrics.books := by
  have closed (m : Metrics) (reason : CloseReason) : (countClose m reason).books = m.books := by
    cases reason <;> rfl
  rw [metrics_act]
  unfold Metrics.afterAct
  split
  · exact closed _ _
  all_goals rfl

theorem store_publishOn (s : Service) (topic : Topic) (payload : Payload) :
    (s.publishOn topic payload).1.store = s.store := by
  obtain ⟨m, sent⟩ := publishOn_eq s topic payload
  rw [sent]
  rfl

theorem store_publishAll (s : Service) (payloads : List Payload) :
    (s.publishAll payloads).store = s.store := by
  obtain ⟨m, sent⟩ := publishAll_eq s payloads
  rw [sent]
  rfl

theorem metrics_publishAll (s : Service) (payloads : List Payload) :
    s.metrics.Sent (s.publishAll payloads).metrics := by
  induction payloads generalizing s with
  | nil => exact .refl _
  | cons payload rest ih => exact (metrics_publish s payload).trans (ih _)

/-- What an event does to the counters and the table. An event that is accepted finds the engine as
it was, but for frames that were pushed. -/
inductive EventBooks (s t : Service) : EventOutcome → Prop
  | rejected (cause : EventError) (store : t.store = s.store)
      (metrics : t.metrics = s.metrics.rejectedTrade) : EventBooks s t (.rejected cause)
  | duplicate (store : t.store = s.store) (metrics : t.metrics = s.metrics.duplicateTrade) :
      EventBooks s t .duplicate
  | accepted (e : Engine) (state : Engine × List Candle) (nanos : Nat) (store : e.store = s.store)
      (pushed : s.metrics.Sent e.metrics) (balanced : Balanced e Interval.all state)
      (store' : t.store = state.1.store)
      (pushed' : (state.1.metrics.tradeIngested nanos).Sent t.metrics) :
      EventBooks s t (.accepted state.2)

theorem ingestEvent_books (coherent : s.store.Coherent) (event : TradeEvent) (nanos : Nat) :
    EventBooks s (s.ingestEvent event nanos).1 (s.ingestEvent event nanos).2 := by
  cases read : event.toTick with
  | error cause =>
      rw [ingestEvent_faulty read]
      exact .rejected cause rfl rfl
  | ok tick =>
      cases remembered : s.window.remember event.eventId with
      | none =>
          rw [ingestEvent_repeated read remembered]
          exact .duplicate rfl rfl
      | some window =>
          let before := ({ s with window := window } : Service).publishAll
            (if s.publicTrades then event.report else [])
          have all : s.ingestEvent event nanos =
              ((before.ingest tick nanos).1, .accepted (before.ingest tick nanos).2) := by
            have reported : ({ s with window := window } : Service).publishTrade event tick = before :=
              publishTrade_eq read
            unfold ingestEvent
            rw [Ingester.screen_fresh read remembered]
            dsimp only
            rw [reported]
          have store : before.store = s.store := store_publishAll _ _
          obtain ⟨state, balanced, ingested⟩ := ingest_balanced (e := before.toEngine)
            (store ▸ coherent) (TradeEvent.validate_of_toTick read) nanos
          have pushed := before.metrics_ingest tick nanos
          have store' := before.store_ingest tick nanos
          have written : (before.ingest tick nanos).2 = state.2 := congrArg Prod.snd ingested
          rw [ingested] at pushed store'
          rw [all, written]
          exact .accepted _ state nanos store (metrics_publishAll _ _) balanced store' pushed

structure CompletionBooks (s t : Service) (outcome : Except AggregationError (Option Candle)) : Prop where
  coherent : t.store.Coherent
  size : t.store.rows.table.size = s.store.rows.table.size
  told : ∀ i, t.store.rows.told i = s.store.rows.told i
  answer : outcome = .ok none ∧ t.metrics = s.metrics ∨
    ∃ row, outcome = .ok (some row) ∧ s.metrics.candleCompleted.Sent t.metrics

theorem complete_books (coherent : s.store.Coherent) (key : CandleKey) :
    CompletionBooks s (s.complete key).1 (s.complete key).2 := by
  have completed := markCompleted_balanced coherent key
  unfold complete
  generalize s.toEngine.markCompleted key = done at completed
  obtain ⟨engine, outcome⟩ := done
  obtain ⟨kept, size, told, ⟨missing, same⟩ | ⟨row, found, counted⟩⟩ := completed
  · obtain rfl : outcome = _ := missing
    exact ⟨kept, size, told, .inl ⟨rfl, same⟩⟩
  · obtain rfl : outcome = _ := found
    have store := store_publishAll { s with toEngine := engine } [.kline row]
    have pushed := metrics_publishAll { s with toEngine := engine } [.kline row]
    dsimp only
    rw [publishCandles_eq]
    change engine.metrics = _ at counted
    refine ⟨?_, ?_, ?_, .inr ⟨row, rfl, counted ▸ pushed⟩⟩
    · exact store ▸ kept
    · exact store ▸ size
    · exact store ▸ told

theorem EventBooks.presence {t : Service} {outcome : EventOutcome} (books : EventBooks s t outcome) :
    t.metrics.presence = s.metrics.presence := by
  cases books with
  | rejected cause store metrics =>
      rw [metrics]
      rfl
  | duplicate store metrics =>
      rw [metrics]
      rfl
  | accepted e state nanos store pushed balanced store' pushed' =>
      obtain ⟨created, updated, failed, -, -, -, metrics⟩ := balanced.counted
      have same : state.1.metrics.presence = e.metrics.presence := by
        rw [metrics]
        rfl
      exact pushed'.presence.trans (same.trans pushed.presence)

theorem presence_hear (coherent : s.store.Coherent) (news : News) :
    (s.hear news).metrics.presence = s.metrics.presence := by
  cases news with
  | event event nanos => exact (ingestEvent_books coherent event nanos).presence
  | complete key =>
      rcases (complete_books coherent key).answer with ⟨-, same⟩ | ⟨row, -, pushed⟩
      · exact congrArg Metrics.presence same
      · exact pushed.presence
  | publish topic payload => exact (metrics_publishOn s topic payload).presence
  | advance span wall => rfl

end Service

end CandleFeed
