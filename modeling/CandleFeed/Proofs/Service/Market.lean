import CandleFeed.Proofs.Engine.Counts
import CandleFeed.Service.Basic

namespace CandleFeed

inductive News
  | event (event : TradeEvent) (nanos : Nat)
  | complete (key : CandleKey)
  | publish (topic : Topic) (payload : Payload)
  | advance (span : Nat) (wall : Instant)

structure Push where
  topic : Topic
  frame : Frame

def TradeEvent.report (event : TradeEvent) : List Payload :=
  match event.toTick with
  | .error _ => []
  | .ok tick =>
      match PublicTrade.ofTick event.payload.tradeId tick event.takerSide with
      | .ok report => [.trade report]
      | .error _ => []

/-- What is published when an event comes out so: its trade, if trades are public, and the candles
that it changed. -/
def EventOutcome.published (publicTrades : Bool) (event : TradeEvent) :
    EventOutcome → List Payload
  | .accepted candles => (if publicTrades then event.report else []) ++ candles.map .kline
  | .rejected _ | .duplicate => []

namespace TradeEvent

structure Reports (event : TradeEvent) (tick : Tick) : Prop where
  symbol : Symbol.ofPair? event.payload.symbol = some tick.symbol
  price : readFigure .price event.payload.price = .ok tick.price
  quantity : readFigure .quantity event.payload.quantity = .ok tick.quantity

theorem toTick_ok {event : TradeEvent} {tick : Tick} (read : event.toTick = .ok tick) :
    event.Reports tick := by
  unfold toTick at read
  split at read
  · split at read
    · cases read
    · rename_i symbol found
      cases price : readFigure .price event.payload.price with
      | error cause => simp [price, bind, Except.bind] at read
      | ok price' =>
          cases quantity : readFigure .quantity event.payload.quantity with
          | error cause => simp [price, quantity, bind, Except.bind] at read
          | ok quantity' =>
              simp only [price, quantity, bind, Except.bind, Except.ok.injEq] at read
              subst read
              exact ⟨found, price, quantity⟩
  · cases read

theorem readFigure_pos {figure : TradeFigure} {value : String} {d : Decimal}
    (read : readFigure figure value = .ok d) : .zero < d := by
  unfold readFigure at read
  split at read
  · rename_i own found
    cases read
    simpa using (Option.filter_eq_some_iff.mp found).2
  · cases read

theorem validate_of_toTick {event : TradeEvent} {tick : Tick} (read : event.toTick = .ok tick) :
    tick.validate = .ok () := by
  have price := Decimal.lt_iff.mp (readFigure_pos (toTick_ok read).price)
  have quantity := Decimal.lt_iff.mp (readFigure_pos (toTick_ok read).quantity)
  rw [Tick.validate_eq_ok_iff, Decimal.le_iff, Decimal.lt_iff]
  exact ⟨by omega, by omega⟩

end TradeEvent

namespace Ingester

def counting (i : Ingester) (m : Metrics) : Ingester :=
  { i with metrics := m }

def push (i : Ingester) (payload : Payload) : Push :=
  ⟨payload.topic, ⟨.push payload, i.store.wall.millis⟩⟩

def hear (i : Ingester) : News → Ingester
  | .event event nanos => (i.ingestEvent event nanos).1
  | .complete key => { i with toEngine := (i.toEngine.markCompleted key).1 }
  | .publish _ _ => i
  | .advance span wall => { i with store := { i.store.advance span with wall := wall } }

def pushes (i : Ingester) (publicTrades : Bool) : News → List Push
  | .event event nanos =>
      ((i.ingestEvent event nanos).2.published publicTrades event).map i.push
  | .complete key =>
      match (i.toEngine.markCompleted key).2 with
      | .ok (some row) => [i.push (.kline row)]
      | .ok none | .error _ => []
  | .publish topic payload => [{ i.push payload with topic := topic }]
  | .advance _ _ => []

theorem screen_counting (i : Ingester) (m : Metrics) (event : TradeEvent) :
    ∃ m', (i.counting m).screen event = ((i.screen event).1.counting m', (i.screen event).2) := by
  unfold screen
  cases event.toTick with
  | error cause => exact ⟨m.rejectedTrade, rfl⟩
  | ok tick =>
      have window : (i.counting m).window = i.window := rfl
      dsimp only
      rw [window]
      cases i.window.remember event.eventId with
      | none => exact ⟨m.duplicateTrade, rfl⟩
      | some window => exact ⟨m, rfl⟩

theorem ingestEvent_counting (i : Ingester) (m : Metrics) (event : TradeEvent) (nanos : Nat) :
    ∃ m', (i.counting m).ingestEvent event nanos =
      ((i.ingestEvent event nanos).1.counting m', (i.ingestEvent event nanos).2) := by
  obtain ⟨m', counted⟩ := screen_counting i m event
  unfold ingestEvent
  rw [counted]
  rcases i.screen event with ⟨after, cause | _ | tick⟩
  · exact ⟨m', rfl⟩
  · exact ⟨m', rfl⟩
  · obtain ⟨m'', counted⟩ := after.toEngine.ingest_counting m' tick nanos
    have same : (after.counting m').toEngine = after.toEngine.counting m' := rfl
    dsimp only
    rw [same, counted]
    exact ⟨m'', rfl⟩

theorem markCompleted_counting (i : Ingester) (m : Metrics) (key : CandleKey) :
    ∃ m', (i.counting m).toEngine.markCompleted key =
      ((i.toEngine.markCompleted key).1.counting m', (i.toEngine.markCompleted key).2) :=
  i.toEngine.markCompleted_counting m key

theorem hear_counting (i : Ingester) (m : Metrics) (news : News) :
    ∃ m', (i.counting m).hear news = (i.hear news).counting m' := by
  cases news with
  | event event nanos =>
      obtain ⟨m', counted⟩ := ingestEvent_counting i m event nanos
      exact ⟨m', congrArg Prod.fst counted⟩
  | complete key =>
      obtain ⟨m', counted⟩ := markCompleted_counting i m key
      refine ⟨m', ?_⟩
      unfold hear
      dsimp only
      rw [counted]
      rfl
  | publish topic payload => exact ⟨m, rfl⟩
  | advance span wall => exact ⟨m, rfl⟩

theorem pushes_counting (i : Ingester) (m : Metrics) (publicTrades : Bool) (news : News) :
    (i.counting m).pushes publicTrades news = i.pushes publicTrades news := by
  cases news with
  | event event nanos =>
      obtain ⟨m', counted⟩ := ingestEvent_counting i m event nanos
      unfold pushes
      dsimp only
      rw [counted]
      rfl
  | complete key =>
      obtain ⟨m', counted⟩ := markCompleted_counting i m key
      unfold pushes
      dsimp only
      rw [counted]
      rfl
  | publish topic payload => rfl
  | advance span wall => rfl

theorem store_screen (i : Ingester) (event : TradeEvent) : (i.screen event).1.store = i.store := by
  unfold screen
  split
  · rfl
  · split <;> rfl

theorem screen_admitted {i after : Ingester} {event : TradeEvent} {tick : Tick}
    (passed : i.screen event = (after, .admitted tick)) :
    event.toTick = .ok tick ∧ ∃ window, after = { i with window := window } := by
  unfold screen at passed
  split at passed
  · cases passed
  · rename_i own read
    split at passed
    · cases passed
    · rename_i window _
      cases passed
      exact ⟨read, window, rfl⟩

variable {i after : Ingester} {event : TradeEvent}

theorem ingestEvent_rejected {cause : EventError}
    (screened : i.screen event = (after, .rejected cause)) (nanos : Nat) :
    i.ingestEvent event nanos = (after, .rejected cause) := by
  unfold ingestEvent
  rw [screened]

theorem ingestEvent_duplicate (screened : i.screen event = (after, .duplicate)) (nanos : Nat) :
    i.ingestEvent event nanos = (after, .duplicate) := by
  unfold ingestEvent
  rw [screened]

theorem ingestEvent_admitted {tick : Tick} (screened : i.screen event = (after, .admitted tick))
    (nanos : Nat) :
    i.ingestEvent event nanos =
      ({ after with toEngine := (after.toEngine.ingest tick nanos).1 },
        .accepted (after.toEngine.ingest tick nanos).2) := by
  unfold ingestEvent
  rw [screened]

theorem screen_of_accepted {nanos : Nat} {candles : List Candle}
    (accepted : (i.ingestEvent event nanos).2 = .accepted candles) :
    ∃ after tick, i.screen event = (after, .admitted tick) := by
  rcases screened : i.screen event with ⟨after, cause | _ | tick⟩
  · rw [ingestEvent_rejected screened] at accepted
    cases accepted
  · rw [ingestEvent_duplicate screened] at accepted
    cases accepted
  · exact ⟨after, tick, rfl⟩

theorem ingestEvent_accepted {nanos : Nat} {candles : List Candle}
    (accepted : (i.ingestEvent event nanos).2 = .accepted candles) :
    ∃ tick, event.toTick = .ok tick ∧ (i.toEngine.ingest tick nanos).2 = candles ∧
      (i.ingestEvent event nanos).1.toEngine = (i.toEngine.ingest tick nanos).1 := by
  obtain ⟨after, tick, screened⟩ := screen_of_accepted accepted
  obtain ⟨read, window, rfl⟩ := screen_admitted screened
  rw [ingestEvent_admitted screened] at accepted ⊢
  exact ⟨tick, read, EventOutcome.accepted.inj accepted, rfl⟩

end Ingester

end CandleFeed
