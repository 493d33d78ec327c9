import CandleFeed.Proofs.Engine.Written
import CandleFeed.Proofs.Service.News

namespace CandleFeed

namespace Service

def tradeFrames (s : Service) (id : ConnectionId) (event : TradeEvent) (tick : Tick) : List Frame :=
  match tick.notional with
  | .error _ => []
  | .ok amount =>
      if s.registry.isSubscribed id (.trade tick.symbol) then
        [s.frame (.push (.trade
          ⟨event.payload.tradeId, tick.symbol, tick.price, tick.quantity, amount, event.takerSide,
            tick.time.millis⟩))]
      else []

def candleFrames (s : Service) (id : ConnectionId) (symbol : Symbol) (candles : List Candle) :
    List Frame :=
  (candles.filter fun candle => s.registry.isSubscribed id (.kline symbol candle.interval)).map
    fun candle => s.frame (.push (.kline candle))

variable {s : Service}

theorem wanted_append (topics : List Topic) (first second : List Push) :
    Seat.wanted topics (first ++ second) = Seat.wanted topics first ++ Seat.wanted topics second := by
  unfold Seat.wanted
  rw [List.filter_append, List.map_append]

theorem wanted_report (s : Service) (id : ConnectionId) {event : TradeEvent} {tick : Tick}
    (read : event.toTick = .ok tick) :
    Seat.wanted (s.registry.wants id) (event.report.map s.toIngester.push) =
      s.tradeFrames id event tick := by
  unfold TradeEvent.report tradeFrames PublicTrade.ofTick Seat.wanted
  rw [read]
  dsimp only
  cases tick.notional with
  | error cause => rfl
  | ok amount =>
      have topic : ∀ report : PublicTrade,
          (s.toIngester.push (.trade report)).topic = .trade report.symbol := fun _ => rfl
      simp only [Except.map, List.map_singleton, Registry.isSubscribed_iff]
      by_cases wanted : Topic.trade tick.symbol ∈ s.registry.wants id
      · rw [if_pos wanted, List.filter_cons_of_pos (by simpa [topic] using wanted)]
        rfl
      · rw [if_neg wanted, List.filter_cons_of_neg (by simpa [topic] using wanted)]
        rfl

theorem wanted_candles (s : Service) (id : ConnectionId) {symbol : Symbol} {candles : List Candle}
    (own : ∀ candle ∈ candles, candle.symbol = symbol) :
    Seat.wanted (s.registry.wants id) ((candles.map .kline).map s.toIngester.push) =
      s.candleFrames id symbol candles := by
  unfold Seat.wanted candleFrames
  rw [List.map_map, List.filter_map, List.map_map]
  have same : candles.filter
        ((fun push : Push => decide (push.topic ∈ s.registry.wants id)) ∘ s.toIngester.push ∘ .kline) =
      candles.filter fun candle => s.registry.isSubscribed id (.kline symbol candle.interval) := by
    apply List.filter_congr
    intro candle mem
    rw [← own candle mem, Bool.eq_iff_iff, Registry.isSubscribed_iff]
    exact decide_eq_true_iff
  rw [same]
  rfl

/-- What an accepted event has done to a service. -/
structure Delivers (s : Service) (event : TradeEvent) (nanos : Nat) (candles : List Candle)
    (tick : Tick) : Prop where
  read : event.toTick = .ok tick
  symbol : Symbol.ofPair? event.payload.symbol = some tick.symbol
  inOrder : (candles.map Candle.interval).Sublist Interval.all
  stored : ∀ candle ∈ candles, candle.symbol = tick.symbol ∧
    (s.ingestEvent event nanos).1.store.rows.get? candle.key = some candle
  offered : ∀ id, s.offered (.event event nanos) id =
    s.tradeFrames id event tick ++ s.candleFrames id tick.symbol candles
  outboxes : ∀ id, (s.ingestEvent event nanos).1.outbox? id =
    (s.outbox? id).map fun o => o.offer (s.offered (.event event nanos) id)
  appended : ∀ id outbox, s.outbox? id = some outbox →
    ((s.ingestEvent event nanos).1.outbox? id).map Outbox.frames =
      some (outbox.frames ++ (s.offered (.event event nanos) id).take outbox.room)
  others : ∀ id, s.offered (.event event nanos) id = [] →
    (s.ingestEvent event nanos).1.outbox? id = s.outbox? id

theorem wanted_event (publicTrades : s.publicTrades = true) {event : TradeEvent} {nanos : Nat}
    {tick : Tick} {candles : List Candle} (read : event.toTick = .ok tick)
    (own : ∀ candle ∈ candles, candle.symbol = tick.symbol)
    (accepted : (s.toIngester.ingestEvent event nanos).2 = .accepted candles) (id : ConnectionId) :
    Seat.wanted (s.registry.wants id) (s.toIngester.pushes s.publicTrades (.event event nanos)) =
      s.tradeFrames id event tick ++ s.candleFrames id tick.symbol candles := by
  rw [publicTrades]
  unfold Ingester.pushes
  dsimp only
  rw [accepted]
  unfold EventOutcome.published
  rw [if_pos rfl, List.map_append, wanted_append, wanted_report s id read, wanted_candles s id own]

theorem Sound.offered_event (sound : s.Sound) (publicTrades : s.publicTrades = true)
    {event : TradeEvent} {nanos : Nat} {tick : Tick} {candles : List Candle}
    (read : event.toTick = .ok tick) (own : ∀ candle ∈ candles, candle.symbol = tick.symbol)
    (accepted : (s.toIngester.ingestEvent event nanos).2 = .accepted candles) (id : ConnectionId) :
    s.offered (.event event nanos) id =
      s.tradeFrames id event tick ++ s.candleFrames id tick.symbol candles :=
  (sound.offered_eq _ id).trans (wanted_event publicTrades read own accepted id)

theorem Sound.delivers (sound : s.Sound) (publicTrades : s.publicTrades = true)
    {event : TradeEvent} {nanos : Nat} {candles : List Candle}
    (accepted : (s.ingestEvent event nanos).2 = .accepted candles) :
    ∃ tick, s.Delivers event nanos candles tick := by
  obtain ⟨same, m, heard⟩ := s.ingestEvent_eq event nanos
  rw [same] at accepted
  obtain ⟨tick, read, rfl, engine⟩ := Ingester.ingestEvent_accepted accepted
  have written := Engine.ingest_written sound.coherent tick nanos
  have store : (s.ingestEvent event nanos).1.store = (s.toEngine.ingest tick nanos).1.store := by
    rw [heard, ← engine]
    rfl
  have own : ∀ candle ∈ (s.toEngine.ingest tick nanos).2, candle.symbol = tick.symbol :=
    fun candle mem => congrArg CandleKey.symbol (written.stored candle mem).1
  have outboxes : ∀ id, (s.ingestEvent event nanos).1.outbox? id =
      (s.outbox? id).map fun o => o.offer (s.offered (.event event nanos) id) :=
    (sound.hear (.event event nanos)).outboxes
  refine ⟨tick, ?_⟩
  constructor
  case read => exact read
  case symbol => exact (TradeEvent.toTick_ok read).symbol
  case inOrder => exact written.inOrder
  case stored =>
    intro candle mem
    rw [store]
    exact ⟨own candle mem, (written.stored candle mem).2⟩
  case offered => exact sound.offered_event publicTrades read own accepted
  case outboxes => exact outboxes
  case appended =>
    intro id outbox found
    rw [outboxes, found, Option.map_some, Option.map_some, Outbox.frames_offer]
  case others =>
    intro id nothing
    rw [outboxes, nothing]
    exact Option.map_id'

theorem outboxes_of_refused {event : TradeEvent} {nanos : Nat}
    (refused : ∀ candles, (s.ingestEvent event nanos).2 ≠ .accepted candles) :
    (s.ingestEvent event nanos).1.outboxes = s.outboxes := by
  obtain ⟨same, m, heard⟩ := s.ingestEvent_eq event nanos
  have nothing : s.offers (.event event nanos) = [] := by
    rw [same] at refused
    unfold offers Ingester.pushes
    dsimp only
    cases outcome : (s.toIngester.ingestEvent event nanos).2 with
    | accepted candles => exact absurd outcome (refused candles)
    | _ => rfl
  rw [heard, nothing]
  rfl

theorem publicTrades_run (s : Service) (sound : s.Sound) (commands : List Command) :
    (s.run commands).publicTrades = s.publicTrades := by
  induction commands generalizing s with
  | nil => rfl
  | cons command rest ih =>
      refine (ih (s.step command) (sound.step command)).trans ?_
      cases command with
      | act id act => exact (sound.act id act).1.publicTrades
      | news news => exact (sound.hear news).publicTrades

/-- Whatever has been done to a service: an event that is accepted sends each session its trade and
its candles, as they are stored; any other leaves all outboxes as they are. -/
theorem ingestEvent_delivers (settings : Settings) (now : Nat) (wall : Instant) (ids : Nat → Uuid)
    (commands : List Command) (event : TradeEvent) (nanos : Nat) :
    let s := (Gateway.create settings (.empty now wall ids)).service.run commands
    match (s.ingestEvent event nanos).2 with
    | .accepted candles => ∃ tick, s.Delivers event nanos candles tick
    | .rejected _ | .duplicate => (s.ingestEvent event nanos).1.outboxes = s.outboxes := by
  have sound := sound_run settings now wall ids commands
  have publicTrades := publicTrades_run _ (sound_create settings now wall ids) commands
  dsimp only
  generalize (Gateway.create settings (.empty now wall ids)).service.run commands = s at sound publicTrades
  cases outcome : (s.ingestEvent event nanos).2 with
  | accepted candles => exact sound.delivers publicTrades outcome
  | rejected cause =>
      apply outboxes_of_refused
      rw [outcome]
      exact nofun
  | duplicate =>
      apply outboxes_of_refused
      rw [outcome]
      exact nofun

end Service

end CandleFeed
