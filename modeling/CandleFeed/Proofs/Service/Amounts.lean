import CandleFeed.Proofs.Service.Admission
import CandleFeed.Proofs.Service.Delivery
import CandleFeed.Proofs.Service.Identity

/-!
# The amount of a trade

Price times quantity is computed for the trade that is shown to the public, and again for each of
its candles. Where it has no room in a decimal, no trade is shown, no candle takes it, and the event
leaves nothing behind but counts. Where it has room, the trade that is shown and the candles that it
opens have the same amount.
-/

namespace CandleFeed

namespace Candle

variable {price quantity amount : Decimal}

theorem isOk_applyTrade_of_overflow (full : price.mul quantity = none) (c : Candle) :
    (c.applyTrade price quantity).isOk = false := by
  cases taken : c.applyTrade price quantity with
  | error cause => rfl
  | ok traded =>
      obtain ⟨_, _, _, -, room, -⟩ := applyTrade_eq_ok taken
      cases full.symm.trans room

theorem applyTrade_openBucket (room : price.mul quantity = some amount) (symbol : Symbol)
    (interval : Interval) (bucket : Bucket) (seed : Decimal) :
    ∃ traded, (openBucket symbol interval bucket seed).applyTrade price quantity = .ok traded ∧
      traded.volume = quantity ∧ traded.quoteAmount = amount :=
  applyTrade_of (Decimal.add_zero_left quantity rfl) room (Decimal.add_zero_left amount rfl)

end Candle

theorem PublicTrade.ofTick_cases (tradeId : String) (tick : Tick) (takerSide : Option Side) :
    (tick.price.mul tick.quantity = none ∧
        ∃ cause, PublicTrade.ofTick tradeId tick takerSide = .error cause) ∨
      ∃ report : PublicTrade, tick.price.mul tick.quantity = some report.amount ∧
        PublicTrade.ofTick tradeId tick takerSide = .ok report := by
  unfold PublicTrade.ofTick Tick.notional
  cases tick.price.mul tick.quantity with
  | none => exact .inl ⟨rfl, _, rfl⟩
  | some amount => exact .inr ⟨_, rfl, rfl⟩

/-! ## The candles of a trade -/

namespace Engine
open Store

variable {e : Engine} {tick : Tick} {i : Interval} {amount : Decimal}

theorem fails_of_overflow (full : tick.price.mul tick.quantity = none) (e : Engine) (i : Interval) :
    e.fails tick i = true := by
  unfold fails overflows
  rw [Candle.isOk_applyTrade_of_overflow full]
  simp

theorem current_of_missing (identified : e.store.Identified)
    (missing : e.store.rows.get? (keyOf tick i) = none) :
    e.current tick i = .openBucket tick.symbol i (i.bucket tick.time) tick.price := by
  unfold current
  rw [identified.cached?_of_missing missing, missing]
  rfl

theorem not_fails_of_unopened (identified : e.store.Identified)
    (missing : e.store.rows.get? (keyOf tick i) = none)
    (room : tick.price.mul tick.quantity = some amount)
    (read : e.store.outage.rowRead i = none) (write : e.store.outage.rowWrite i = none) :
    e.fails tick i = false := by
  obtain ⟨traded, taken, -⟩ :=
    Candle.applyTrade_openBucket room tick.symbol i (i.bucket tick.time) tick.price
  unfold fails unread overflows unwritten
  rw [current_of_missing identified missing, taken, read, write]
  simp [Except.isOk, Except.toBool]

theorem ingest_overflow (tidy : e.store.Tidy) (valid : tick.validate = .ok ())
    (full : tick.price.mul tick.quantity = none) (nanos : Nat) :
    (e.ingest tick nanos).2 = [] ∧ e.store.Spares (e.ingest tick nanos).1.store (fun _ => True) ∧
      (e.ingest tick nanos).1.metrics =
        { e.metrics with
          intervalFailures := e.metrics.intervalFailures + 9
          tradesIngested := e.metrics.tradesIngested + 1
          ingestLatency := e.metrics.ingestLatency.record nanos } := by
  obtain ⟨state, contained, ingested⟩ := ingest_contained tidy valid nanos
  have failed := fails_of_overflow full e
  have nothing : state.2 = [] := by
    have intervals := contained.intervals
    simp only [failed, Bool.not_true, List.filter_false] at intervals
    exact List.map_eq_nil_iff.mp intervals
  have spares : e.store.Spares state.1.store fun _ => True :=
    (Spares.refl e.store fun _ => True).trans contained.spares fun key _ =>
      ⟨trivial, fun i _ passed => by cases (failed i).symm.trans passed⟩
  obtain ⟨created, updated, total, metrics⟩ := contained.counted
  rw [nothing] at total
  obtain ⟨rfl, rfl⟩ : created = 0 ∧ updated = 0 := by simpa using total
  have all : Interval.all.countP (e.fails tick) = 9 := by
    rw [List.countP_eq_length.mpr fun i _ => failed i]
    rfl
  rw [all] at metrics
  rw [ingested]
  refine ⟨nothing, spares, ?_⟩
  dsimp only
  rw [metrics]
  simp [Metrics.tradeIngested]

theorem ingest_opens (identified : e.store.Identified) (valid : tick.validate = .ok ())
    (room : tick.price.mul tick.quantity = some amount) (nanos : Nat)
    (missing : e.store.rows.get? (keyOf tick i) = none)
    (read : e.store.outage.rowRead i = none) (write : e.store.outage.rowWrite i = none) :
    ∃ row ∈ (e.ingest tick nanos).2, row.key = keyOf tick i ∧
      (e.ingest tick nanos).1.store.rows.get? (keyOf tick i) = some row ∧
      row.volume = tick.quantity ∧ row.quoteAmount = amount := by
  obtain ⟨state, contained, ingested⟩ := ingest_contained identified.toTidy valid nanos
  have passed := not_fails_of_unopened identified missing room read write
  have written : i ∈ state.2.map Candle.interval := by
    rw [contained.intervals]
    exact List.mem_filter.mpr ⟨Interval.mem_all i, by rw [passed]; rfl⟩
  obtain ⟨row, mem, rfl⟩ := List.mem_map.mp written
  obtain ⟨own, folded, stored⟩ := contained.written row mem
  obtain ⟨traded, taken, volume, quoteAmount⟩ :=
    Candle.applyTrade_openBucket room tick.symbol row.interval (row.interval.bucket tick.time) tick.price
  rw [current_of_missing identified missing, taken] at folded
  have same : traded.unstamped = row.unstamped := Except.ok.inj folded
  rw [ingested]
  refine ⟨row, mem, own, own ▸ stored, ?_, ?_⟩
  · exact (congrArg Candle.volume same).symm.trans volume
  · exact (congrArg Candle.quoteAmount same).symm.trans quoteAmount

end Engine

/-! ## Events -/

namespace Service
open Engine

variable {s : Service} {event : TradeEvent} {nanos : Nat} {tick : Tick}

structure Overflowed (s : Service) (event : TradeEvent) (nanos : Nat) (tick : Tick) : Prop where
  fails : ∀ i, s.fails tick i = true
  accepted : (s.ingestEvent event nanos).2 = .accepted []
  rows : ∀ key, (s.ingestEvent event nanos).1.store.rows.get? key = s.store.rows.get? key
  cached : ∀ key later, s.store.now ≤ later →
    (s.ingestEvent event nanos).1.store.cache.find later key = s.store.cache.find later key
  outboxes : (s.ingestEvent event nanos).1.outboxes = s.outboxes
  metrics : (s.ingestEvent event nanos).1.metrics =
    { s.metrics with
      intervalFailures := s.metrics.intervalFailures + 9
      tradesIngested := s.metrics.tradesIngested + 1
      ingestLatency := s.metrics.ingestLatency.record nanos }

/-- What an accepted event has done whose trade is shown. -/
structure Amounted (s : Service) (event : TradeEvent) (nanos : Nat) (tick : Tick) (report : PublicTrade)
    (candles : List Candle) : Prop where
  trade : ∀ id, s.registry.isSubscribed id (.trade tick.symbol) = true →
    ∃ outbox, s.outbox? id = some outbox ∧ (s.ingestEvent event nanos).1.outbox? id =
      some (outbox.offer
        (s.frame (.push (.trade report)) :: s.candleFrames id tick.symbol candles))
  opened : ∀ i, s.store.rows.get? (keyOf tick i) = none → s.store.outage.rowRead i = none →
    s.store.outage.rowWrite i = none → ∃ row ∈ candles, row.key = keyOf tick i ∧
      (s.ingestEvent event nanos).1.store.rows.get? (keyOf tick i) = some row ∧
      row.volume = tick.quantity ∧ row.quoteAmount = report.amount

theorem ingest_of_nothing (nothing : (s.toEngine.ingest tick nanos).2 = []) :
    s.ingest tick nanos = ({ s with toEngine := (s.toEngine.ingest tick nanos).1 }, []) := by
  unfold Service.ingest
  generalize s.toEngine.ingest tick nanos = done at *
  obtain ⟨engine, written⟩ := done
  obtain rfl : written = [] := nothing
  rfl

theorem ingestEvent_overflowed (tidy : s.store.Tidy) {after : Ingester}
    (screened : s.toIngester.screen event = (after, .admitted tick))
    (full : tick.price.mul tick.quantity = none) : s.Overflowed event nanos tick := by
  obtain ⟨read, window, rfl⟩ := Ingester.screen_admitted screened
  obtain ⟨nothing, spares, metrics⟩ :=
    ingest_overflow tidy (TradeEvent.validate_of_toTick read) full nanos
  let passed : Service := { s with window := window }
  have unshown : passed.publishTrade event tick = passed := by
    unfold publishTrade PublicTrade.ofTick Tick.notional
    rw [full]
    split <;> rfl
  have all : s.ingestEvent event nanos =
      (((passed.publishTrade event tick).ingest tick nanos).1,
        .accepted ((passed.publishTrade event tick).ingest tick nanos).2) := by
    unfold ingestEvent
    rw [screened]
  rw [unshown, ingest_of_nothing (s := passed) nothing] at all
  constructor
  case fails => exact fails_of_overflow full s.toEngine
  case accepted => rw [all]
  case rows =>
    rw [all]
    exact fun key => spares.rows key trivial
  case cached =>
    rw [all]
    exact fun key later order => spares.find trivial order
  case outboxes => rw [all]
  case metrics =>
    rw [all]
    exact metrics

theorem tradeFrames_of_ok {id : ConnectionId} {report : PublicTrade}
    (shown : PublicTrade.ofTick event.payload.tradeId tick event.takerSide = .ok report)
    (subscribed : s.registry.isSubscribed id (.trade tick.symbol) = true) :
    s.tradeFrames id event tick = [s.frame (.push (.trade report))] := by
  unfold PublicTrade.ofTick at shown
  unfold tradeFrames
  cases amount : tick.notional with
  | error cause =>
      rw [amount] at shown
      cases shown
  | ok value =>
      rw [amount] at shown
      cases shown
      exact if_pos subscribed

theorem ingestEvent_amounted (sound : s.calm.Sound) (identified : s.store.Identified)
    (publicTrades : s.publicTrades = true) {candles : List Candle} (read : event.toTick = .ok tick)
    (accepted : (s.ingestEvent event nanos).2 = .accepted candles) {report : PublicTrade}
    (shown : PublicTrade.ofTick event.payload.tradeId tick event.takerSide = .ok report)
    (room : tick.price.mul tick.quantity = some report.amount) :
    s.Amounted event nanos tick report candles := by
  have sound' : (s.ingestEvent event nanos).1.calm.Sound :=
    sound.undergo (.command (.news (.event event nanos)))
  have valid := TradeEvent.validate_of_toTick read
  obtain ⟨same, m, heard⟩ := s.ingestEvent_eq event nanos
  rw [same] at accepted
  obtain ⟨tick', read', rfl, engine⟩ := Ingester.ingestEvent_accepted accepted
  cases read.symm.trans read'
  have store : (s.ingestEvent event nanos).1.store = (s.toEngine.ingest tick nanos).1.store := by
    rw [heard, ← engine]
    rfl
  have own : ∀ row ∈ (s.toEngine.ingest tick nanos).2, row.symbol = tick.symbol := by
    obtain ⟨state, contained, ingested⟩ := ingest_contained identified.toTidy valid nanos
    rw [ingested]
    exact fun row mem => (contained.of_mem mem).1
  constructor
  case trade =>
    intro id subscribed
    have outboxes : (s.ingestEvent event nanos).1.calm.outboxes =
        ((s.toIngester.pushes s.publicTrades (.event event nanos)).flatMap
          (offersOf s.calm.registry)).foldl offerTo s.calm.outboxes := by
      rw [heard]
      rfl
    have offered : (s.ingestEvent event nanos).1.outbox? id = (s.outbox? id).map fun o =>
        o.offer (Seat.wanted (s.registry.wants id)
          (s.toIngester.pushes s.publicTrades (.event event nanos))) :=
      sound.outbox?_offers sound' outboxes id
    rw [wanted_event publicTrades read own accepted id, tradeFrames_of_ok shown subscribed] at offered
    obtain ⟨outbox, found⟩ := sound.exists_outbox_of_subscribed subscribed
    have held : s.outbox? id = some outbox := found
    exact ⟨outbox, held, offered.trans (congrArg (Option.map _) held)⟩
  case opened =>
    intro i missing readable writable
    rw [store]
    exact ingest_opens identified valid room nanos missing readable writable

/-! ## Every accepted event -/

theorem publicTrades_undergo (sound : s.calm.Sound) (trial : Trial) :
    (s.undergo trial).publicTrades = s.publicTrades := by
  cases trial with
  | command command =>
      cases command with
      | act id act =>
          have acted := (sound.act id act).1.publicTrades
          rw [act_calm] at acted
          exact acted
      | news news =>
          obtain ⟨m, heard⟩ := s.hear_eq news
          change (s.hear news).publicTrades = s.publicTrades
          rw [heard]
          rfl
  | ingest tick nanos =>
      obtain ⟨m, ingested⟩ := s.ingest_eq tick nanos
      change (s.ingest tick nanos).1.publicTrades = s.publicTrades
      rw [ingested]
      rfl
  | purge => rfl
  | outage outage => rfl

theorem publicTrades_endure (sound : s.calm.Sound) (trials : List Trial) :
    (s.endure trials).publicTrades = s.publicTrades := by
  have both : (s.endure trials).calm.Sound ∧ (s.endure trials).publicTrades = s.publicTrades :=
    endure_induction (motive := fun t => t.calm.Sound ∧ t.publicTrades = s.publicTrades)
      (fun trial before => ⟨before.1.undergo trial, (publicTrades_undergo before.1 trial).trans before.2⟩)
      ⟨sound, rfl⟩ trials
  exact both.2

/-- Whatever a service went through: of an accepted event, either the amount has no room, the trade
is not shown, and all candles refuse it, so that nothing but counts is changed. Or it has room, the
trade is shown with it to all that want the trade, and it is the amount of every candle that the
trade opens. -/
theorem amounts_agree (settings : Settings) (now : Nat) (wall : Instant) (ids : Nat → Uuid)
    (trials : List Trial) (event : TradeEvent) (nanos : Nat) (candles : List Candle)
    (accepted : (((Gateway.create settings (.empty now wall ids)).service.endure trials).ingestEvent event
      nanos).2 = .accepted candles) :
    let s := (Gateway.create settings (.empty now wall ids)).service.endure trials
    ∃ tick, event.toTick = .ok tick ∧
      match PublicTrade.ofTick event.payload.tradeId tick event.takerSide with
      | .error _ => tick.price.mul tick.quantity = none ∧ candles = [] ∧ s.Overflowed event nanos tick
      | .ok report => tick.price.mul tick.quantity = some report.amount ∧
          s.Amounted event nanos tick report candles := by
  intro s
  have sound : s.calm.Sound := sound_endure settings now wall ids trials
  have identified : s.store.Identified := identified_endure (Store.identified_empty now wall ids) trials
  have start : (Gateway.create settings (.empty now wall ids)).service.calm.Sound :=
    sound_create settings (Clock.reading now) wall ids
  have publicTrades : s.publicTrades = true := publicTrades_endure start trials
  obtain ⟨after, tick, screened⟩ :=
    Ingester.screen_of_accepted ((s.ingestEvent_eq event nanos).1.symm.trans accepted)
  obtain ⟨read, -⟩ := Ingester.screen_admitted screened
  refine ⟨tick, read, ?_⟩
  rcases PublicTrade.ofTick_cases event.payload.tradeId tick event.takerSide with
    ⟨full, cause, unshown⟩ | ⟨report, room, shown⟩
  · rw [unshown]
    have overflowed : s.Overflowed event nanos tick :=
      ingestEvent_overflowed identified.toTidy screened full
    have nothing := overflowed.accepted.symm.trans accepted
    exact ⟨full, (EventOutcome.accepted.inj nothing).symm, overflowed⟩
  · rw [shown]
    exact ⟨room, ingestEvent_amounted sound identified publicTrades read accepted shown room⟩

theorem largest_price_overflowed :
    let one : Decimal := ⟨false, 1, 0, by decide, by decide⟩
    let s := (Gateway.create .standard (.empty 0 .epoch Uuid.serial)).service.endure
      [.ingest ⟨⟨"BTC-USDT"⟩, one, one, .epoch⟩ 0]
    let event : TradeEvent :=
      ⟨"e1", "TRADE_EXECUTED", none, .epoch, none, none,
        ⟨"t1", "BTC/USDT", "79228162514264337593543950335", "2", none, none, none, none, none, none, none,
          none⟩⟩
    ∃ tick, event.toTick = .ok tick ∧ tick.price.mul tick.quantity = none ∧ s.Overflowed event 0 tick := by
  intro one s event
  let tick : Tick :=
    ⟨⟨"BTC-USDT"⟩, ⟨false, 79228162514264337593543950335, 0, by decide, by decide⟩,
      ⟨false, 2, 0, by decide, by decide⟩, .epoch⟩
  have read : event.toTick = .ok tick := by decide +kernel
  have new : (s.window.remember event.eventId).isSome = true := by decide +kernel
  have unshown : PublicTrade.ofTick event.payload.tradeId tick event.takerSide =
      .error (.overflow .notional tick.price tick.quantity) := by decide +kernel
  obtain ⟨window, remembered⟩ := Option.isSome_iff_exists.mp new
  obtain ⟨-, candles, accepted⟩ := ingestEvent_fresh read remembered 0
  obtain ⟨tick', read', agree⟩ := amounts_agree .standard 0 .epoch Uuid.serial
    [.ingest ⟨⟨"BTC-USDT"⟩, one, one, .epoch⟩ 0] event 0 candles accepted
  obtain rfl : tick = tick' := Except.ok.inj (read.symm.trans read')
  rw [unshown] at agree
  exact ⟨tick, read, agree.1, agree.2.2⟩

end Service

end CandleFeed
