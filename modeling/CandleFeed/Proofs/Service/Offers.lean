import CandleFeed.Proofs.Service.Market
import CandleFeed.Service.Trading

/-!
# What news does to a service

On news the ingester does what it does alone, and its frames are offered to the subscribers of their
topics, one after the other. Nothing else changes but the counts.
-/

namespace CandleFeed.Service

def hear (s : Service) : News → Service
  | .event event nanos => (s.ingestEvent event nanos).1
  | .complete key => (s.complete key).1
  | .publish topic payload => (s.publishOn topic payload).1
  | .advance span wall => { s with store := { s.store.advance span with wall := wall } }

def offersOf (r : Registry) (push : Push) : List (Handle × Frame) :=
  (r.subscribers push.topic).map fun handle => (handle, push.frame)

def offers (s : Service) (news : News) : List (Handle × Frame) :=
  (s.toIngester.pushes s.publicTrades news).flatMap (offersOf s.registry)

def offerTo (outboxes : Table Nat (Outbox Frame)) (offer : Handle × Frame) :
    Table Nat (Outbox Frame) :=
  outboxes.modify offer.1.outbox fun outbox => (outbox.enqueue offer.2).1

def sending (s : Service) (offers : List (Handle × Frame)) (m : Metrics) : Service :=
  { s with outboxes := offers.foldl offerTo s.outboxes, metrics := m }

theorem offer_eq (s : Service) (handle : Handle) (frame : Frame) :
    (s.offer handle frame).1 = s.sending [(handle, frame)] s.metrics := by
  unfold offer sending
  rw [List.foldl_cons, List.foldl_nil, offerTo, Table.modify]
  split
  · rename_i missing
    rw [missing]
  · rename_i outbox found
    rw [found]
    rfl

theorem sending_sending (s : Service) (first second : List (Handle × Frame)) (m m' : Metrics) :
    (s.sending first m).sending second m' = s.sending (first ++ second) m' := by
  unfold sending
  rw [List.foldl_append]

theorem deliver_eq (frame : Frame) (state : Service × Report) (handle : Handle) :
    ∃ m, (deliver frame state handle).1 = state.1.sending [(handle, frame)] m := by
  have offered := offer_eq state.1 handle frame
  unfold deliver
  generalize state.1.offer handle frame = answer at offered
  obtain ⟨after, refusal⟩ := answer
  obtain rfl : after = _ := offered
  rcases refusal with _ | _ | capacity
  · exact ⟨_, rfl⟩
  · exact ⟨_, rfl⟩
  · exact ⟨state.1.metrics.frameDropped, rfl⟩

theorem foldl_deliver_eq (frame : Frame) (handles : List Handle) (state : Service × Report) :
    ∃ m, (handles.foldl (deliver frame) state).1 =
      state.1.sending (handles.map fun handle => (handle, frame)) m := by
  induction handles generalizing state with
  | nil => exact ⟨state.1.metrics, rfl⟩
  | cons handle rest ih =>
      obtain ⟨m, first⟩ := deliver_eq frame state handle
      obtain ⟨m', others⟩ := ih (deliver frame state handle)
      refine ⟨m', ?_⟩
      rw [List.foldl_cons, others, first, sending_sending]
      rfl

theorem publishOn_eq (s : Service) (topic : Topic) (payload : Payload) :
    ∃ m, (s.publishOn topic payload).1 =
      s.sending (offersOf s.registry ⟨topic, s.frame (.push payload)⟩) m := by
  unfold publishOn offersOf
  dsimp only
  split
  · rename_i nobody
    rw [nobody]
    exact ⟨s.metrics, rfl⟩
  · obtain ⟨m, sent⟩ := foldl_deliver_eq (s.frame (.push payload)) (s.registry.subscribers topic)
      (s, ⟨(s.registry.subscribers topic).length, 0, 0⟩)
    generalize (s.registry.subscribers topic).foldl (deliver (s.frame (.push payload))) _ = done at sent
    obtain ⟨after, report⟩ := done
    obtain rfl : after = _ := sent
    exact ⟨m.published (.ofNat report.delivered), rfl⟩

def publishAll (s : Service) (payloads : List Payload) : Service :=
  payloads.foldl (fun s payload => (s.publish payload).1) s

theorem publishAll_eq (s : Service) (payloads : List Payload) :
    ∃ m, s.publishAll payloads =
      s.sending ((payloads.map s.toIngester.push).flatMap (offersOf s.registry)) m := by
  induction payloads generalizing s with
  | nil => exact ⟨s.metrics, rfl⟩
  | cons payload rest ih =>
      obtain ⟨m, first⟩ : ∃ m, (s.publish payload).1 =
          s.sending (offersOf s.registry (s.toIngester.push payload)) m :=
        publishOn_eq s payload.topic payload
      obtain ⟨m', others⟩ := ih (s.publish payload).1
      refine ⟨m', ?_⟩
      change (s.publish payload).1.publishAll rest = _
      rw [others, first, List.map_cons, List.flatMap_cons, ← sending_sending s _ _ m]
      rfl

theorem publishCandles_eq (s : Service) (candles : List Candle) :
    s.publishCandles candles = s.publishAll (candles.map .kline) := by
  unfold publishCandles publishAll
  rw [List.foldl_map]

theorem publishTrade_eq {s : Service} {event : TradeEvent} {tick : Tick}
    (read : event.toTick = .ok tick) :
    s.publishTrade event tick = s.publishAll (if s.publicTrades then event.report else []) := by
  unfold publishTrade TradeEvent.report
  rw [read]
  split
  · dsimp only
    cases PublicTrade.ofTick event.payload.tradeId tick event.takerSide <;> rfl
  · rfl

theorem sending_publishAll {s : Service} {i : Ingester} (now : i.store.wall = s.store.wall)
    (before : List (Handle × Frame)) (m : Metrics) (payloads : List Payload) :
    ∃ m', (s.sending before m).publishAll payloads =
      s.sending (before ++ (payloads.map i.push).flatMap (offersOf s.registry)) m' := by
  obtain ⟨m', sent⟩ := publishAll_eq (s.sending before m) payloads
  refine ⟨m', ?_⟩
  have push : (s.sending before m).toIngester.push = i.push := by
    funext payload
    unfold Ingester.push
    rw [now]
    rfl
  rw [sent, sending_sending, push]
  rfl

theorem ingest_sending (s : Service) (before : List (Handle × Frame)) (m : Metrics) (tick : Tick)
    (nanos : Nat) :
    ∃ m', (s.sending before m).ingest tick nanos =
      (({ s with toEngine := (s.toEngine.ingest tick nanos).1 } : Service).sending
          (before ++ (((s.toEngine.ingest tick nanos).2.map Payload.kline).map s.toIngester.push).flatMap
            (offersOf s.registry)) m',
        (s.toEngine.ingest tick nanos).2) := by
  obtain ⟨m', counted⟩ := s.toEngine.ingest_counting m tick nanos
  have now : s.store.wall = (s.toEngine.ingest tick nanos).1.store.wall :=
    (s.toEngine.wall_ingest tick nanos).symm
  have same : (s.sending before m).toEngine = s.toEngine.counting m := rfl
  unfold ingest
  dsimp only
  rw [same, counted, publishCandles_eq]
  generalize s.toEngine.ingest tick nanos = done at now
  obtain ⟨engine, written⟩ := done
  obtain ⟨m'', sent⟩ := sending_publishAll (s := { s with toEngine := engine })
    (i := s.toIngester) now before m' (written.map Payload.kline)
  exact ⟨m'', congrArg (·, written) sent⟩

theorem ingest_eq (s : Service) (tick : Tick) (nanos : Nat) :
    ∃ m, s.ingest tick nanos =
      (({ s with toEngine := (s.toEngine.ingest tick nanos).1 } : Service).sending
          (((s.toEngine.ingest tick nanos).2.map fun row => s.toIngester.push (.kline row)).flatMap
            (offersOf s.registry)) m,
        (s.toEngine.ingest tick nanos).2) := by
  have ingested := s.ingest_sending [] s.metrics tick nanos
  rw [List.map_map, List.nil_append] at ingested
  exact ingested

def heard (s : Service) (i : Ingester) (offers : List (Handle × Frame)) (m : Metrics) : Service :=
  { s with toIngester := i.counting m, outboxes := offers.foldl offerTo s.outboxes }

theorem ingestEvent_eq (s : Service) (event : TradeEvent) (nanos : Nat) :
    (s.ingestEvent event nanos).2 = (s.toIngester.ingestEvent event nanos).2 ∧
      ∃ m, (s.ingestEvent event nanos).1 =
        s.heard (s.toIngester.ingestEvent event nanos).1 (s.offers (.event event nanos)) m := by
  unfold offers Ingester.pushes
  dsimp only
  rcases screened : s.toIngester.screen event with ⟨after, cause | _ | tick⟩
  · have all : s.ingestEvent event nanos = ({ s with toIngester := after }, .rejected cause) := by
      unfold ingestEvent
      rw [screened]
    rw [Ingester.ingestEvent_rejected screened, all]
    exact ⟨rfl, after.metrics, rfl⟩
  · have all : s.ingestEvent event nanos = ({ s with toIngester := after }, .duplicate) := by
      unfold ingestEvent
      rw [screened]
    rw [Ingester.ingestEvent_duplicate screened, all]
    exact ⟨rfl, after.metrics, rfl⟩
  · obtain ⟨read, window, rfl⟩ := Ingester.screen_admitted screened
    let passed : Service := { s with window := window }
    obtain ⟨m, reported⟩ := publishAll_eq passed (if s.publicTrades then event.report else [])
    obtain ⟨m', traded⟩ := ingest_sending passed
      (((if s.publicTrades then event.report else []).map passed.toIngester.push).flatMap
        (offersOf passed.registry)) m tick nanos
    rw [← reported] at traded
    have all : s.ingestEvent event nanos =
        (((passed.publishAll (if s.publicTrades then event.report else [])).ingest tick nanos).1,
          .accepted
            ((passed.publishAll (if s.publicTrades then event.report else [])).ingest tick nanos).2) := by
      unfold ingestEvent
      rw [screened, ← show passed.publicTrades = s.publicTrades from rfl, ← publishTrade_eq read]
    rw [Ingester.ingestEvent_admitted screened, all, traded]
    refine ⟨rfl, m', ?_⟩
    unfold EventOutcome.published
    rw [List.map_append, List.flatMap_append]
    rfl

theorem complete_eq (s : Service) (key : CandleKey) :
    ∃ m, (s.complete key).1 =
      s.heard (s.toIngester.hear (.complete key)) (s.offers (.complete key)) m := by
  have now := s.toEngine.wall_markCompleted key
  unfold complete offers Ingester.pushes Ingester.hear
  dsimp only
  generalize s.toEngine.markCompleted key = done at now
  rcases done with ⟨engine, cause | _ | row⟩
  · exact ⟨engine.metrics, rfl⟩
  · exact ⟨engine.metrics, rfl⟩
  · obtain ⟨m, sent⟩ := sending_publishAll (s := { s with toEngine := engine })
      (i := s.toIngester) now.symm [] engine.metrics [.kline row]
    refine ⟨m, ?_⟩
    dsimp only
    rw [publishCandles_eq]
    exact sent

theorem complete_outcome (s : Service) (key : CandleKey) :
    (s.complete key).2 = (s.toEngine.markCompleted key).2 := by
  unfold complete
  rcases s.toEngine.markCompleted key with ⟨engine, cause | _ | row⟩ <;> rfl

/-- On news the ingester does what it does alone, and its frames are offered: this is all. -/
theorem hear_eq (s : Service) (news : News) :
    ∃ m, s.hear news = s.heard (s.toIngester.hear news) (s.offers news) m := by
  cases news with
  | event event nanos => exact (ingestEvent_eq s event nanos).2
  | complete key => exact complete_eq s key
  | publish topic payload =>
      obtain ⟨m, sent⟩ := publishOn_eq s topic payload
      refine ⟨m, sent.trans ?_⟩
      unfold sending heard offers Ingester.pushes
      dsimp only
      rw [List.flatMap_singleton]
      rfl
  | advance span wall => exact ⟨s.metrics, rfl⟩

end CandleFeed.Service
