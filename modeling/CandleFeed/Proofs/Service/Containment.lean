import CandleFeed.Proofs.Engine.Mended
import CandleFeed.Proofs.Service.Trials

namespace CandleFeed

def Metrics.Sent (m after : Metrics) : Prop :=
  ∃ published enqueued dropped, after =
    { m with framesPublished := published, framesEnqueued := enqueued, framesDropped := dropped }

theorem Metrics.Sent.refl (m : Metrics) : m.Sent m :=
  ⟨_, _, _, rfl⟩

theorem Metrics.Sent.trans {m after last : Metrics} (first : m.Sent after) (second : after.Sent last) :
    m.Sent last := by
  obtain ⟨_, _, _, rfl⟩ := first
  obtain ⟨_, _, _, rfl⟩ := second
  exact ⟨_, _, _, rfl⟩

namespace Service
open Engine Store

variable {s t : Service} {id : ConnectionId}

theorem metrics_deliver (frame : Frame) (state : Service × Report) (handle : Handle) :
    state.1.metrics.Sent (deliver frame state handle).1.metrics := by
  have offered := congrArg (fun s : Service => s.metrics) (offer_eq state.1 handle frame)
  unfold deliver
  generalize state.1.offer handle frame = answer at offered
  obtain ⟨after, refusal⟩ := answer
  have same : after.metrics = state.1.metrics := offered
  rcases refusal with _ | _ | capacity
  · exact ⟨_, _, _, same⟩
  · exact ⟨_, _, _, same⟩
  · exact ⟨_, _, _, congrArg Metrics.frameDropped same⟩

theorem metrics_publishOn (s : Service) (topic : Topic) (payload : Payload) :
    s.metrics.Sent (s.publishOn topic payload).1.metrics := by
  have delivered (frame : Frame) (handles : List Handle) (state : Service × Report) :
      state.1.metrics.Sent (handles.foldl (deliver frame) state).1.metrics := by
    induction handles generalizing state with
    | nil => exact .refl _
    | cons handle rest ih => exact (metrics_deliver frame state handle).trans (ih _)
  unfold publishOn
  dsimp only
  split
  · exact .refl _
  · exact (delivered _ _ (s, _)).trans ⟨_, _, _, rfl⟩

theorem metrics_publish (s : Service) (payload : Payload) :
    s.metrics.Sent (s.publish payload).1.metrics :=
  metrics_publishOn s payload.topic payload

theorem metrics_publishCandles (s : Service) (candles : List Candle) :
    s.metrics.Sent (s.publishCandles candles).metrics := by
  unfold publishCandles
  induction candles generalizing s with
  | nil => exact .refl _
  | cons candle rest ih => exact (metrics_publish s (.kline candle)).trans (ih _)

theorem metrics_ingest (s : Service) (tick : Tick) (nanos : Nat) :
    (s.toEngine.ingest tick nanos).1.metrics.Sent (s.ingest tick nanos).1.metrics :=
  metrics_publishCandles { s with toEngine := (s.toEngine.ingest tick nanos).1 } _

theorem store_ingest (s : Service) (tick : Tick) (nanos : Nat) :
    (s.ingest tick nanos).1.store = (s.toEngine.ingest tick nanos).1.store := by
  obtain ⟨m, ingested⟩ := s.ingest_eq tick nanos
  rw [ingested]
  rfl

theorem store_hear (s : Service) (news : News) : (s.hear news).store = (s.toIngester.hear news).store := by
  obtain ⟨m, heard⟩ := s.hear_eq news
  rw [heard]
  rfl

theorem store_undergo (s : Service) (trial : Trial) :
    (∃ command, (s.undergo trial).store = (s.toEngine.step command).store) ∨
      ∃ outage, (s.undergo trial).store = { s.store with outage := outage } := by
  cases trial with
  | command command =>
      cases command with
      | act id act => exact .inr ⟨s.store.outage, store_act s id act⟩
      | news news =>
          rcases hear_store s.toIngester news with unchanged | ⟨command, stepped, -⟩
          · exact .inr ⟨s.store.outage, (s.store_hear news).trans unchanged⟩
          · exact .inl ⟨command, (s.store_hear news).trans stepped⟩
  | ingest tick nanos => exact .inl ⟨.ingest tick nanos, store_ingest s tick nanos⟩
  | purge => exact .inl ⟨.purge, rfl⟩
  | outage outage => exact .inr ⟨outage, rfl⟩

theorem tidy_undergo (tidy : s.store.Tidy) (trial : Trial) : (s.undergo trial).store.Tidy := by
  rcases s.store_undergo trial with ⟨command, stepped⟩ | ⟨outage, failing⟩
  · exact stepped ▸ tidy_step tidy command
  · exact failing ▸ tidy.of_fewer rfl fun _ _ found => found

theorem tidy_endure (settings : Settings) (now : Nat) (wall : Instant) (ids : Nat → Uuid)
    (trials : List Trial) :
    ((Gateway.create settings (.empty now wall ids)).service.endure trials).store.Tidy := by
  have start : (Gateway.create settings (.empty now wall ids)).service.store.Tidy := tidy_empty now wall ids
  exact endure_induction (motive := fun s => s.store.Tidy)
    (fun trial tidy => tidy_undergo tidy trial) start trials

/-- What a trade does to a service, with the rows that it answers with. -/
structure Contains (s : Service) (tick : Tick) (nanos : Nat) (t : Service) (written : List Candle) :
    Prop where
  intervals : written.map Candle.interval = Interval.all.filter fun i => !s.fails tick i
  unharmed : ∀ healthy, s.Unharmed tick healthy →
    written.map Candle.unstamped =
      ((healthy.ingest tick nanos).2.filter fun row => !s.fails tick row.interval).map
        Candle.unstamped
  mended : ∀ i, s.fails tick i = false → s.Unharmed tick (s.mended tick)
  stored : ∀ row ∈ written,
    row.key = keyOf tick row.interval ∧ t.store.rows.get? row.key = some row
  rows : ∀ key, (∀ i, s.fails tick i = false → key ≠ keyOf tick i) →
    t.store.rows.get? key = s.store.rows.get? key
  cached : ∀ key, (∀ i, s.fails tick i = false → key ≠ keyOf tick i) →
    ∀ later, s.store.now ≤ later → t.store.cache.find later key = s.store.cache.find later key
  queues : ∀ id, t.outbox? id = (s.outbox? id).map fun o =>
    o.offer (Seat.wanted (s.registry.wants id) (written.map fun row => s.push (.kline row)))
  quiet : ∀ id, (∀ i, s.fails tick i = false →
    s.registry.isSubscribed id (.kline tick.symbol i) = false) → t.outbox? id = s.outbox? id
  registry : t.registry = s.registry
  counted : ∃ created updated failed : Nat,
    failed = Interval.all.countP (s.fails tick) ∧ created + updated + failed = 9 ∧
      Metrics.Sent
        { s.metrics with
          intervalFailures := s.metrics.intervalFailures + .ofNat failed
          candlesCreated := s.metrics.candlesCreated + .ofNat created
          candlesUpdated := s.metrics.candlesUpdated + .ofNat updated
          tradesIngested := s.metrics.tradesIngested + 1
          ingestLatency := s.metrics.ingestLatency.record nanos }
        t.metrics

theorem wanted_rows_eq_nil {written : List Candle} (alone : ∀ row ∈ written,
    s.registry.isSubscribed id (.kline row.symbol row.interval) = false) (i : Ingester) :
    Seat.wanted (s.registry.wants id) (written.map fun row => i.push (.kline row)) = [] := by
  unfold Seat.wanted
  rw [List.map_eq_nil_iff, List.filter_eq_nil_iff]
  intro push mem
  obtain ⟨row, held, rfl⟩ := List.mem_map.mp mem
  have topic : (i.push (.kline row)).topic = .kline row.symbol row.interval := rfl
  have unsubscribed := alone row held
  rw [Bool.eq_false_iff, ne_eq, Registry.isSubscribed_iff] at unsubscribed
  rw [topic]
  simpa using unsubscribed

theorem ingest_contains (sound : s.calm.Sound) (tidy : s.store.Tidy) {tick : Tick}
    (valid : tick.validate = .ok ()) (nanos : Nat) :
    Contains s tick nanos (s.ingest tick nanos).1 (s.ingest tick nanos).2 := by
  obtain ⟨state, contained, alone⟩ := ingest_contained tidy valid nanos
  obtain ⟨created, updated, total, metrics⟩ := contained.counted
  have counts := s.metrics_ingest tick nanos
  -- the calm services have the sessions of the others, and a store of which nothing need be known
  have sound' : (s.ingest tick nanos).1.calm.Sound := sound.undergo (.ingest tick nanos)
  obtain ⟨m, ingested⟩ := s.ingest_eq tick nanos
  rw [alone] at ingested counts
  generalize s.ingest tick nanos = done at ingested counts sound'
  subst ingested
  dsimp only at counts sound' ⊢
  have queues (id : ConnectionId) := sound.outbox?_offers sound' rfl id
  have spared {key : CandleKey} (other : ∀ i, s.fails tick i = false → key ≠ keyOf tick i) :
      ∀ i ∈ Interval.all, s.fails tick i = false → key ≠ keyOf tick i := fun i _ => other i
  constructor
  case intervals => exact contained.intervals
  case unharmed =>
    intro healthy unharmed
    obtain ⟨state', whole, other⟩ := ingest_contained unharmed.tidy valid nanos
    have same := contained.written_unharmed whole unharmed
    rw [other]
    exact same
  case mended => exact fun i passed => unharmed_mended tidy passed
  case stored =>
    intro row mem
    obtain ⟨own, -, stored⟩ := contained.written row mem
    exact ⟨own, stored⟩
  case rows => exact fun key other => contained.spares.rows key (spared other)
  case cached => exact fun key other later order => contained.spares.find (spared other) order
  case queues => exact queues
  case quiet =>
    intro id alone
    have nothing : Seat.wanted (s.calm.registry.wants id)
        (state.2.map fun row => s.toIngester.push (.kline row)) = [] := by
      apply wanted_rows_eq_nil
      intro row mem
      obtain ⟨symbol, -, passed⟩ := contained.of_mem mem
      rw [symbol]
      exact alone row.interval passed
    have same := queues id
    rw [nothing] at same
    exact same.trans Option.map_id'
  case registry => rfl
  case counted =>
    rw [metrics] at counts
    refine ⟨created, updated, _, rfl, ?_, counts⟩
    rw [total]
    exact contained.length_add

theorem failures_contained (settings : Settings) (now : Nat) (wall : Instant) (ids : Nat → Uuid)
    (trials : List Trial) (tick : Tick) (nanos : Nat) :
    let s := (Gateway.create settings (.empty now wall ids)).service.endure trials
    (tick.validate = .ok () →
      Contains s tick nanos (s.ingest tick nanos).1 (s.ingest tick nanos).2) ∧
    ∀ cause, tick.validate = .error cause →
      s.ingest tick nanos = (s.setMetrics Metrics.rejectedTrade, []) := by
  intro s
  refine ⟨?_, ?_⟩
  · intro valid
    exact ingest_contains (sound_endure settings now wall ids trials)
      (tidy_endure settings now wall ids trials) valid nanos
  · intro cause invalid
    unfold Service.ingest
    rw [ingest_of_invalid invalid]
    rfl

theorem mixed_failures_contained :
    let largest : Decimal := ⟨false, 79228162514264337593543950335, 0, by decide, by decide⟩
    let one : Decimal := ⟨false, 1, 0, by decide, by decide⟩
    let later : Instant := ⟨3600, 0, by decide, by decide, by decide⟩
    let outage : Outage :=
      { cacheRead := some "down"
        rowRead := fun i => if i = .fifteenMinutes then some "down" else none
        rowWrite := fun i => if i = .fiveMinutes then some "down" else none }
    let s := (Gateway.create .standard (.empty 0 .epoch Uuid.serial)).service.endure
      [.ingest ⟨⟨"BTC-USDT"⟩, one, largest, .epoch⟩ 0, .outage outage]
    let tick : Tick := ⟨⟨"BTC-USDT"⟩, one, one, later⟩
    Contains s tick 0 (s.ingest tick 0).1 (s.ingest tick 0).2 ∧
      (s.ingest tick 0).2.map Candle.interval = [.oneMinute, .thirtyMinutes, .oneHour] := by
  intro largest one later outage s tick
  have contains := (failures_contained .standard 0 .epoch Uuid.serial
    [.ingest ⟨⟨"BTC-USDT"⟩, one, largest, .epoch⟩ 0, .outage outage] tick 0).1 rfl
  refine ⟨contains, contains.intervals.trans ?_⟩
  decide +kernel

end Service

end CandleFeed
