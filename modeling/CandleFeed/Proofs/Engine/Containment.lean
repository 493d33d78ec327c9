import CandleFeed.Proofs.Engine.Refinement
import CandleFeed.Proofs.Store.Tidy

namespace CandleFeed.Engine
open Store

def current (e : Engine) (tick : Tick) (i : Interval) : Candle :=
  (e.store.cached? (keyOf tick i)).getD
    (Candle.base (keyOf tick i) tick (e.store.rows.get? (keyOf tick i)))

def unread (e : Engine) (tick : Tick) (i : Interval) : Bool :=
  (e.store.cached? (keyOf tick i)).isNone && (e.store.outage.rowRead i).isSome

def overflows (e : Engine) (tick : Tick) (i : Interval) : Bool :=
  !((e.current tick i).applyTrade tick.price tick.quantity).isOk

def unwritten (e : Engine) (i : Interval) : Bool :=
  (e.store.outage.rowWrite i).isSome

def fails (e : Engine) (tick : Tick) (i : Interval) : Bool :=
  e.unread tick i || e.overflows tick i || e.unwritten i

variable {e e' : Engine} {tick : Tick} {i : Interval}

theorem current_of_spares {spared : CandleKey → Prop} (spares : e.store.Spares e'.store spared)
    (mem : spared (keyOf tick i)) : e'.current tick i = e.current tick i := by
  unfold current
  rw [spares.cached? mem, spares.rows _ mem]

theorem fails_of_spares {spared : CandleKey → Prop} (spares : e.store.Spares e'.store spared)
    (mem : spared (keyOf tick i)) : e'.fails tick i = e.fails tick i := by
  unfold fails unread overflows unwritten
  rw [spares.cached? mem, current_of_spares spares mem, spares.outage]

theorem current_spec (tidy : e.store.Tidy) (positive : .zero < tick.price) (i : Interval) :
    (e.current tick i).key = keyOf tick i ∧ (e.current tick i).Storable := by
  unfold current
  cases found : e.store.cached? (keyOf tick i) with
  | some candle => exact tidy.of_cached? found
  | none =>
      cases present : e.store.rows.get? (keyOf tick i) with
      | some row => exact ⟨tidy.keyed _ row present, tidy.storable _ row present⟩
      | none => exact ⟨rfl, Candle.storable_openBucket _ _ _ positive⟩

theorem exists_traded (passed : e.fails tick i = false) :
    ∃ traded, (e.current tick i).applyTrade tick.price tick.quantity = .ok traded := by
  simp only [fails, Bool.or_eq_false_iff] at passed
  have room := passed.1.2
  unfold overflows at room
  cases outcome : (e.current tick i).applyTrade tick.price tick.quantity with
  | error cause =>
      rw [outcome] at room
      cases room
  | ok traded => exact ⟨traded, rfl⟩

theorem found_current (coherent : e.store.Coherent) (tick : Tick) (i : Interval) :
    let key := keyOf tick i
    Candle.Found (.openBucket key.symbol key.interval (key.interval.bucket tick.time) tick.price)
      (e.store.rows.get? key) (e.current tick i) := by
  dsimp only
  unfold current
  rcases coherent.cached?_cases (keyOf tick i) with missing | ⟨row, present, cached⟩
  · rw [missing]
    cases e.store.rows.get? (keyOf tick i) with
    | none => rfl
    | some row => exact Or.inl rfl
  · rw [cached, present]
    exact Or.inr rfl

theorem lookup_cases (e : Engine) (tick : Tick) (i : Interval) :
    let opened := e.store.getOrCreate tick.symbol i (i.bucket tick.time) tick.price
    e.unread tick i = true ∧ (∃ after cause, opened = (after, .error cause)) ∨
      e.unread tick i = false ∧ ∃ after origin, opened = (after, .ok (e.current tick i, origin)) := by
  have found := e.store.getOrCreate_found tick.symbol i (i.bucket tick.time) tick.price
  unfold unread current keyOf
  rcases found with ⟨candle, cached, found⟩ | ⟨cached, ⟨cause, down, found⟩ | ⟨answers, found⟩⟩
  · exact .inr ⟨by rw [cached]; rfl, _, .cache, Prod.ext rfl (by rw [cached]; exact found)⟩
  · exact .inl ⟨by rw [cached, down]; rfl, _, _, Prod.ext rfl found⟩
  · refine .inr ⟨by rw [answers]; exact Bool.and_false _, ?_⟩
    rcases found with ⟨row, present, found⟩ | ⟨missing, found⟩
    · exact ⟨_, .durable, Prod.ext rfl (by rw [cached, present]; exact found)⟩
    · exact ⟨_, .created, Prod.ext rfl (by rw [cached, missing]; exact found)⟩

/-! ## One interval -/

structure Untouched (e e' : Engine) : Prop where
  tidy : e'.store.Tidy
  spares : e.store.Spares e'.store fun _ => True
  metrics : e'.metrics = e.metrics

structure Wrote (e : Engine) (tick : Tick) (candle row : Candle) (e' : Engine) : Prop where
  tidy : e'.store.Tidy
  spares : e.store.Spares e'.store fun key => key ≠ candle.key
  key : row.key = candle.key
  folded : (candle.applyTrade tick.price tick.quantity).map Candle.unstamped = .ok row.unstamped
  stored : e'.store.rows.get? row.key = some row
  metrics : e'.metrics = e.metrics.candleCreated ∨ e'.metrics = e.metrics.candleUpdated

theorem store?_outcome (tidy : e.store.Tidy) (positive : .zero < tick.price) {candle : Candle}
    (storable : candle.Storable) (origin : Origin) :
    ((candle.applyTrade tick.price tick.quantity).isOk = false ∨
        e.unwritten candle.interval = true) ∧
        (∃ cause, e.store? tick candle origin = .error cause) ∨
      (candle.applyTrade tick.price tick.quantity).isOk = true ∧
        e.unwritten candle.interval = false ∧
        ∃ e' row, e.store? tick candle origin = .ok (e', row) ∧ Wrote e tick candle row e' := by
  unfold store?
  cases outcome : candle.applyTrade tick.price tick.quantity with
  | error cause => exact .inl ⟨.inl rfl, _, rfl⟩
  | ok traded =>
      have own := Candle.key_applyTrade outcome
      have interval : traded.interval = candle.interval := congrArg CandleKey.interval own
      dsimp only
      cases written : e.store.persist traded (e.openTtl traded.interval) with
      | error cause =>
          refine .inl ⟨.inr ?_, _, rfl⟩
          cases refused : e.unwritten candle.interval with
          | true => rfl
          | false =>
              have taken : e.store.outage.rowWrite traded.interval = none := by
                rw [interval]
                exact Option.isNone_iff_eq_none.mp (by simpa [unwritten] using refused)
              obtain ⟨after, row, ok⟩ : ∃ after row,
                  e.store.persist traded (e.openTtl traded.interval) = .ok (after, row) :=
                persist_eq_ok_iff.mpr taken
              rw [written] at ok
              cases ok
      | ok done =>
          obtain ⟨after, row⟩ := done
          obtain ⟨answers, -⟩ := persist_parts written
          rw [interval] at answers
          obtain ⟨made, -⟩ := rows_persist written
          have key : row.key = traded.key := by rw [made, Rows.key_rowFor]
          refine .inr ⟨rfl, congrArg Option.isSome answers, _, row, rfl, ?_⟩
          constructor
          case tidy => exact tidy.persist (storable.applyTrade positive outcome) written
          case spares => exact own ▸ spares_persist written
          case key => exact key.trans own
          case folded =>
            rw [outcome, made]
            rfl
          case stored => exact key ▸ get?_rows_persist written
          case metrics =>
            cases origin
            · exact .inr rfl
            · exact .inr rfl
            · exact .inl rfl

theorem aggregate_outcome (tidy : e.store.Tidy) (positive : .zero < tick.price) (i : Interval) :
    e.fails tick i = true ∧ (∃ cause, (e.aggregate tick i).2 = .error cause) ∧
        Untouched e (e.aggregate tick i).1 ∨
      e.fails tick i = false ∧ ∃ row, (e.aggregate tick i).2 = .ok row ∧
        Wrote e tick (e.current tick i) row (e.aggregate tick i).1 := by
  have spares := e.store.spares_getOrCreate tick.symbol i (i.bucket tick.time) tick.price
  have kept := tidy.getOrCreate tick.symbol i (i.bucket tick.time) tick.price
  obtain ⟨keyed, storable⟩ := current_spec tidy positive i
  have interval : (e.current tick i).interval = i := congrArg CandleKey.interval keyed
  rcases lookup_cases e tick i with ⟨failed, after, cause, opened⟩ | ⟨read, after, origin, opened⟩
  · rw [opened] at spares kept
    rw [aggregate_of_error opened]
    refine .inl ⟨?_, ⟨_, rfl⟩, kept, spares, rfl⟩
    simp [fails, failed]
  · rw [opened] at spares kept
    rw [aggregate_of_ok opened]
    have stored := store?_outcome (e := { e.touch tick.symbol i with store := after }) kept positive
      storable origin
    have outage : unwritten { e.touch tick.symbol i with store := after } i = e.unwritten i := by
      unfold unwritten
      exact congrArg (fun o => (Outage.rowWrite o i).isSome) spares.outage
    rw [interval, outage] at stored
    rcases stored with ⟨failed, cause, refused⟩ | ⟨room, taken, final, row, ok, wrote⟩
    · rw [refused]
      refine .inl ⟨?_, ⟨_, rfl⟩, kept, spares, rfl⟩
      rcases failed with full | refusing
      · simp [fails, overflows, full]
      · simp [fails, refusing]
    · rw [ok]
      refine .inr ⟨by simp [fails, read, overflows, room, taken], row, rfl, ?_⟩
      exact { wrote with spares := spares.trans wrote.spares fun key other => ⟨trivial, other⟩ }

/-! ## All of them -/

structure Contained (e : Engine) (tick : Tick) (done : List Interval) (state : Engine × List Candle) :
    Prop where
  tidy : state.1.store.Tidy
  spares : e.store.Spares state.1.store fun key =>
    ∀ i ∈ done, e.fails tick i = false → key ≠ keyOf tick i
  intervals : state.2.map Candle.interval = done.filter fun i => !e.fails tick i
  written : ∀ row ∈ state.2, row.key = keyOf tick row.interval ∧
    ((e.current tick row.interval).applyTrade tick.price tick.quantity).map Candle.unstamped =
      .ok row.unstamped ∧
    state.1.store.rows.get? row.key = some row
  counted : ∃ created updated, created + updated = state.2.length ∧
    state.1.metrics =
      { e.metrics with
        intervalFailures := e.metrics.intervalFailures + .ofNat (done.countP (e.fails tick))
        candlesCreated := e.metrics.candlesCreated + .ofNat created
        candlesUpdated := e.metrics.candlesUpdated + .ofNat updated }

section
variable {done : List Interval} {state : Engine × List Candle} (contained : Contained e tick done state)
include contained

theorem Contained.of_mem {row : Candle} (mem : row ∈ state.2) :
    row.symbol = tick.symbol ∧ row.interval ∈ done ∧ e.fails tick row.interval = false := by
  obtain ⟨own, -⟩ := contained.written row mem
  have passed : row.interval ∈ done.filter fun i => !e.fails tick i :=
    contained.intervals ▸ List.mem_map_of_mem mem
  obtain ⟨within, passed⟩ := List.mem_filter.mp passed
  exact ⟨congrArg CandleKey.symbol own, within, by simpa using passed⟩

theorem Contained.length_add : state.2.length + done.countP (e.fails tick) = done.length := by
  have length := congrArg List.length contained.intervals
  rw [List.length_map, ← List.countP_eq_length_filter] at length
  have both := List.length_eq_countP_add_countP (e.fails tick) (l := done)
  simp only [Bool.not_eq_true, Bool.decide_eq_false] at both
  omega

theorem Contained.next_failed (failed : e.fails tick i = true) {cause : AggregationError}
    (refused : (state.1.aggregate tick i).2 = .error cause)
    (untouched : Untouched state.1 (state.1.aggregate tick i).1) :
    Contained e tick (done ++ [i]) (aggregateNext tick state i) := by
  obtain ⟨created, updated, total, metrics⟩ := contained.counted
  rw [aggregateNext_error refused]
  constructor
  case tidy => exact untouched.tidy
  case spares =>
    refine contained.spares.trans untouched.spares ?_
    intro key other
    exact ⟨fun j mem => other j (List.mem_append_left _ mem), trivial⟩
  case intervals => simp [contained.intervals, failed]
  case written =>
    intro row mem
    obtain ⟨own, folded, stored⟩ := contained.written row mem
    exact ⟨own, folded, (untouched.spares.rows _ trivial).trans stored⟩
  case counted =>
    refine ⟨created, updated, total, ?_⟩
    dsimp only
    rw [untouched.metrics, metrics]
    simp [Metrics.intervalFailure, failed, UInt64.ofNat_add, UInt64.add_assoc]

theorem Contained.next_written (passed : e.fails tick i = false) (new : i ∉ done) {row : Candle}
    (keyed : (e.current tick i).key = keyOf tick i) (ok : (state.1.aggregate tick i).2 = .ok row)
    (wrote : Wrote state.1 tick (e.current tick i) row (state.1.aggregate tick i).1) :
    Contained e tick (done ++ [i]) (aggregateNext tick state i) := by
  obtain ⟨created, updated, total, metrics⟩ := contained.counted
  have own : row.key = keyOf tick i := wrote.key.trans keyed
  have interval : row.interval = i := congrArg CandleKey.interval own
  rw [aggregateNext_ok ok]
  constructor
  case tidy => exact wrote.tidy
  case spares =>
    refine contained.spares.trans wrote.spares ?_
    intro key other
    refine ⟨fun j mem => other j (List.mem_append_left _ mem), ?_⟩
    rw [keyed]
    exact other i (List.mem_append_right _ (List.mem_singleton_self i)) passed
  case intervals => simp [contained.intervals, passed, interval]
  case written =>
    intro old mem
    rcases List.mem_append.mp mem with earlier | last
    · obtain ⟨known, folded, stored⟩ := contained.written old earlier
      have apart : old.key ≠ (e.current tick i).key := by
        rw [keyed]
        intro same
        obtain rfl : old.interval = i := congrArg CandleKey.interval same
        exact new (contained.of_mem earlier).2.1
      exact ⟨known, folded, (wrote.spares.rows _ apart).trans stored⟩
    · rw [List.mem_singleton.mp last, interval]
      exact ⟨own, wrote.folded, wrote.stored⟩
  case counted =>
    dsimp only
    rcases wrote.metrics with new | old
    · refine ⟨created + 1, updated, by simp [← total]; omega, ?_⟩
      rw [new, metrics]
      simp [Metrics.candleCreated, passed, UInt64.ofNat_add, UInt64.add_assoc]
    · refine ⟨created, updated + 1, by simp [← total]; omega, ?_⟩
      rw [old, metrics]
      simp [Metrics.candleUpdated, passed, UInt64.ofNat_add, UInt64.add_assoc]

theorem Contained.next (positive : .zero < tick.price) (new : i ∉ done) :
    Contained e tick (done ++ [i]) (aggregateNext tick state i) := by
  -- the interval finds what it would have found first of all, as none of the others has its key
  have spared : ∀ j ∈ done, e.fails tick j = false → keyOf tick i ≠ keyOf tick j := by
    rintro j mem - same
    obtain rfl : i = j := congrArg CandleKey.interval same
    exact new mem
  have fails := fails_of_spares contained.spares spared
  have current := current_of_spares contained.spares spared
  obtain ⟨keyed, -⟩ := current_spec contained.tidy positive i
  have outcome := aggregate_outcome contained.tidy positive i
  rw [fails, current] at outcome
  rw [current] at keyed
  rcases outcome with ⟨failed, ⟨cause, refused⟩, untouched⟩ | ⟨passed, row, ok, wrote⟩
  · exact contained.next_failed failed refused untouched
  · exact contained.next_written passed new keyed ok wrote

end

theorem contained_start (tidy : e.store.Tidy) (tick : Tick) : Contained e tick [] (e, []) where
  tidy := tidy
  spares := .refl _ _
  intervals := rfl
  written _ mem := by cases mem
  counted := ⟨0, 0, rfl, by simp⟩

theorem ingest_contained (tidy : e.store.Tidy) (valid : tick.validate = .ok ()) (nanos : Nat) :
    ∃ state, Contained e tick Interval.all state ∧
      e.ingest tick nanos =
        ({ state.1 with metrics := state.1.metrics.tradeIngested nanos }, state.2) :=
  ingest_induction (contained_start tidy tick)
    (fun new contained => contained.next (price_pos valid) new) valid nanos

/-! ## What is true of the store all along -/

theorem tidy_markCompleted (tidy : e.store.Tidy) (key : CandleKey) :
    (e.markCompleted key).1.store.Tidy := by
  unfold markCompleted
  dsimp only
  split
  · exact tidy
  · exact tidy
  · rename_i row found
    have present : e.store.rows.get? key = some row := get?_of_getRow found
    have stored := tidy.storable key row present
    have storable : Candle.Storable { row with completed := true } := { stored with }
    split
    · exact tidy
    · rename_i written
      exact tidy.persist storable written

theorem tidy_step (tidy : e.store.Tidy) (command : Command) :
    (e.step command).store.Tidy := by
  cases command with
  | ingest tick nanos =>
      change (e.ingest tick nanos).1.store.Tidy
      cases valid : tick.validate with
      | error cause =>
          rw [ingest_of_invalid valid]
          exact tidy
      | ok =>
          obtain ⟨state, contained, ingested⟩ := ingest_contained tidy valid nanos
          rw [ingested]
          exact contained.tidy
  | complete key => exact tidy_markCompleted tidy key
  | advance span wall => exact tidy.of_fewer rfl fun _ _ found => found
  | purge => exact tidy.of_fewer rfl fun _ _ found => get?_purge found

end CandleFeed.Engine
