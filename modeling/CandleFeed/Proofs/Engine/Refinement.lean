import CandleFeed.Proofs.Engine.Reference
import CandleFeed.Proofs.Store.Coherent

namespace CandleFeed

def Store.view (s : Store) (key : CandleKey) : Option Candle :=
  (s.rows.get? key).map Candle.unstamped

theorem Interval.nodup_all : all.Nodup := by
  decide

theorem Tick.validate_of_isOk {tick : Tick} (valid : tick.validate.isOk = true) :
    tick.validate = .ok () := by
  cases checked : tick.validate with
  | ok => rfl
  | error cause =>
      rw [checked] at valid
      cases valid

namespace Engine
open Store

structure Follows (s : Store) (change : CandleKey → Option Candle → Option Candle)
    (after : Store) : Prop where
  coherent : after.Coherent
  view : ∀ key, after.view key = change key (s.view key)

theorem Follows.trans {s s' s'' : Store} {change change' : CandleKey → Option Candle → Option Candle}
    (first : Follows s change s') (second : Follows s' change' s'') :
    Follows s (fun key row => change' key (change key row)) s'' where
  coherent := second.coherent
  view key := by rw [second.view, first.view]

theorem view_persist {s : Store} (coherent : s.Coherent) {candle : Candle}
    (storable : candle.Storable) (ttl : Lifetime) :
    ∃ after row, s.persist candle ttl = .ok (after, row) ∧ after.Coherent ∧ ∀ key,
      after.view key = if key = candle.key then some candle.unstamped else s.view key := by
  obtain ⟨after, row, ok, kept, rows⟩ := coherent.persist storable ttl
  refine ⟨after, row, ok, kept, ?_⟩
  intro key
  unfold view
  rw [rows, Rows.get?_upsert]
  split <;> rfl

/-! ## A trade -/

def traded (tick : Tick) (intervals : List Interval) (key : CandleKey) (row : Option Candle) :
    Option Candle :=
  if key.interval ∈ intervals ∧ tick.Falls key then Candle.after key row (.trade tick) else row

def keyOf (tick : Tick) (interval : Interval) : CandleKey :=
  ⟨tick.symbol, interval, (interval.bucket tick.time).opening⟩

theorem traded_singleton (tick : Tick) (interval : Interval) (key : CandleKey)
    (row : Option Candle) :
    traded tick [interval] key row =
      if key = keyOf tick interval then Candle.after key row (.trade tick) else row := by
  have touches : key.interval ∈ [interval] ∧ tick.Falls key ↔ key = keyOf tick interval := by
    obtain ⟨symbol, own, openTime⟩ := key
    simp only [List.mem_singleton, Tick.Falls, keyOf, CandleKey.mk.injEq]
    constructor
    · rintro ⟨rfl, rfl, rfl⟩
      exact ⟨rfl, rfl, rfl⟩
    · rintro ⟨rfl, rfl, rfl⟩
      exact ⟨rfl, rfl, rfl⟩
  unfold traded
  by_cases here : key = keyOf tick interval
  · rw [if_pos here, if_pos (touches.mpr here)]
  · rw [if_neg here, if_neg fun touched => here (touches.mp touched)]

theorem getOrCreate_spec {e : Engine} (coherent : e.store.Coherent) {tick : Tick}
    (positive : .zero < tick.price) (interval : Interval) :
    ∃ after candle origin,
      e.store.getOrCreate tick.symbol interval (interval.bucket tick.time) tick.price =
        (after, .ok (candle, origin)) ∧
      after.Coherent ∧ after.rows = e.store.rows ∧ candle.Storable ∧
      candle.key = keyOf tick interval ∧
      Candle.after (keyOf tick interval) (e.store.view (keyOf tick interval)) (.trade tick) =
        match candle.applyTrade tick.price tick.quantity with
        | .ok traded => some traded.unstamped
        | .error _ => e.store.view (keyOf tick interval) := by
  let key := keyOf tick interval
  obtain ⟨after, candle, origin, opened, kept, rows, found⟩ :=
    coherent.getOrCreate tick.symbol interval (interval.bucket tick.time) tick.price
  change Candle.Found (.openBucket key.symbol key.interval (key.interval.bucket tick.time)
    tick.price) (e.store.rows.get? key) candle at found
  have storable := found.storable (Candle.storable_openBucket _ _ _ positive)
    (coherent.storable key)
  exact ⟨after, candle, origin, opened, kept, rows, storable, found.key (coherent.keyed key),
    Candle.after_trade found⟩

theorem aggregate_spec {e : Engine} (coherent : e.store.Coherent) {tick : Tick}
    (positive : .zero < tick.price) (interval : Interval) :
    Follows e.store (traded tick [interval]) (e.aggregate tick interval).1.store := by
  obtain ⟨after, candle, origin, opened, kept, rows, storable, keyed, trade⟩ :=
    getOrCreate_spec coherent positive interval
  have unchanged (other : CandleKey) : after.view other = e.store.view other := by
    unfold view
    rw [rows]
  rw [aggregate_of_ok opened]
  unfold store?
  cases outcome : candle.applyTrade tick.price tick.quantity with
  | error cause =>
      rw [outcome] at trade
      refine ⟨kept, ?_⟩
      intro other
      change after.view other = _
      rw [unchanged, traded_singleton]
      split
      · rename_i here
        rw [here]
        exact trade.symm
      · rfl
  | ok next =>
      rw [outcome] at trade
      have owner : next.key = keyOf tick interval := (Candle.key_applyTrade outcome).trans keyed
      dsimp only
      obtain ⟨final, row, ok, coherent', view⟩ := view_persist kept
        (storable.applyTrade positive outcome)
        (Engine.openTtl { e.touch tick.symbol interval with store := after } next.interval)
      rw [ok]
      refine ⟨coherent', ?_⟩
      intro other
      change final.view other = _
      rw [view, owner, unchanged, traded_singleton]
      split
      · rename_i here
        rw [here]
        exact trade.symm
      · rfl

theorem aggregateNext_ok {tick : Tick} {state : Engine × List Candle} {interval : Interval}
    {row : Candle} (ok : (state.1.aggregate tick interval).2 = .ok row) :
    aggregateNext tick state interval = ((state.1.aggregate tick interval).1, state.2 ++ [row]) := by
  unfold aggregateNext
  generalize state.1.aggregate tick interval = done at ok
  obtain ⟨after, outcome⟩ := done
  obtain rfl := ok
  rfl

theorem aggregateNext_error {tick : Tick} {state : Engine × List Candle} {interval : Interval}
    {cause : AggregationError} (failed : (state.1.aggregate tick interval).2 = .error cause) :
    aggregateNext tick state interval =
      ({ (state.1.aggregate tick interval).1 with
          metrics := (state.1.aggregate tick interval).1.metrics.intervalFailure }, state.2) := by
  unfold aggregateNext
  generalize state.1.aggregate tick interval = done at failed
  obtain ⟨after, outcome⟩ := done
  obtain rfl := failed
  rfl

theorem store_aggregateNext (tick : Tick) (state : Engine × List Candle) (interval : Interval) :
    (aggregateNext tick state interval).1.store = (state.1.aggregate tick interval).1.store := by
  cases outcome : (state.1.aggregate tick interval).2 with
  | error cause => rw [aggregateNext_error outcome]
  | ok row => rw [aggregateNext_ok outcome]

theorem ingest_induction {e : Engine} {tick : Tick}
    {motive : List Interval → Engine × List Candle → Prop} (start : motive [] (e, []))
    (next : ∀ {done interval state}, interval ∉ done → motive done state →
      motive (done ++ [interval]) (aggregateNext tick state interval))
    (valid : tick.validate = .ok ()) (nanos : Nat) :
    ∃ state, motive Interval.all state ∧
      e.ingest tick nanos =
        ({ state.1 with metrics := state.1.metrics.tradeIngested nanos }, state.2) := by
  have carried (done rest : List Interval) (distinct : (done ++ rest).Nodup)
      (state : Engine × List Candle) (before : motive done state) :
      motive (done ++ rest) (rest.foldl (aggregateNext tick) state) := by
    induction rest generalizing done state with
    | nil => simpa using before
    | cons interval rest ih =>
        rw [List.append_cons] at distinct ⊢
        -- what is traded in an interval depends on what was done before, so none may come twice
        have new : interval ∉ done := by
          have first := (List.nodup_append.mp distinct).1
          exact fun mem => (List.nodup_append.mp first).2.2 interval mem interval (by simp) rfl
        exact ih _ distinct _ (next new before)
  have all := carried [] Interval.all Interval.nodup_all (e, []) start
  rw [List.nil_append] at all
  unfold ingest
  rw [valid]
  dsimp only
  generalize Interval.all.foldl (aggregateNext tick) (e, []) = done at all
  exact ⟨done, all, rfl⟩

theorem traded_concat (tick : Tick) {done : List Interval} {interval : Interval} (new : interval ∉ done)
    (key : CandleKey) (row : Option Candle) :
    traded tick (done ++ [interval]) key row =
      traded tick [interval] key (traded tick done key row) := by
  unfold traded
  by_cases here : key.interval = interval
  · rw [here]
    simp [new]
  · simp [here]

theorem price_pos {tick : Tick} (valid : tick.validate = .ok ()) : .zero < tick.price := by
  have positive := (Tick.validate_eq_ok_iff.mp valid).1
  rw [Decimal.le_iff] at positive
  exact Decimal.lt_iff.mpr (Int.not_le.mp positive)

def Command.change (command : Command) (key : CandleKey) (row : Option Candle) : Option Candle :=
  match command.touch? key with
  | some touch => Candle.after key row touch
  | none => row

theorem change_ingest (tick : Tick) (nanos : Nat) (key : CandleKey) (row : Option Candle) :
    (Command.ingest tick nanos).change key row =
      if tick.validate.isOk ∧ tick.Falls key then Candle.after key row (.trade tick) else row := by
  unfold Command.change Command.touch?
  dsimp only
  by_cases touches : tick.validate.isOk ∧ tick.Falls key
  · rw [if_pos touches, if_pos touches]
  · rw [if_neg touches, if_neg touches]

theorem ingest_spec {e : Engine} (coherent : e.store.Coherent) (tick : Tick) (nanos : Nat) :
    Follows e.store (Command.ingest tick nanos).change (e.ingest tick nanos).1.store := by
  cases valid : tick.validate with
  | error cause =>
      rw [ingest_of_invalid valid]
      refine ⟨coherent, ?_⟩
      intro key
      rw [change_ingest, valid, if_neg]
      rintro ⟨ok, -⟩
      cases ok
  | ok =>
      have start : Follows e.store (traded tick []) e.store := by
        refine ⟨coherent, ?_⟩
        intro key
        unfold traded
        simp
      have next {done : List Interval} {interval : Interval} {state : Engine × List Candle}
          (new : interval ∉ done) (follows : Follows e.store (traded tick done) state.1.store) :
          Follows e.store (traded tick (done ++ [interval]))
            (aggregateNext tick state interval).1.store := by
        have one := aggregate_spec follows.coherent (price_pos valid) interval
        rw [← store_aggregateNext] at one
        have both := follows.trans one
        refine ⟨both.coherent, ?_⟩
        intro key
        rw [traded_concat tick new]
        exact both.view key
      obtain ⟨state, all, ingested⟩ := ingest_induction
        (motive := fun done state => Follows e.store (traded tick done) state.1.store) start next
        valid nanos
      rw [ingested]
      refine ⟨all.coherent, ?_⟩
      intro key
      rw [all.view, change_ingest, valid]
      unfold traded
      by_cases falls : tick.Falls key
      · rw [if_pos ⟨Interval.mem_all key.interval, falls⟩, if_pos ⟨rfl, falls⟩]
      · rw [if_neg fun touches => falls touches.2, if_neg fun touches => falls touches.2]

/-! ## The other commands -/

theorem change_complete (own key : CandleKey) (row : Option Candle) :
    (Command.complete own).change key row =
      if own = key then Candle.after key row .completion else row := by
  unfold Command.change Command.touch?
  dsimp only
  by_cases here : own = key
  · rw [if_pos here, if_pos here]
  · rw [if_neg here, if_neg here]

theorem change_cases (command : Command) (key : CandleKey) (row : Option Candle) :
    command.change key row = row ∨
      (∃ tick traded, tick.validate = .ok () ∧
        (Candle.base key tick row).applyTrade tick.price tick.quantity = .ok traded ∧
        command.change key row = some traded) ∨
      ∃ c, row = some c ∧ command.change key row = some { c with completed := true } := by
  cases command with
  | ingest tick nanos =>
      rw [change_ingest]
      split
      · rename_i touches
        rw [Candle.after_eq]
        cases outcome : (Candle.base key tick row).applyTrade tick.price tick.quantity with
        | error cause => exact .inl rfl
        | ok traded =>
            exact .inr (.inl ⟨tick, traded, Tick.validate_of_isOk touches.1, outcome, rfl⟩)
      · exact .inl rfl
  | complete own =>
      rw [change_complete]
      split
      · cases row with
        | none => exact .inl rfl
        | some c => exact .inr (.inr ⟨c, rfl, rfl⟩)
      · exact .inl rfl
  | advance span wall => exact .inl rfl
  | purge => exact .inl rfl

theorem complete_spec {e : Engine} (coherent : e.store.Coherent) (own : CandleKey) :
    Follows e.store (Command.complete own).change (e.markCompleted own).1.store := by
  let touched := e.touch own.symbol own.interval
  have read : touched.store.getRow own = .ok (e.store.rows.get? own) := coherent.getRow own
  unfold markCompleted
  dsimp only
  rw [read]
  cases present : e.store.rows.get? own with
  | none =>
      refine ⟨coherent, ?_⟩
      intro key
      change e.store.view key = _
      rw [change_complete]
      split
      · rename_i here
        rw [← here, view, present]
        rfl
      · rfl
  | some row =>
      have stored := coherent.storable own row present
      have storable : Candle.Storable { row with completed := true } := { stored with }
      have keyed : Candle.key { row with completed := true } = own := coherent.keyed own row present
      have sound : touched.store.Coherent := coherent
      obtain ⟨after, written, ok, coherent', shown⟩ := view_persist sound storable touched.completedTtl
      dsimp only
      rw [ok]
      refine ⟨coherent', ?_⟩
      intro key
      change after.view key = _
      rw [shown, change_complete, keyed]
      by_cases here : own = key
      · rw [if_pos here.symm, if_pos here, ← here, view, present]
        rfl
      · rw [if_neg (Ne.symm here), if_neg here]
        rfl

theorem step_spec {e : Engine} (coherent : e.store.Coherent) (command : Command) :
    Follows e.store command.change (e.step command).store := by
  cases command with
  | ingest tick nanos => exact ingest_spec coherent tick nanos
  | complete key => exact complete_spec coherent key
  | advance span wall => exact ⟨coherent.of_fewer rfl rfl fun _ _ found => found, fun _ => rfl⟩
  | purge => exact ⟨coherent.purge, fun _ => rfl⟩

end Engine

end CandleFeed
