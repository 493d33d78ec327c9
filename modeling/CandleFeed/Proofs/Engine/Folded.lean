import CandleFeed.Proofs.Decimal.Value
import CandleFeed.Proofs.Engine.Containment

namespace CandleFeed

theorem Interval.bucket_eq_of_opening (i : Interval) {t t' : Instant}
    (same : (i.bucket t).opening = (i.bucket t').opening) : i.bucket t = i.bucket t' := by
  have partition := partition_bucketAt i
  rw [bucket_eq_bucketAt, bucket_eq_bucketAt] at same ⊢
  rw [← partition.opening t.seconds, same, partition.opening]

namespace Candle

theorem isValid_iff {c : Candle} :
    c.isValid = true ↔
      c.openPrice ≤ c.highPrice ∧ c.closePrice ≤ c.highPrice ∧ c.lowPrice ≤ c.highPrice ∧
        c.lowPrice ≤ c.openPrice ∧ c.lowPrice ≤ c.closePrice ∧ .zero ≤ c.volume ∧
        .zero ≤ c.quoteAmount ∧ c.openTime < c.closeTime := by
  simp only [isValid, Bool.and_eq_true, decide_eq_true_eq, and_assoc]

theorem isValid_openBucket (symbol : Symbol) (interval : Interval) {bucket : Bucket}
    (order : bucket.opening < bucket.closing) (price : Decimal) :
    (openBucket symbol interval bucket price).isValid = true := by
  have same := Decimal.le_refl price
  have nothing := Decimal.le_refl .zero
  exact isValid_iff.mpr ⟨same, same, same, same, same, nothing, nothing, order⟩

theorem isValid_applyTrade {c d : Candle} (valid : c.isValid = true) {price quantity : Decimal}
    (positive : .zero < price) (nonneg : .zero ≤ quantity)
    (ok : c.applyTrade price quantity = .ok d) : d.isValid = true := by
  obtain ⟨volume, amount, quoteAmount, sum, product, sum', rfl⟩ := applyTrade_eq_ok ok
  obtain ⟨open_le, -, low_le, le_open, -, volume_nonneg, quote_nonneg, order⟩ := isValid_iff.mp valid
  have amount_nonneg := Decimal.zero_le_mul product (Decimal.le_of_lt positive) nonneg
  have volume_grows := Decimal.le_trans volume_nonneg (Decimal.le_add_left sum volume_nonneg nonneg)
  have quote_grows :=
    Decimal.le_trans quote_nonneg (Decimal.le_add_left sum' quote_nonneg amount_nonneg)
  -- The high is at least what it was and the price, and the low is at most both.
  have highs : c.highPrice ≤ (if c.highPrice < price then price else c.highPrice) ∧
      price ≤ (if c.highPrice < price then price else c.highPrice) := by
    split
    · rename_i higher
      exact ⟨Decimal.le_of_lt higher, Decimal.le_refl price⟩
    · rename_i lower
      exact ⟨Decimal.le_refl _, Decimal.le_of_not_lt lower⟩
  have lows : (if price < c.lowPrice then price else c.lowPrice) ≤ c.lowPrice ∧
      (if price < c.lowPrice then price else c.lowPrice) ≤ price := by
    split
    · rename_i lower
      exact ⟨Decimal.le_of_lt lower, Decimal.le_refl price⟩
    · rename_i higher
      exact ⟨Decimal.le_refl _, Decimal.le_of_not_lt higher⟩
  exact isValid_iff.mpr ⟨Decimal.le_trans open_le highs.1, highs.2,
    Decimal.le_trans lows.2 highs.2, Decimal.le_trans lows.1 le_open, lows.2, volume_grows,
    quote_grows, order⟩

/-- A well-formed candle under its key, with some trades in it, each of which falls into its
bucket. -/
structure Holds (key : CandleKey) (trades : List Tick) (c : Candle) : Prop where
  key : c.key = key
  valid : c.isValid = true
  low_pos : .zero < c.lowPrice
  count : c.tradeCount = trades.length % UInt64.size
  bucket : ∀ tick ∈ trades, tick.symbol = c.symbol ∧
    c.interval.bucket tick.time = ⟨c.openTime, c.closeTime⟩

variable {key : CandleKey} {trades : List Tick} {c d : Candle} {tick : Tick}

theorem holds_openBucket (falls : tick.Falls key) (positive : .zero < tick.price) :
    (openBucket key.symbol key.interval (key.interval.bucket tick.time) tick.price).Holds key [] where
  key := by
    obtain ⟨symbol, interval, openTime⟩ := key
    exact congrArg (CandleKey.mk symbol interval) falls.2
  valid := by
    have around := Bucket.contains_iff.mp (key.interval.bucket_contains tick.time)
    exact isValid_openBucket _ _ (by omega) _
  low_pos := positive
  count := rfl
  bucket _ mem := by cases mem

theorem Holds.applyTrade (holds : c.Holds key trades) (valid : tick.validate = .ok ())
    (own : tick.symbol = c.symbol ∧ c.interval.bucket tick.time = ⟨c.openTime, c.closeTime⟩)
    (ok : c.applyTrade tick.price tick.quantity = .ok d) : d.Holds key (trades ++ [tick]) := by
  have positive := Engine.price_pos valid
  have nonneg := Decimal.le_of_not_lt (Tick.validate_eq_ok_iff.mp valid).2
  have isValid := isValid_applyTrade holds.valid positive nonneg ok
  have keyed := (key_applyTrade ok).trans holds.key
  obtain ⟨volume, amount, quoteAmount, -, -, -, rfl⟩ := applyTrade_eq_ok ok
  constructor
  case key => exact keyed
  case valid => exact isValid
  case low_pos =>
    dsimp only
    split
    · exact positive
    · exact holds.low_pos
  case count =>
    dsimp only
    rw [holds.count, Nat.mod_add_mod, List.length_append, List.length_singleton]
  case bucket =>
    intro other mem
    rcases List.mem_append.mp mem with earlier | last
    · exact holds.bucket other earlier
    · exact List.mem_singleton.mp last ▸ own

theorem Holds.bucket_of_falls (holds : c.Holds key trades) (some : trades ≠ [])
    (falls : tick.Falls key) :
    tick.symbol = c.symbol ∧ c.interval.bucket tick.time = ⟨c.openTime, c.closeTime⟩ := by
  obtain ⟨first, mem⟩ := List.exists_mem_of_ne_nil _ some
  obtain ⟨-, bucket⟩ := holds.bucket first mem
  obtain rfl := holds.key
  refine ⟨falls.1, ?_⟩
  rw [← bucket]
  apply c.interval.bucket_eq_of_opening
  rw [bucket]
  exact falls.2

theorem Holds.completed (holds : c.Holds key trades) :
    Candle.Holds key trades { c with completed := true } :=
  { holds with }

theorem Holds.asRead (holds : c.Holds key trades) : c.asRead.Holds key trades where
  key := holds.key
  valid := by
    obtain ⟨open_le, close_le, low_le, le_open, le_close, volume, quoteAmount, order⟩ :=
      isValid_iff.mp holds.valid
    exact isValid_iff.mpr ⟨open_le, close_le, low_le, le_open, le_close,
      Decimal.zero_le_signedByValue volume, Decimal.zero_le_signedByValue quoteAmount, order⟩
  low_pos := holds.low_pos
  count := holds.count
  bucket := holds.bucket

end Candle

namespace Engine
open Store

/-! ## A trade and one key -/

variable {e : Engine} {tick : Tick} {nanos : Nat} {key : CandleKey}

theorem ingest_folds (coherent : e.store.Coherent)
    (answers : (e.ingest tick nanos).2.any (·.key = key) = true) :
    tick.validate = .ok () ∧ tick.Falls key ∧ ∃ traded,
      (Candle.base key tick (e.store.view key)).applyTrade tick.price tick.quantity = .ok traded ∧
      (e.ingest tick nanos).1.store.view key = some traded := by
  cases valid : tick.validate with
  | error cause =>
      rw [ingest_of_invalid valid] at answers
      cases answers
  | ok =>
      obtain ⟨state, contained, ingested⟩ := ingest_contained coherent.tidy valid nanos
      rw [ingested] at answers ⊢
      obtain ⟨row, mem, same⟩ := List.any_eq_true.mp answers
      obtain rfl := of_decide_eq_true same
      obtain ⟨own, folded, stored⟩ := contained.written row mem
      refine ⟨rfl, ⟨?_, ?_⟩, row.unstamped, ?_, ?_⟩
      · exact (congrArg CandleKey.symbol own).symm
      · exact (congrArg CandleKey.openTime own).symm
      · rw [own, ← folded]
        exact (found_current coherent tick row.interval).applyTrade_base
      · exact congrArg (Option.map Candle.unstamped) stored

theorem ingest_apart (coherent : e.store.Coherent)
    (silent : (e.ingest tick nanos).2.any (·.key = key) = false) :
    (e.ingest tick nanos).1.store.view key = e.store.view key := by
  cases valid : tick.validate with
  | error cause => rw [ingest_of_invalid valid]
  | ok =>
      obtain ⟨state, contained, ingested⟩ := ingest_contained coherent.tidy valid nanos
      rw [ingested] at silent ⊢
      refine congrArg (Option.map Candle.unstamped) (contained.spares.rows key ?_)
      rintro i - passed rfl
      have mem : i ∈ state.2.map Candle.interval := by
        rw [contained.intervals, List.mem_filter, passed]
        exact ⟨Interval.mem_all i, rfl⟩
      obtain ⟨row, written, rfl⟩ := List.mem_map.mp mem
      have answered := decide_eq_true (contained.written row written).1
      exact Bool.false_ne_true (silent.symm.trans (List.any_eq_true.mpr ⟨row, written, answered⟩))

/-! ## Runs -/

def Command.folded? (key : CandleKey) (e : Engine) : Command → Option Tick
  | .ingest tick nanos => if (e.ingest tick nanos).2.any (·.key = key) then some tick else none
  | .complete _ | .advance _ _ | .purge => none

def folded (key : CandleKey) (e : Engine) : List Command → List Tick
  | [] => []
  | command :: rest => (command.folded? key e).toList ++ folded key (e.step command) rest

structure Folded (key : CandleKey) (trades : List Tick) (s : Store) : Prop where
  coherent : s.Coherent
  unseen : s.view key = none → trades = []
  seen : ∀ c, s.view key = some c → c.Holds key trades ∧ trades ≠ []

theorem folded_empty (key : CandleKey) (now : Nat) (wall : Instant) (ids : Nat → Uuid) :
    Folded key [] (empty now wall ids) where
  coherent := coherent_empty now wall ids
  unseen _ := rfl
  seen _ found := by cases found

variable {trades : List Tick}

theorem Folded.of_view {s t : Store} (folded : Folded key trades s) (coherent : t.Coherent)
    (view : t.view key = s.view key) : Folded key trades t where
  coherent := coherent
  unseen none := folded.unseen (view.symm.trans none)
  seen c found := folded.seen c (view.symm.trans found)

theorem Folded.of_some {s : Store} {c : Candle} (coherent : s.Coherent)
    (view : s.view key = some c) (holds : c.Holds key trades) (some : trades ≠ []) :
    Folded key trades s where
  coherent := coherent
  unseen none := by cases none.symm.trans view
  seen d found := by
    obtain rfl := Option.some.inj (found.symm.trans view)
    exact ⟨holds, some⟩

theorem Folded.ingest (folded : Folded key trades e.store) (tick : Tick) (nanos : Nat) :
    Folded key (trades ++ ((Command.ingest tick nanos).folded? key e).toList)
      (e.ingest tick nanos).1.store := by
  have coherent := (ingest_spec folded.coherent tick nanos).coherent
  unfold Command.folded?
  dsimp only
  cases answers : (e.ingest tick nanos).2.any (·.key = key) with
  | false =>
      rw [if_neg Bool.false_ne_true, Option.toList_none, List.append_nil]
      exact folded.of_view coherent (ingest_apart folded.coherent answers)
  | true =>
      obtain ⟨valid, falls, traded, ok, after⟩ := ingest_folds folded.coherent answers
      rw [if_pos rfl, Option.toList_some]
      refine Folded.of_some coherent after ?_ (List.append_ne_nil_of_right_ne_nil _ (by simp))
      cases view : e.store.view key with
      | none =>
          rw [view] at ok
          rw [folded.unseen view]
          exact (Candle.holds_openBucket falls (price_pos valid)).applyTrade valid ⟨falls.1, rfl⟩ ok
      | some c =>
          rw [view] at ok
          obtain ⟨holds, some⟩ := folded.seen c view
          exact holds.applyTrade valid (holds.bucket_of_falls some falls) ok

theorem Folded.complete (folded : Folded key trades e.store) (own : CandleKey) :
    Folded key trades (e.markCompleted own).1.store := by
  have follows := complete_spec folded.coherent own
  have view := follows.view key
  rw [change_complete] at view
  cases before : e.store.view key with
  | none =>
      refine folded.of_view follows.coherent (view.trans ?_)
      rw [before]
      exact ite_self none
  | some c =>
      rw [before] at view
      obtain ⟨holds, some⟩ := folded.seen c before
      split at view
      · exact Folded.of_some follows.coherent view holds.completed some
      · exact Folded.of_some follows.coherent view holds some

theorem Folded.step (folded : Folded key trades e.store) (command : Command) :
    Folded key (trades ++ (command.folded? key e).toList) (e.step command).store := by
  have none : trades ++ [] = trades := List.append_nil trades
  have coherent := (step_spec folded.coherent command).coherent
  cases command with
  | ingest tick nanos => exact folded.ingest tick nanos
  | complete own =>
      change Folded key (trades ++ []) (e.markCompleted own).1.store
      rw [none]
      exact folded.complete own
  | advance span wall =>
      change Folded key (trades ++ []) _
      rw [none]
      exact folded.of_view coherent rfl
  | purge =>
      change Folded key (trades ++ []) _
      rw [none]
      exact folded.of_view coherent rfl

theorem Folded.run (holding : Folded key trades e.store) (commands : List Command) :
    Folded key (trades ++ folded key e commands) (e.run commands).store := by
  induction commands generalizing e trades with
  | nil =>
      unfold folded
      rw [List.append_nil]
      exact holding
  | cons command rest ih =>
      unfold folded
      rw [← List.append_assoc]
      exact ih (holding.step command)

theorem Folded.of_row {s : Store} (folded : Folded key trades s) {c : Candle}
    (found : s.rows.get? key = some c) : c.Holds key trades ∧ trades ≠ [] := by
  have view : s.view key = some c.unstamped := congrArg (Option.map Candle.unstamped) found
  obtain ⟨holds, some⟩ := folded.seen _ view
  exact ⟨{ holds with }, some⟩

theorem Folded.of_read {s : Store} (folded : Folded key trades s) {c : Candle}
    (read : (s.readCache key).2 = .ok (some c)) : c.Holds key trades ∧ trades ≠ [] := by
  obtain ⟨row, present, rfl⟩ := folded.coherent.exists_row_of_read read
  obtain ⟨holds, some⟩ := folded.of_row present
  exact ⟨holds.asRead, some⟩

/-- In every run, the rows and the candles that the cache answers with are well formed, whatever the
trades. Each stands under its key, has a trade in it, and its times are the bucket of each of its
trades. The count of trades is a word of 64 bits. -/
theorem run_wellFormed (now : Nat) (wall : Instant) (ids : Nat → Uuid) (policy : CachePolicy)
    (commands : List Command) {key : CandleKey} {c : Candle} :
    let start := create (.empty now wall ids) policy
    let store := (start.run commands).store
    let trades := folded key start commands
    store.rows.get? key = some c ∨ (store.readCache key).2 = .ok (some c) →
      c.Holds key trades ∧ 1 ≤ trades.length ∧
        (trades.length < UInt64.size → 1 ≤ c.tradeCount) := by
  intro start store trades shown
  have folded := (folded_empty key now wall ids).run (e := start) commands
  rw [List.nil_append] at folded
  obtain ⟨holds, some⟩ : c.Holds key trades ∧ trades ≠ [] := by
    rcases shown with row | read
    · exact folded.of_row row
    · exact folded.of_read read
  have length := List.length_pos_of_ne_nil some
  refine ⟨holds, length, ?_⟩
  intro few
  rw [holds.count, Nat.mod_eq_of_lt few]
  exact length

theorem late_trade_wellFormed :
    let minute : CandleKey := ⟨⟨"BTC-USDT"⟩, .oneMinute, 0⟩
    let one : Decimal := ⟨false, 1, 0, by decide, by decide⟩
    let third : Decimal := ⟨false, 3333333333333333333333333333, 28, by decide, by decide⟩
    let most : Decimal := ⟨false, 79228162514264337593543950335, 0, by decide, by decide⟩
    let trade (price quantity : Decimal) : Command :=
      .ingest ⟨minute.symbol, price, quantity, .epoch⟩ 0
    let start := create (.empty 0 .epoch Uuid.serial) .standard
    let commands := [trade one one, trade .zero one, .advance 1000000000000000000 .epoch, trade one most,
      .complete minute, .advance 1000000000000000000 .epoch, trade third third]
    ∃ c, (start.run commands).store.rows.get? minute = some c ∧
      c.Holds minute (folded minute start commands) ∧ (folded minute start commands).length = 2 ∧
      1 ≤ c.tradeCount := by
  intro minute one third most trade start commands
  have two : (folded minute start commands).length = 2 := by decide +kernel
  have counted : ((start.run commands).store.rows.get? minute).map Candle.tradeCount = some 2 := by
    decide +kernel
  obtain ⟨c, row, -⟩ := Option.map_eq_some_iff.mp counted
  -- put for the name, so that nothing is evaluated to see that the theorem speaks of this engine
  dsimp only [start] at two row ⊢
  obtain ⟨holds, -, count⟩ := run_wellFormed 0 .epoch Uuid.serial .standard commands (.inl row)
  exact ⟨c, row, holds, two, count (two.trans_lt (by decide))⟩

end Engine

end CandleFeed
