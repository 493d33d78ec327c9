import CandleFeed.Proofs.Decimal.Value
import CandleFeed.Proofs.Engine.Containment

namespace CandleFeed

namespace Engine
open Store

/-! ## Failures -/

def Taken (s : Store) (tick : Tick) (interval : Interval) : Prop :=
  ∃ traded, (Candle.base (keyOf tick interval) tick (s.view (keyOf tick interval))).applyTrade
    tick.price tick.quantity = .ok traded

theorem taken_of_not_fails {e : Engine} (coherent : e.store.Coherent) {tick : Tick}
    {interval : Interval} (passed : e.fails tick interval = false) : Taken e.store tick interval := by
  have taken := (found_current coherent tick interval).applyTrade_base
  obtain ⟨traded, ok⟩ := exists_traded passed
  rw [ok] at taken
  exact ⟨_, taken⟩

theorem ingest_quiet {e : Engine} (coherent : e.store.Coherent) {tick : Tick}
    (valid : tick.validate = .ok ()) {nanos : Nat}
    (quiet : (e.ingest tick nanos).1.metrics.intervalFailures = e.metrics.intervalFailures)
    (interval : Interval) : Taken e.store tick interval := by
  obtain ⟨state, contained, ingested⟩ := ingest_contained coherent.tidy valid nanos
  obtain ⟨created, updated, -, metrics⟩ := contained.counted
  have counted : e.metrics.intervalFailures + .ofNat (Interval.all.countP (e.fails tick)) =
      e.metrics.intervalFailures := by
    rw [ingested] at quiet
    exact (congrArg Metrics.intervalFailures metrics).symm.trans quiet
  have few : Interval.all.countP (e.fails tick) ≤ 9 := List.countP_le_length
  have none : Interval.all.countP (e.fails tick) = 0 := by
    have numbers := congrArg UInt64.toNat counted
    rw [UInt64.toNat_add, UInt64.toNat_ofNat'] at numbers
    have := e.metrics.intervalFailures.toNat_lt
    omega
  apply taken_of_not_fails coherent
  simpa using List.countP_eq_zero.mp none interval (Interval.mem_all interval)

end Engine

/-! ## Tallies -/

structure Extreme (order : Decimal → Decimal → Prop) (last : Decimal) (prices : List Decimal) :
    Prop where
  mem : last ∈ prices
  bound : ∀ price ∈ prices, order price last

theorem extreme_singleton {order : Decimal → Decimal → Prop} (refl : ∀ a, order a a)
    (price : Decimal) : Extreme order price [price] where
  mem := List.mem_singleton_self _
  bound _ mem := List.mem_singleton.mp mem ▸ refl price

theorem Extreme.cons {order : Decimal → Decimal → Prop} (refl : ∀ a, order a a)
    (trans : ∀ {a b c}, order a b → order b c → order a c) {last : Decimal}
    {prices : List Decimal} (extreme : Extreme order last prices) {price : Decimal}
    {beyond : Prop} [Decidable beyond] (above : beyond → order last price)
    (below : ¬ beyond → order price last) :
    Extreme order (if beyond then price else last) (price :: prices) := by
  split
  · rename_i higher
    refine ⟨List.mem_cons_self, ?_⟩
    intro other mem
    rcases List.mem_cons.mp mem with rfl | old
    · exact refl other
    · exact trans (extreme.bound other old) (above higher)
  · rename_i lower
    refine ⟨List.mem_cons_of_mem _ extreme.mem, ?_⟩
    intro other mem
    rcases List.mem_cons.mp mem with rfl | old
    · exact below lower
    · exact extreme.bound other old

theorem Extreme.of_mem_iff {order : Decimal → Decimal → Prop} {last : Decimal}
    {prices others : List Decimal} (extreme : Extreme order last prices)
    (same : ∀ price, price ∈ others ↔ price ∈ prices) : Extreme order last others where
  mem := (same last).mpr extreme.mem
  bound price mem := extreme.bound price ((same price).mp mem)

namespace Candle

/-- A candle after so many trades, at some prices. -/
structure Tallies (key : CandleKey) (count : Nat) (prices : List Decimal) (c : Candle) : Prop where
  closeTime : c.closeTime = (key.interval.bucketAt key.openTime).closing
  count : c.tradeCount = count % UInt64.size
  high : Extreme (fun a b => a ≤ b) c.highPrice prices
  low : Extreme (fun a b => b ≤ a) c.lowPrice prices

theorem tallies_openBucket {key : CandleKey} {tick : Tick} (falls : tick.Falls key) :
    (openBucket key.symbol key.interval (key.interval.bucket tick.time) tick.price).Tallies key 0
      [tick.price] where
  closeTime := by
    change (key.interval.bucket tick.time).closing = _
    have partition := Interval.partition_bucketAt key.interval
    rw [← falls.2, Interval.bucket_eq_bucketAt, partition.opening]
  count := rfl
  high := extreme_singleton Decimal.le_refl _
  low := by
    apply extreme_singleton
    exact Decimal.le_refl

variable {key : CandleKey} {count : Nat} {prices : List Decimal} {c d : Candle}

theorem high_applyTrade {price quantity : Decimal} (ok : c.applyTrade price quantity = .ok d)
    (high : Extreme (fun a b => a ≤ b) c.highPrice prices) :
    Extreme (fun a b => a ≤ b) d.highPrice (price :: prices) := by
  obtain ⟨volume, amount, quoteAmount, -, -, -, rfl⟩ := applyTrade_eq_ok ok
  exact high.cons Decimal.le_refl Decimal.le_trans Decimal.le_of_lt Decimal.le_of_not_lt

theorem low_applyTrade {price quantity : Decimal} (ok : c.applyTrade price quantity = .ok d)
    (low : Extreme (fun a b => b ≤ a) c.lowPrice prices) :
    Extreme (fun a b => b ≤ a) d.lowPrice (price :: prices) := by
  obtain ⟨volume, amount, quoteAmount, -, -, -, rfl⟩ := applyTrade_eq_ok ok
  refine low.cons ?_ ?_ ?_ ?_
  · exact Decimal.le_refl
  · exact fun first second => Decimal.le_trans second first
  · exact Decimal.le_of_lt
  · exact Decimal.le_of_not_lt

theorem Tallies.applyTrade (tallies : c.Tallies key count prices) {price quantity : Decimal}
    (ok : c.applyTrade price quantity = .ok d) : d.Tallies key (count + 1) (price :: prices) := by
  have high := high_applyTrade ok tallies.high
  have low := low_applyTrade ok tallies.low
  obtain ⟨volume, amount, quoteAmount, -, -, -, rfl⟩ := applyTrade_eq_ok ok
  constructor
  case closeTime => exact tallies.closeTime
  case count =>
    dsimp only
    rw [tallies.count, Nat.mod_add_mod]
  case high => exact high
  case low => exact low

theorem Tallies.of_mem_iff (tallies : c.Tallies key count prices) {others : List Decimal}
    (same : ∀ price, price ∈ others ↔ price ∈ prices) : c.Tallies key count others where
  closeTime := tallies.closeTime
  count := tallies.count
  high := tallies.high.of_mem_iff same
  low := tallies.low.of_mem_iff same

end Candle

def CandleKey.trades (key : CandleKey) (ticks : List Tick) : List Tick :=
  ticks.filter fun tick => tick.Falls key

namespace Engine
open Store

structure Tallied (ticks : List Tick) (s : Store) : Prop where
  coherent : s.Coherent
  unseen : ∀ key, s.view key = none → key.trades ticks = []
  seen : ∀ key c, s.view key = some c →
    c.Tallies key (key.trades ticks).length ((key.trades ticks).map Tick.price)

def Command.trade? : Command → Option Tick
  | .ingest tick _ => if tick.validate.isOk then some tick else none
  | .complete _ | .advance _ _ | .purge => none

def trades (commands : List Command) : List Tick :=
  commands.filterMap Command.trade?

theorem tallied_empty (now : Nat) (wall : Instant) (ids : Nat → Uuid) :
    Tallied [] (empty now wall ids) where
  coherent := coherent_empty now wall ids
  unseen _ _ := rfl
  seen _ _ found := by cases found

theorem Tallied.of_view {s t : Store} {ticks : List Tick} (tallied : Tallied ticks s)
    (coherent : t.Coherent) (view : ∀ key, t.view key = s.view key) : Tallied ticks t where
  coherent := coherent
  unseen key none := tallied.unseen key ((view key).symm.trans none)
  seen key c found := tallied.seen key c ((view key).symm.trans found)

theorem Tallied.tallies {s : Store} {ticks : List Tick} {key : CandleKey} {c : Candle}
    (tallied : Tallied ticks s) (found : s.rows.get? key = some c) :
    c.Tallies key (key.trades ticks).length ((key.trades ticks).map Tick.price) := by
  have view : s.view key = some c.unstamped := by
    rw [view, found]
    rfl
  exact { tallied.seen key c.unstamped view with }

theorem mem_trades {key : CandleKey} {ticks : List Tick} {tick : Tick} :
    tick ∈ key.trades ticks ↔ tick ∈ ticks ∧ tick.Falls key := by
  unfold CandleKey.trades
  rw [List.mem_filter, decide_eq_true_eq]

theorem trades_concat (key : CandleKey) (ticks : List Tick) (tick : Tick) :
    key.trades (ticks ++ [tick]) =
      if tick.Falls key then key.trades ticks ++ [tick] else key.trades ticks := by
  unfold CandleKey.trades
  rw [List.filter_append]
  by_cases falls : tick.Falls key
  · rw [if_pos falls, List.filter_cons_of_pos (by simpa using falls), List.filter_nil]
  · rw [if_neg falls, List.filter_cons_of_neg (by simpa using falls), List.filter_nil,
      List.append_nil]

theorem keyOf_of_falls {tick : Tick} {key : CandleKey} (falls : tick.Falls key) :
    keyOf tick key.interval = key := by
  unfold keyOf
  rw [falls.1, falls.2]

variable {e : Engine} {ticks : List Tick}

theorem Tallied.taken (tallied : Tallied ticks e.store) {tick : Tick} {key : CandleKey}
    (falls : tick.Falls key) (taken : Taken e.store tick key.interval) :
    ∃ c, Candle.after key (e.store.view key) (.trade tick) = some c ∧
      c.Tallies key (key.trades (ticks ++ [tick])).length
        ((key.trades (ticks ++ [tick])).map Tick.price) := by
  obtain ⟨c, ok⟩ := taken
  rw [keyOf_of_falls falls] at ok
  refine ⟨c, by rw [Candle.after_eq, ok]; rfl, ?_⟩
  rw [trades_concat, if_pos falls, List.length_append, List.map_append]
  cases view : e.store.view key with
  | none =>
      rw [view] at ok
      have first := (Candle.tallies_openBucket falls).applyTrade ok
      rw [tallied.unseen key view]
      exact first.of_mem_iff fun price => by simp
  | some row =>
      rw [view] at ok
      have more := (tallied.seen key row view).applyTrade ok
      exact more.of_mem_iff fun price => by simp [or_comm]

theorem Tallied.ingest (tallied : Tallied ticks e.store) {tick : Tick}
    (valid : tick.validate = .ok ()) {nanos : Nat}
    (quiet : (e.ingest tick nanos).1.metrics.intervalFailures = e.metrics.intervalFailures) :
    Tallied (ticks ++ [tick]) (e.ingest tick nanos).1.store := by
  have follows := ingest_spec tallied.coherent tick nanos
  have view (key : CandleKey) : (e.ingest tick nanos).1.store.view key =
      if tick.Falls key then Candle.after key (e.store.view key) (.trade tick)
      else e.store.view key := by
    rw [follows.view, change_ingest, valid]
    by_cases falls : tick.Falls key
    · rw [if_pos ⟨rfl, falls⟩, if_pos falls]
    · rw [if_neg fun both => falls both.2, if_neg falls]
  have taken (key : CandleKey) (falls : tick.Falls key) :=
    tallied.taken falls (ingest_quiet tallied.coherent valid quiet key.interval)
  constructor
  case coherent => exact follows.coherent
  case unseen =>
    intro key none
    rw [view] at none
    split at none
    · rename_i falls
      obtain ⟨c, after, -⟩ := taken key falls
      rw [after] at none
      cases none
    · rename_i apart
      rw [trades_concat, if_neg apart]
      exact tallied.unseen key none
  case seen =>
    intro key c found
    rw [view] at found
    split at found
    · rename_i falls
      obtain ⟨d, after, tallies⟩ := taken key falls
      rw [after] at found
      cases found
      exact tallies
    · rename_i apart
      rw [trades_concat, if_neg apart]
      exact tallied.seen key c found

theorem Tallied.complete (tallied : Tallied ticks e.store) (own : CandleKey) :
    Tallied ticks (e.markCompleted own).1.store := by
  have follows := complete_spec tallied.coherent own
  have view (key : CandleKey) : (e.markCompleted own).1.store.view key = e.store.view key ∨
      ∃ row, e.store.view key = some row ∧
        (e.markCompleted own).1.store.view key = some { row with completed := true } := by
    rw [follows.view, change_complete]
    split
    · cases e.store.view key with
      | none => exact .inl rfl
      | some row => exact .inr ⟨row, rfl, rfl⟩
    · exact .inl rfl
  constructor
  case coherent => exact follows.coherent
  case unseen =>
    intro key none
    rcases view key with same | ⟨row, -, completed⟩
    · exact tallied.unseen key (same.symm.trans none)
    · rw [completed] at none
      cases none
  case seen =>
    intro key c found
    rcases view key with same | ⟨row, before, completed⟩
    · exact tallied.seen key c (same.symm.trans found)
    · rw [completed] at found
      cases found
      exact { tallied.seen key row before with }

theorem Tallied.step (tallied : Tallied ticks e.store) (command : Command)
    (quiet : (e.step command).metrics.intervalFailures = e.metrics.intervalFailures) :
    Tallied (ticks ++ command.trade?.toList) (e.step command).store := by
  have none : ticks ++ [] = ticks := List.append_nil ticks
  cases command with
  | ingest tick nanos =>
      unfold Command.trade?
      dsimp only
      cases valid : tick.validate with
      | error cause =>
          change Tallied (ticks ++ []) (e.ingest tick nanos).1.store
          rw [ingest_of_invalid valid, none]
          exact tallied
      | ok => exact tallied.ingest valid quiet
  | complete own =>
      change Tallied (ticks ++ []) (e.markCompleted own).1.store
      rw [none]
      exact tallied.complete own
  | advance span wall =>
      have follows := step_spec tallied.coherent (.advance span wall)
      change Tallied (ticks ++ []) _
      rw [none]
      exact tallied.of_view follows.coherent fun _ => rfl
  | purge =>
      have follows := step_spec tallied.coherent .purge
      change Tallied (ticks ++ []) _
      rw [none]
      exact tallied.of_view follows.coherent fun _ => rfl

theorem tallied_run (now : Nat) (wall : Instant) (ids : Nat → Uuid) (policy : CachePolicy)
    {commands : List Command} (quiet : ∀ before, before <+: commands →
      ((create (.empty now wall ids) policy).run before).metrics.intervalFailures = 0) :
    Tallied (trades commands) ((create (.empty now wall ids) policy).run commands).store := by
  induction commands using List.reverseRecOn with
  | nil => exact tallied_empty now wall ids
  | append_singleton commands command ih =>
      have earlier := ih fun before part => quiet before (part.trans (List.prefix_append _ _))
      have same := (quiet _ (List.prefix_refl _)).trans (quiet commands (List.prefix_append _ _)).symm
      unfold run at same ⊢
      rw [List.foldl_concat] at same ⊢
      have last : trades [command] = command.trade?.toList := by
        unfold trades
        rw [List.filterMap_cons]
        cases command.trade? <;> rfl
      have all := earlier.step command same
      rw [← last] at all
      unfold trades at all ⊢
      rw [List.filterMap_append]
      exact all

end Engine

end CandleFeed
