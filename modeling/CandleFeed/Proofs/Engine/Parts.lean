import CandleFeed.Proofs.Engine.Tally
import CandleFeed.Proofs.Nesting
import Mathlib.Algebra.BigOperators.Group.List.Basic

namespace CandleFeed

/-- A candle is made of finer ones, in a run of so many commands. The count of trades is a word of
64 bits. -/
structure Candle.Composed (commands : Nat) (c : Candle) (parts : List Candle) : Prop where
  nonempty : parts ≠ []
  counted : c.tradeCount = (parts.map Candle.tradeCount).sum % UInt64.size
  count : commands < UInt64.size → c.tradeCount = (parts.map Candle.tradeCount).sum
  high_le : ∀ part ∈ parts, part.highPrice ≤ c.highPrice
  high : ∃ part ∈ parts, part.highPrice.same c.highPrice = true
  low_le : ∀ part ∈ parts, c.lowPrice ≤ part.lowPrice
  low : ∃ part ∈ parts, part.lowPrice.same c.lowPrice = true

def Rows.within (r : Rows) (symbol : Symbol) (interval : Interval) (start stop : Int) :
    List Candle :=
  (r.series symbol interval).filter fun row => start ≤ row.openTime ∧ row.openTime < stop

namespace Store

variable {s : Store} {symbol : Symbol} {interval : Interval} {start stop : Int}

theorem Coherent.getRow_of_get? (coherent : s.Coherent) {key : CandleKey} {row : Candle}
    (found : s.rows.get? key = some row) : s.getRow key = .ok (some row) := by
  rw [coherent.getRow, found]

theorem Coherent.range_eq (coherent : s.Coherent) (limit : Nat) :
    s.range symbol interval start stop limit =
      .ok ((s.rows.within symbol interval start stop).take limit) := by
  unfold range query
  rw [coherent.available]
  exact congrArg Except.ok (Rows.range_eq coherent.tidy.filed start stop limit)

theorem Coherent.mem_within (coherent : s.Coherent) {row : Candle} :
    row ∈ s.rows.within symbol interval start stop ↔
      s.rows.get? row.key = some row ∧ row.symbol = symbol ∧ row.interval = interval ∧
        start ≤ row.openTime ∧ row.openTime < stop := by
  unfold Rows.within
  rw [List.mem_filter, Rows.mem_series coherent.tidy.filed, decide_eq_true_eq]
  tauto

theorem Coherent.nodup_within (coherent : s.Coherent) :
    ((s.rows.within symbol interval start stop).map Candle.key).Nodup := by
  refine List.pairwise_map.mpr ?_
  apply ((Rows.series_ascending coherent.tidy.filed).sublist List.filter_sublist).imp
  intro a b earlier same
  have opens : a.openTime = b.openTime := congrArg CandleKey.openTime same
  omega

end Store

theorem Decimal.same_of_le {a b : Decimal} (first : a ≤ b) (second : b ≤ a) :
    a.same b = true :=
  same_iff_value.mpr (le_antisymm (le_iff_value.mp first) (le_iff_value.mp second))

theorem sum_map_ite {α : Type} (test : α → Bool) (list : List α) :
    (list.map fun a => if test a then 1 else 0).sum = list.countP test := by
  induction list with
  | nil => rfl
  | cons a rest ih => rw [List.map_cons, List.sum_cons, ih, List.countP_cons, Nat.add_comm]

theorem sum_countP {α β : Type} {parts : List α} {list : List β} (isIn : α → β → Bool)
    (chosen : β → Bool)
    (once : ∀ b ∈ list, (parts.countP fun part => isIn part b) = if chosen b then 1 else 0) :
    (parts.map fun part => list.countP (isIn part)).sum = list.countP chosen := by
  induction list with
  | nil => simp
  | cons b rest ih =>
      have first := once b List.mem_cons_self
      have others := ih fun other mem => once other (List.mem_cons_of_mem _ mem)
      simp only [List.countP_cons, List.sum_map_add, others, sum_map_ite, first]

namespace Engine
open Store

section
variable {s : Store} {ticks : List Tick} {key : CandleKey} {c : Candle} {fine : Interval}

theorem Tallied.bucket_eq (tallied : Tallied ticks s) (found : s.rows.get? key = some c)
    {tick : Tick} (falls : tick.Falls key) :
    key.interval.bucketAt tick.time.seconds = ⟨c.openTime, c.closeTime⟩ := by
  have partition := Interval.partition_bucketAt key.interval
  have opens : (key.interval.bucketAt tick.time.seconds).opening = key.openTime := by
    rw [← Interval.bucket_eq_bucketAt]
    exact falls.2
  have own : c.openTime = key.openTime := congrArg CandleKey.openTime (tallied.coherent.keyed key c found)
  have closes := (tallied.tallies found).closeTime
  rw [← opens, partition.opening] at closes
  rw [own, closes, ← opens]

variable (tallied : Tallied ticks s) (found : s.rows.get? key = some c)
  (refines : fine.Refines key.interval)

include tallied found refines

theorem Tallied.falls_of_part {part : Candle}
    (mem : part ∈ s.rows.within key.symbol fine c.openTime c.closeTime) {tick : Tick}
    (falls : tick.Falls part.key) : tick.Falls key := by
  obtain ⟨stored, symbol, interval, after, before⟩ := tallied.coherent.mem_within.mp mem
  obtain ⟨first, own, -⟩ := List.mem_map.mp (tallied.tallies found).high.mem
  have bucket := tallied.bucket_eq found (mem_trades.mp own).2
  have opens : (fine.bucketAt tick.time.seconds).opening = part.openTime := by
    rw [← Interval.bucket_eq_bucketAt, ← interval]
    exact falls.2
  have same : key.interval.bucketAt first.time.seconds =
      key.interval.bucketAt tick.time.seconds := by
    apply refines.eq_of_inside
    · rw [opens, bucket]
      exact after
    · rw [opens, bucket]
      exact before
  refine ⟨falls.1.trans symbol, ?_⟩
  rw [Interval.bucket_eq_bucketAt, ← same, bucket]
  exact congrArg CandleKey.openTime (tallied.coherent.keyed key c found)

theorem Tallied.exists_part {tick : Tick} (mem : tick ∈ key.trades ticks) :
    ∃ part ∈ s.rows.within key.symbol fine c.openTime c.closeTime, part.key = keyOf tick fine := by
  obtain ⟨seen, falls⟩ := mem_trades.mp mem
  have own : tick ∈ (keyOf tick fine).trades ticks := mem_trades.mpr ⟨seen, rfl, rfl⟩
  have bucket := tallied.bucket_eq found falls
  have inside := refines.inside_bucketAt tick.time.seconds
  have around := Bucket.contains_iff.mp ((Interval.partition_bucketAt fine).contains tick.time.seconds)
  rw [bucket] at inside
  cases stored : s.rows.get? (keyOf tick fine) with
  | none =>
      have nothing : s.view (keyOf tick fine) = none := by
        rw [view, stored]
        rfl
      rw [tallied.unseen _ nothing] at own
      cases own
  | some part =>
      have keyed := tallied.coherent.keyed _ part stored
      have opens : part.openTime = (fine.bucketAt tick.time.seconds).opening := by
        rw [← Interval.bucket_eq_bucketAt]
        exact congrArg CandleKey.openTime keyed
      refine ⟨part, tallied.coherent.mem_within.mpr ⟨?_, ?_, ?_, ?_, ?_⟩, keyed⟩
      · rw [keyed, stored]
      · exact (congrArg CandleKey.symbol keyed).trans falls.1
      · exact congrArg CandleKey.interval keyed
      · rw [opens]
        exact inside.opening
      · rw [opens]
        exact Int.lt_of_lt_of_le (by omega) inside.closing

theorem Tallied.sum_trades :
    ((s.rows.within key.symbol fine c.openTime c.closeTime).map fun part =>
      (part.key.trades ticks).length).sum = (key.trades ticks).length := by
  unfold CandleKey.trades
  simp only [← List.countP_eq_length_filter]
  refine sum_countP (fun (part : Candle) (tick : Tick) => decide (tick.Falls part.key)) _ ?_
  intro tick seen
  by_cases falls : tick.Falls key
  · rw [if_pos (by simpa using falls)]
    obtain ⟨part, mem, keyed⟩ :=
      tallied.exists_part found refines (mem_trades.mpr ⟨seen, falls⟩)
    have once := List.count_eq_one_of_mem (tallied.coherent.nodup_within)
      (List.mem_map_of_mem (f := Candle.key) mem)
    rw [← once, List.count_eq_countP, List.countP_map]
    apply List.countP_congr
    intro other mem'
    have interval := (tallied.coherent.mem_within.mp mem').2.2.1
    simp only [decide_eq_true_eq, Function.comp_apply, beq_iff_eq, keyed]
    constructor
    · intro own
      rw [← interval]
      exact (keyOf_of_falls own).symm
    · intro same
      rw [same]
      exact ⟨rfl, rfl⟩
  · rw [if_neg (by simpa using falls), List.countP_eq_zero]
    intro part mem
    simpa using fun own => falls (tallied.falls_of_part found refines mem own)

theorem Tallied.exists_part_price {price : Decimal}
    (mem : price ∈ (key.trades ticks).map Tick.price) :
    ∃ part ∈ s.rows.within key.symbol fine c.openTime c.closeTime,
      price ∈ (part.key.trades ticks).map Tick.price := by
  obtain ⟨tick, own, rfl⟩ := List.mem_map.mp mem
  obtain ⟨part, inside, keyed⟩ := tallied.exists_part found refines own
  refine ⟨part, inside, List.mem_map_of_mem (mem_trades.mpr ⟨(mem_trades.mp own).1, ?_⟩)⟩
  rw [keyed]
  exact ⟨rfl, rfl⟩

theorem Tallied.price_of_part {part : Candle}
    (mem : part ∈ s.rows.within key.symbol fine c.openTime c.closeTime) {price : Decimal}
    (own : price ∈ (part.key.trades ticks).map Tick.price) :
    price ∈ (key.trades ticks).map Tick.price := by
  obtain ⟨tick, trade, rfl⟩ := List.mem_map.mp own
  obtain ⟨seen, falls⟩ := mem_trades.mp trade
  exact List.mem_map_of_mem (mem_trades.mpr ⟨seen, tallied.falls_of_part found refines mem falls⟩)

theorem Tallied.composed {commands : Nat} (few : ticks.length ≤ commands) :
    c.Composed commands (s.rows.within key.symbol fine c.openTime c.closeTime) := by
  have whole := tallied.tallies found
  have told {part : Candle} (mem : part ∈ s.rows.within key.symbol fine c.openTime c.closeTime) :=
    tallied.tallies (tallied.coherent.mem_within.mp mem).1
  have counts := tallied.sum_trades found refines
  have fewer (key : CandleKey) : (key.trades ticks).length ≤ commands :=
    (List.length_filter_le _ ticks).trans few
  have highs {part : Candle} (mem : part ∈ s.rows.within key.symbol fine c.openTime c.closeTime) :
      part.highPrice ≤ c.highPrice :=
    whole.high.bound _ (tallied.price_of_part found refines mem (told mem).high.mem)
  have lows {part : Candle} (mem : part ∈ s.rows.within key.symbol fine c.openTime c.closeTime) :
      c.lowPrice ≤ part.lowPrice :=
    whole.low.bound _ (tallied.price_of_part found refines mem (told mem).low.mem)
  obtain ⟨highest, highMem, high⟩ := tallied.exists_part_price found refines whole.high.mem
  obtain ⟨lowest, lowMem, low⟩ := tallied.exists_part_price found refines whole.low.mem
  constructor
  case nonempty => exact List.ne_nil_of_mem highMem
  case counted =>
    rw [whole.count, ← counts, List.sum_nat_mod, List.map_map]
    congr 2
    apply List.map_congr_left
    intro part mem
    exact ((told mem).count).symm
  case count =>
    intro counted
    rw [whole.count, Nat.mod_eq_of_lt ((fewer key).trans_lt counted), ← counts]
    congr 1
    apply List.map_congr_left
    intro part mem
    rw [(told mem).count, Nat.mod_eq_of_lt ((fewer part.key).trans_lt counted)]
  case high_le => exact fun part mem => highs mem
  case high =>
    exact ⟨highest, highMem, Decimal.same_of_le (highs highMem) ((told highMem).high.bound _ high)⟩
  case low_le => exact fun part mem => lows mem
  case low =>
    exact ⟨lowest, lowMem, Decimal.same_of_le ((told lowMem).low.bound _ low) (lows lowMem)⟩

end

theorem length_trades_le (commands : List Command) : (trades commands).length ≤ commands.length :=
  List.length_filterMap_le ..

/-- The buckets of a finer interval lie in those of a coarser one, each in one. In a run without a
failure, every candle is made of the finer ones that open in its time. -/
theorem run_composed (now : Nat) (wall : Instant) (ids : Nat → Uuid) (policy : CachePolicy)
    {commands : List Command} (quiet : ∀ before, before <+: commands →
      ((create (.empty now wall ids) policy).run before).metrics.intervalFailures = 0)
    {fine coarse : Interval} (refines : fine.Refines coarse) :
    (∀ t, ∃! outer, (∃ t', outer = coarse.bucket t') ∧ (fine.bucket t).Inside outer) ∧
      ∀ key c, key.interval = coarse →
        ((create (.empty now wall ids) policy).run commands).store.getRow key = .ok (some c) →
        ∃ parts, c.Composed commands.length parts ∧
          ∀ limit, ((create (.empty now wall ids) policy).run commands).store.range key.symbol fine
            c.openTime c.closeTime limit = .ok (parts.take limit) := by
  refine ⟨refines.existsUnique_bucket, ?_⟩
  rintro key c rfl row
  have tallied := tallied_run now wall ids policy quiet
  rw [tallied.coherent.getRow, Except.ok.injEq] at row
  exact ⟨_, tallied.composed row refines (length_trades_le commands), tallied.coherent.range_eq⟩

def twoTrades : List Command :=
  let one : Decimal := ⟨false, 1, 0, by decide, by decide⟩
  let ten : Decimal := ⟨false, 10, 0, by decide, by decide⟩
  let minute : Instant := ⟨60, 0, by decide, by decide, by decide⟩
  [.ingest ⟨⟨"BTC-USDT"⟩, one, one, .epoch⟩ 0, .advance 1000000000000000000 .epoch,
    .ingest ⟨⟨"BTC-USDT"⟩, ten, one, minute⟩ 0]

theorem two_trades_composed :
    (∀ before, before <+: twoTrades →
      ((create (.empty 0 .epoch Uuid.serial) .standard).run before).metrics.intervalFailures = 0) ∧
      Interval.oneMinute.Refines .fiveMinutes ∧
      ∃ c parts, ((create (.empty 0 .epoch Uuid.serial) .standard).run twoTrades).store.getRow
          ⟨⟨"BTC-USDT"⟩, .fiveMinutes, 0⟩ = .ok (some c) ∧
        c.tradeCount = 2 ∧ c.Composed 3 parts := by
  have quiet : ∀ before, before <+: twoTrades →
      ((create (.empty 0 .epoch Uuid.serial) .standard).run before).metrics.intervalFailures = 0 := by
    have all : ∀ before ∈ twoTrades.inits,
        ((create (.empty 0 .epoch Uuid.serial) .standard).run before).metrics.intervalFailures = 0 := by
      decide +kernel
    exact fun before part => all before ((List.mem_inits _ _).mpr part)
  have refines : Interval.oneMinute.Refines .fiveMinutes := ⟨by decide, by decide⟩
  have counted : (((create (.empty 0 .epoch Uuid.serial) .standard).run twoTrades).store.rows.get?
      ⟨⟨"BTC-USDT"⟩, .fiveMinutes, 0⟩).map Candle.tradeCount = some 2 := by decide +kernel
  obtain ⟨c, stored, count⟩ := Option.map_eq_some_iff.mp counted
  have row := (tallied_run 0 .epoch Uuid.serial .standard quiet).coherent.getRow_of_get? stored
  obtain ⟨parts, composed, -⟩ := (run_composed 0 .epoch Uuid.serial .standard quiet refines).2 _ c rfl row
  exact ⟨quiet, refines, c, parts, row, count, composed⟩

end Engine

end CandleFeed
