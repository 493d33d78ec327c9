import CandleFeed.Proofs.Engine.Containment

/-!
# Had no interval failed

The rows of a trade that fails in some intervals are those of the same trade in an engine in which
it fails in none of them, as long as the two engines have the same candles in the other intervals.
Such an engine is made from any engine: the table answers again, and the candles that the trade
failed on are not there.
-/

namespace CandleFeed.Engine
open Store

/-- In the engine `healthy` a trade fails nowhere, and finds the same candles where it does not fail
in `e`. -/
structure Unharmed (e : Engine) (tick : Tick) (healthy : Engine) : Prop where
  tidy : healthy.store.Tidy
  succeeds : ∀ i, healthy.fails tick i = false
  same : ∀ i, e.fails tick i = false →
    (healthy.current tick i).unstamped = (e.current tick i).unstamped

def outcome? (e : Engine) (tick : Tick) (i : Interval) : Option Candle :=
  (((e.current tick i).applyTrade tick.price tick.quantity).map Candle.unstamped).toOption

theorem Unharmed.outcome? {e healthy : Engine} {tick : Tick} (unharmed : Unharmed e tick healthy)
    {i : Interval} (passed : e.fails tick i = false) :
    healthy.outcome? tick i = e.outcome? tick i := by
  unfold Engine.outcome?
  rw [← Candle.applyTrade_unstamped, unharmed.same i passed, Candle.applyTrade_unstamped]

theorem Contained.outcomes {e : Engine} {tick : Tick} {done : List Interval}
    {state : Engine × List Candle} (contained : Contained e tick done state) (test : Interval → Bool) :
    ((state.2.filter fun row => test row.interval).map Candle.unstamped).map some =
      ((state.2.map Candle.interval).filter test).map (e.outcome? tick) := by
  rw [List.filter_map, List.map_map, List.map_map]
  apply List.map_congr_left
  intro row mem
  obtain ⟨-, folded, -⟩ := contained.written row (List.mem_filter.mp mem).1
  exact congrArg Except.toOption folded.symm

theorem Contained.written_unharmed {e healthy : Engine} {tick : Tick} {done : List Interval}
    {state state' : Engine × List Candle} (contained : Contained e tick done state)
    (whole : Contained healthy tick done state') (unharmed : Unharmed e tick healthy) :
    state.2.map Candle.unstamped =
      (state'.2.filter fun row => !e.fails tick row.interval).map Candle.unstamped := by
  have all : state'.2.map Candle.interval = done := by
    rw [whole.intervals]
    exact List.filter_eq_self.mpr fun i _ => by rw [unharmed.succeeds i]; rfl
  have mine := contained.outcomes fun _ => true
  have theirs := whole.outcomes fun i => !e.fails tick i
  rw [all] at theirs
  rw [List.filter_eq_self.mpr fun _ _ => rfl, List.filter_eq_self.mpr fun _ _ => rfl,
    contained.intervals] at mine
  apply (List.map_inj_right fun _ _ => Option.some.inj).mp
  rw [mine, theirs]
  apply List.map_congr_left
  intro i mem
  exact (unharmed.outcome? (by simpa using (List.mem_filter.mp mem).2)).symm

def lost (e : Engine) (tick : Tick) (key : CandleKey) : Bool :=
  e.fails tick key.interval && key = keyOf tick key.interval

def mended (e : Engine) (tick : Tick) : Engine :=
  { e with
    store :=
      { e.store with
        outage := { e.store.outage with rowRead := fun _ => none, rowWrite := fun _ => none }
        rows := { e.store.rows with table := e.store.rows.table.filter fun key _ => !e.lost tick key }
        cache :=
          { e.store.cache with
            entries := e.store.cache.entries.filter fun text _ =>
              Interval.all.all fun i => !e.fails tick i || text ≠ (keyOf tick i).cacheKey } } }

theorem live_mended (e : Engine) (tick : Tick) (i : Interval) (now : Nat) :
    (e.mended tick).store.cache.live? now (keyOf tick i).cacheKey =
      if e.fails tick i then none else e.store.cache.live? now (keyOf tick i).cacheKey := by
  have kept : (Interval.all.all fun j =>
      !e.fails tick j || (keyOf tick i).cacheKey ≠ (keyOf tick j).cacheKey) = !e.fails tick i := by
    rw [Bool.eq_iff_iff, List.all_eq_true]
    constructor
    · intro all
      simpa using all i (Interval.mem_all i)
    · intro passed j _
      by_cases own : i = j
      · rw [← own, passed]
        rfl
      · have apart : (keyOf tick i).cacheKey ≠ (keyOf tick j).cacheKey := fun same =>
          own (congrArg CandleKey.interval (CandleKey.cacheKey_injective same))
        simp [apart]
  unfold Cache.live? mended
  dsimp only
  rw [Table.get?_filter, kept]
  cases e.fails tick i <;> cases e.store.cache.entries.get? (keyOf tick i).cacheKey <;> rfl

theorem cached?_mended (e : Engine) (tick : Tick) (i : Interval) :
    (e.mended tick).store.cached? (keyOf tick i) =
      if e.fails tick i then none else e.store.cached? (keyOf tick i) := by
  rw [cached?_eq, cached?_eq, live_mended]
  change (if e.store.outage.cacheRead.isSome then none else _) = _
  cases e.store.outage.cacheRead <;> cases e.fails tick i <;> rfl

theorem get?_rows_mended (e : Engine) (tick : Tick) (key : CandleKey) :
    (e.mended tick).store.rows.get? key =
      (e.store.rows.get? key).filter fun _ => !e.lost tick key :=
  Table.get?_filter ..

theorem current_mended (e : Engine) (tick : Tick) (i : Interval) :
    (e.mended tick).current tick i =
      if e.fails tick i then Candle.base (keyOf tick i) tick none else e.current tick i := by
  have own : e.lost tick (keyOf tick i) = e.fails tick i := by simp [lost, keyOf]
  unfold current
  rw [cached?_mended, get?_rows_mended, own]
  cases e.fails tick i with
  | true => cases e.store.rows.get? (keyOf tick i) <;> rfl
  | false => cases e.store.rows.get? (keyOf tick i) <;> rfl

theorem tidy_mended {e : Engine} (tidy : e.store.Tidy) (tick : Tick) :
    (e.mended tick).store.Tidy where
  keyed key row found := by
    rw [get?_rows_mended] at found
    exact tidy.keyed key row (Option.filter_eq_some_iff.mp found).1
  storable key row found := by
    rw [get?_rows_mended] at found
    exact tidy.storable key row (Option.filter_eq_some_iff.mp found).1
  cached text entry found := by
    unfold mended at found
    dsimp only at found
    rw [Table.get?_filter] at found
    exact tidy.cached text entry (Option.filter_eq_some_iff.mp found).1

theorem exists_traded_base {c traded : Candle} {tick : Tick}
    (ok : c.applyTrade tick.price tick.quantity = .ok traded) (key : CandleKey) :
    ∃ first, (Candle.base key tick none).applyTrade tick.price tick.quantity = .ok first := by
  obtain ⟨volume, amount, quoteAmount, -, product, -, -⟩ := Candle.applyTrade_eq_ok ok
  have zero : Decimal.zero.isZero = true := rfl
  simp [Candle.base, Candle.openBucket, Candle.applyTrade, Candle.quoteAmountWith, product,
    Decimal.add_zero_left _ zero]

theorem unharmed_mended {e : Engine} (tidy : e.store.Tidy) {tick : Tick} {i : Interval}
    (passed : e.fails tick i = false) : Unharmed e tick (e.mended tick) where
  tidy := tidy_mended tidy tick
  succeeds := by
    obtain ⟨traded, ok⟩ := exists_traded passed
    intro j
    have read : (e.mended tick).unread tick j = false := Bool.and_false _
    have written : (e.mended tick).unwritten j = false := rfl
    have room : ∃ traded, ((e.mended tick).current tick j).applyTrade tick.price tick.quantity =
        .ok traded := by
      rw [current_mended]
      cases failed : e.fails tick j with
      | false => exact exists_traded failed
      -- the candle is new, and has room because that of `i` has
      | true => exact exists_traded_base ok (keyOf tick j)
    obtain ⟨traded, room⟩ := room
    unfold fails overflows
    rw [read, written, room]
    rfl
  same j passed := by
    rw [current_mended, passed]
    rfl

end CandleFeed.Engine
