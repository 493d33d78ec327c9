import CandleFeed.Proofs.Decimal.Tolerance
import CandleFeed.Proofs.Engine.Folded
import CandleFeed.Proofs.Engine.Tally
import Mathlib.Algebra.BigOperators.Group.List.Basic
import Mathlib.Algebra.Order.BigOperators.Group.List
import Mathlib.Data.List.MinMax

/-!
# The totals of a candle

A candle is opened at the price of its first trade, and all its trades are folded into it. Its
prices, its count and its order are those of the trades in every run that succeeds. Its amounts are
the exact totals, and no trade is refused, if these totals have room with the places of their
longest shares: no sum on the way is larger or has more places.
-/

namespace CandleFeed

structure Fill where
  price : Decimal
  quantity : Decimal

namespace Fill

def notional (fill : Fill) : ℚ :=
  fill.price.value * fill.quantity.value

def places (fill : Fill) : Nat :=
  fill.price.scale + fill.quantity.scale

def total (share : Fill → ℚ) (fills : List Fill) : ℚ :=
  (fills.map share).sum

def volume (fills : List Fill) : ℚ :=
  total (fun fill => fill.quantity.value) fills

def quoteAmount (fills : List Fill) : ℚ :=
  total notional fills

def volumePlaces (fills : List Fill) : Nat :=
  (fills.map fun fill => fill.quantity.scale).foldr max 0

def quotePlaces (fills : List Fill) : Nat :=
  (fills.map places).foldr max 0

/-- Valid trades whose totals can be written with the places of their longest shares. -/
structure HaveRoom (fills : List Fill) : Prop where
  price_pos : ∀ fill ∈ fills, .zero < fill.price
  quantity_nonneg : ∀ fill ∈ fills, .zero ≤ fill.quantity
  places_le : ∀ fill ∈ fills, fill.places ≤ 28
  volume : Fill.volume fills * 10 ^ volumePlaces fills ≤ Decimal.maxMantissa
  quoteAmount : Fill.quoteAmount fills * 10 ^ quotePlaces fills ≤ Decimal.maxMantissa

end Fill

namespace Candle

def applyFills (c : Candle) : List Fill → Except InvalidTrade Candle
  | [] => .ok c
  | fill :: rest => do (← c.applyTrade fill.price fill.quantity).applyFills rest

def ofFills (symbol : Symbol) (interval : Interval) (bucket : Bucket) (first : Fill)
    (rest : List Fill) : Except InvalidTrade Candle :=
  (openBucket symbol interval bucket first.price).applyFills (first :: rest)

variable {c d : Candle} {fill : Fill} {fills : List Fill}

theorem applyFills_cons_eq_ok (ok : c.applyFills (fill :: fills) = .ok d) :
    ∃ traded, c.applyTrade fill.price fill.quantity = .ok traded ∧
      traded.applyFills fills = .ok d := by
  unfold applyFills at ok
  cases step : c.applyTrade fill.price fill.quantity with
  | error cause =>
      rw [step] at ok
      cases ok
  | ok traded =>
      rw [step] at ok
      exact ⟨traded, rfl, ok⟩

/-! ## Every run -/

structure Spans (seen : List Fill) (c : Candle) : Prop where
  opening : seen.head?.map Fill.price = some c.openPrice
  closing : seen.getLast?.map Fill.price = some c.closePrice
  high : Extreme (fun a b => a ≤ b) c.highPrice (seen.map Fill.price)
  low : Extreme (fun a b => b ≤ a) c.lowPrice (seen.map Fill.price)
  count : c.tradeCount = seen.length % UInt64.size

theorem spans_first {symbol : Symbol} {interval : Interval} {bucket : Bucket}
    (ok : (openBucket symbol interval bucket fill.price).applyTrade fill.price fill.quantity =
      .ok c) : c.Spans [fill] := by
  have high := high_applyTrade ok (extreme_singleton Decimal.le_refl fill.price)
  have low : Extreme (fun a b => b ≤ a) c.lowPrice [fill.price, fill.price] := by
    apply low_applyTrade ok
    apply extreme_singleton
    exact Decimal.le_refl
  have same : ∀ price, price ∈ [fill.price] ↔ price ∈ [fill.price, fill.price] := by
    intro price
    simp
  obtain ⟨volume, amount, quoteAmount, -, -, -, rfl⟩ := applyTrade_eq_ok ok
  constructor
  case opening => rfl
  case closing => rfl
  case high => exact high.of_mem_iff same
  case low => exact low.of_mem_iff same
  case count => rfl

variable {seen : List Fill}

theorem Spans.applyTrade (spans : c.Spans seen)
    (ok : c.applyTrade fill.price fill.quantity = .ok d) : d.Spans (seen ++ [fill]) := by
  have high := high_applyTrade ok spans.high
  have low := low_applyTrade ok spans.low
  have same : ∀ price, price ∈ (seen ++ [fill]).map Fill.price ↔
      price ∈ fill.price :: seen.map Fill.price := by
    intro price
    rw [List.map_append, List.map_singleton, List.mem_append, List.mem_singleton, List.mem_cons,
      or_comm]
  obtain ⟨volume, amount, quoteAmount, -, -, -, rfl⟩ := applyTrade_eq_ok ok
  constructor
  case opening =>
    obtain ⟨first, head, price⟩ := Option.map_eq_some_iff.mp spans.opening
    rw [List.head?_append, head]
    exact congrArg some price
  case closing => rw [List.getLast?_concat, Option.map_some]
  case high => exact high.of_mem_iff same
  case low => exact low.of_mem_iff same
  case count =>
    dsimp only
    rw [spans.count, Nat.mod_add_mod, List.length_append, List.length_singleton]

theorem Spans.applyFills (spans : c.Spans seen) (ok : c.applyFills fills = .ok d) :
    d.Spans (seen ++ fills) := by
  induction fills generalizing c seen with
  | nil =>
      cases ok
      rw [List.append_nil]
      exact spans
  | cons fill rest ih =>
      obtain ⟨traded, step, run⟩ := applyFills_cons_eq_ok ok
      have spans := ih (spans.applyTrade step) run
      rwa [List.append_assoc] at spans

theorem spans_ofFills {symbol : Symbol} {interval : Interval} {bucket : Bucket} {first : Fill}
    {rest : List Fill} (ok : ofFills symbol interval bucket first rest = .ok c) :
    c.Spans (first :: rest) := by
  obtain ⟨traded, step, run⟩ := applyFills_cons_eq_ok ok
  exact (spans_first step).applyFills run

theorem isValid_applyFills (valid : c.isValid = true) (positive : ∀ fill ∈ fills, .zero < fill.price)
    (nonneg : ∀ fill ∈ fills, .zero ≤ fill.quantity) (ok : c.applyFills fills = .ok d) :
    d.isValid = true := by
  induction fills generalizing c with
  | nil =>
      cases ok
      exact valid
  | cons fill rest ih =>
      obtain ⟨traded, step, run⟩ := applyFills_cons_eq_ok ok
      obtain ⟨positive, positives⟩ := List.forall_mem_cons.mp positive
      obtain ⟨nonneg, nonnegs⟩ := List.forall_mem_cons.mp nonneg
      exact ih (isValid_applyTrade valid positive nonneg step) positives nonnegs run

/-! ## Exact amounts -/

/-- The amounts of a candle are the exact totals of its trades, with no more than so many places. -/
structure Sums (volumePlaces quotePlaces : Nat) (seen : List Fill) (c : Candle) : Prop where
  volume : c.volume.Exactly (Fill.volume seen) volumePlaces
  quoteAmount : c.quoteAmount.Exactly (Fill.quoteAmount seen) quotePlaces

end Candle

namespace Fill

theorem total_append_singleton (share : Fill → ℚ) (seen : List Fill) (fill : Fill) :
    total share (seen ++ [fill]) = total share seen + share fill := by
  rw [total, total, List.map_append, List.sum_append, List.map_singleton, List.sum_singleton]

theorem room_of_sublist {share : Fill → ℚ} {part fills : List Fill} {s t : Nat}
    (within : part.Sublist fills) (short : s ≤ t) (nonneg : ∀ fill ∈ fills, 0 ≤ share fill)
    (room : total share fills * 10 ^ t ≤ Decimal.maxMantissa) :
    |total share part| * 10 ^ s ≤ Decimal.maxMantissa := by
  have shares : ∀ x ∈ fills.map share, 0 ≤ x := by
    intro x shared
    obtain ⟨fill, mem, rfl⟩ := List.mem_map.mp shared
    exact nonneg fill mem
  have least : 0 ≤ total share part :=
    List.sum_nonneg fun x mem => shares x ((within.map share).subset mem)
  have most : total share part ≤ total share fills := (within.map share).sum_le_sum shares
  have grows : (10 : ℚ) ^ s ≤ 10 ^ t := pow_le_pow_right₀ (by norm_num) short
  rw [abs_of_nonneg least]
  exact le_trans (mul_le_mul most grows (Decimal.ten_pow_pos s).le (least.trans most)) room

/-! ### Trades that have room -/

variable {fills seen rest : List Fill} {fill : Fill}

theorem scale_le_volumePlaces (mem : fill ∈ fills) : fill.quantity.scale ≤ volumePlaces fills :=
  List.le_max_of_le (List.mem_map_of_mem mem) le_rfl

theorem places_le_quotePlaces (mem : fill ∈ fills) : fill.places ≤ quotePlaces fills :=
  List.le_max_of_le (List.mem_map_of_mem mem) le_rfl

theorem volumePlaces_le (fills : List Fill) : volumePlaces fills ≤ 28 := by
  apply List.max_le_of_forall_le
  intro places mem
  obtain ⟨fill, -, rfl⟩ := List.mem_map.mp mem
  exact fill.quantity.scale_le

theorem HaveRoom.quotePlaces_le (room : HaveRoom fills) : quotePlaces fills ≤ 28 := by
  apply List.max_le_of_forall_le
  intro places shared
  obtain ⟨fill, mem, rfl⟩ := List.mem_map.mp shared
  exact room.places_le fill mem

theorem HaveRoom.volume_part (room : HaveRoom fills) {part : List Fill} (within : part.Sublist fills) :
    |Fill.volume part| * 10 ^ volumePlaces fills ≤ Decimal.maxMantissa := by
  apply room_of_sublist within (Nat.le_refl _) _ room.volume
  intro fill mem
  exact Decimal.value_nonneg_iff.mpr (room.quantity_nonneg fill mem)

theorem HaveRoom.quoteAmount_part (room : HaveRoom fills) {part : List Fill}
    (within : part.Sublist fills) {s : Nat} (short : s ≤ quotePlaces fills) :
    |Fill.quoteAmount part| * 10 ^ s ≤ Decimal.maxMantissa := by
  apply room_of_sublist within short _ room.quoteAmount
  intro fill mem
  have price := Decimal.value_pos_iff.mpr (room.price_pos fill mem)
  exact mul_nonneg price.le (Decimal.value_nonneg_iff.mpr (room.quantity_nonneg fill mem))

end Fill

namespace Candle

variable {c : Candle} {fill : Fill} {seen rest : List Fill}

theorem Sums.exists_applyTrade {fills : List Fill} (room : Fill.HaveRoom fills)
    (within : (seen ++ [fill]).Sublist fills)
    (sums : c.Sums (Fill.volumePlaces fills) (Fill.quotePlaces fills) seen) :
    ∃ d, c.applyTrade fill.price fill.quantity = .ok d ∧
      d.Sums (Fill.volumePlaces fills) (Fill.quotePlaces fills) (seen ++ [fill]) := by
  have mem : fill ∈ fills := within.subset (List.mem_append_right _ List.mem_cons_self)
  have quantity : fill.quantity.Exactly fill.quantity.value (Fill.volumePlaces fills) :=
    ⟨rfl, Fill.scale_le_volumePlaces mem⟩
  have volumes := room.volume_part within
  have quotes := room.quoteAmount_part within (Nat.le_refl _)
  have alone := room.quoteAmount_part (List.singleton_sublist.mpr mem)
    (Fill.places_le_quotePlaces mem)
  rw [Fill.volume, Fill.total_append_singleton] at volumes
  rw [Fill.quoteAmount, Fill.total_append_singleton] at quotes
  rw [Fill.quoteAmount, Fill.total, List.map_singleton, List.sum_singleton] at alone
  obtain ⟨volume, sum, volumeExact⟩ :=
    Decimal.exists_add sums.volume quantity (Fill.volumePlaces_le fills) volumes
  obtain ⟨amount, product, amountExact⟩ := Decimal.exists_mul (room.places_le fill mem) alone
  obtain ⟨quoteAmount, sum', quoteExact⟩ := Decimal.exists_add sums.quoteAmount
    (amountExact.mono (Fill.places_le_quotePlaces mem)) room.quotePlaces_le quotes
  obtain ⟨d, ok, rfl, rfl⟩ := applyTrade_of sum product sum'
  refine ⟨d, ok, ?_, ?_⟩
  · rw [Fill.volume, Fill.total_append_singleton]
    exact volumeExact
  · rw [Fill.quoteAmount, Fill.total_append_singleton]
    exact quoteExact

theorem Sums.exists_applyFills {fills : List Fill} (room : Fill.HaveRoom fills)
    (within : (seen ++ rest).Sublist fills)
    (sums : c.Sums (Fill.volumePlaces fills) (Fill.quotePlaces fills) seen) :
    ∃ d, c.applyFills rest = .ok d ∧
      d.Sums (Fill.volumePlaces fills) (Fill.quotePlaces fills) (seen ++ rest) := by
  induction rest generalizing c seen with
  | nil =>
      rw [List.append_nil]
      exact ⟨c, rfl, sums⟩
  | cons fill rest ih =>
      -- what was seen is a part of all the trades, and a part takes no more room than all
      rw [List.append_cons] at within ⊢
      obtain ⟨traded, step, sums⟩ :=
        sums.exists_applyTrade room ((List.sublist_append_left _ rest).trans within)
      obtain ⟨d, run, sums⟩ := ih within sums
      refine ⟨d, ?_, sums⟩
      unfold applyFills
      rw [step]
      exact run

theorem sums_openBucket (symbol : Symbol) (interval : Interval) (bucket : Bucket) (price : Decimal)
    (volumePlaces quotePlaces : Nat) :
    (openBucket symbol interval bucket price).Sums volumePlaces quotePlaces [] where
  volume := Decimal.exactly_zero volumePlaces
  quoteAmount := Decimal.exactly_zero quotePlaces

/-- The candle of trades that have room: none of them is refused, its prices are the first, the
last, the highest and the lowest of theirs, its amounts are the exact totals, and it is valid. It
counts them all, as long as the count is a word of 64 bits. -/
theorem ofFills_exact (symbol : Symbol) (interval : Interval) {bucket : Bucket}
    (order : bucket.opening < bucket.closing) {first : Fill} {rest : List Fill}
    (room : Fill.HaveRoom (first :: rest)) :
    ∃ c, ofFills symbol interval bucket first rest = .ok c ∧ c.Spans (first :: rest) ∧
      c.volume.value = Fill.volume (first :: rest) ∧
      c.quoteAmount.value = Fill.quoteAmount (first :: rest) ∧
      ((first :: rest).length < UInt64.size → c.tradeCount = (first :: rest).length) ∧
      c.isValid = true := by
  obtain ⟨c, ok, sums⟩ := (sums_openBucket symbol interval bucket first.price _ _).exists_applyFills
    room (List.Sublist.refl (first :: rest))
  have spans := spans_ofFills ok
  have valid := isValid_applyFills (isValid_openBucket symbol interval order first.price)
    room.price_pos room.quantity_nonneg ok
  refine ⟨c, ok, spans, sums.volume.value, sums.quoteAmount.value, ?_, valid⟩
  intro few
  rw [spans.count, Nat.mod_eq_of_lt few]

theorem ofFills_exact_mixed :
    let bucket : Bucket := ⟨0, 60⟩
    let first : Fill := ⟨⟨false, 50000, 0, by decide, by decide⟩, ⟨false, 1, 1, by decide, by decide⟩⟩
    let second : Fill :=
      ⟨⟨false, 510005, 1, by decide, by decide⟩, ⟨false, 250, 3, by decide, by decide⟩⟩
    let third : Fill :=
      ⟨⟨false, 4999999, 2, by decide, by decide⟩, ⟨false, 0, 5, by decide, by decide⟩⟩
    bucket.opening < bucket.closing ∧ Fill.HaveRoom [first, second, third] ∧
      ∃ c, ofFills ⟨"BTC-USDT"⟩ .oneMinute bucket first [second, third] = .ok c ∧
        c.Spans [first, second, third] ∧ c.volume.value = 35 / 100 ∧
        c.quoteAmount.value = 17750125 / 1000 ∧ c.tradeCount = 3 ∧ c.isValid = true := by
  intro bucket first second third
  have order : bucket.opening < bucket.closing := by decide
  have room : Fill.HaveRoom [first, second, third] :=
    ⟨by decide, by decide, by decide, by decide +kernel, by decide +kernel⟩
  have volume : Fill.volume [first, second, third] = 35 / 100 := by decide +kernel
  have quoteAmount : Fill.quoteAmount [first, second, third] = 17750125 / 1000 := by decide +kernel
  obtain ⟨c, ok, spans, volume', quoteAmount', count, valid⟩ :=
    ofFills_exact ⟨"BTC-USDT"⟩ .oneMinute order room
  exact ⟨order, room, c, ok, spans, volume'.trans volume, quoteAmount'.trans quoteAmount,
    count (by decide), valid⟩

end Candle

end CandleFeed
