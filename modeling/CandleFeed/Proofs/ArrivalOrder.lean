import CandleFeed.Proofs.Totals

/-!
# Trades in another order

The high, the low and the count of a candle do not depend on the order of its trades. Its amounts
are sums of decimals, which are rounded where they have no room for all places, and then the order
counts: a large amount takes the places of what is added to it later. Two orders are never further
apart than what both were rounded by.
-/

namespace CandleFeed

namespace Candle

def volumeRounding (c d : Candle) (fill : Fill) : ℚ :=
  d.volume.tolerance (c.volume.value + fill.quantity.value)

def quoteRounding (c d : Candle) (fill : Fill) : ℚ :=
  match fill.price.mul fill.quantity with
  | none => 0
  | some amount =>
      amount.tolerance fill.notional + d.quoteAmount.tolerance (c.quoteAmount.value + amount.value)

def rounding (step : Candle → Candle → Fill → ℚ) (c : Candle) : List Fill → ℚ
  | [] => 0
  | fill :: rest =>
      match c.applyTrade fill.price fill.quantity with
      | .error _ => 0
      | .ok d => step c d fill + d.rounding step rest

variable {c d : Candle} {fill : Fill} {fills : List Fill}

theorem volume_near (ok : c.applyTrade fill.price fill.quantity = .ok d) :
    |d.volume.value - (c.volume.value + fill.quantity.value)| ≤ c.volumeRounding d fill := by
  obtain ⟨volume, amount, quoteAmount, sum, -, -, rfl⟩ := applyTrade_eq_ok ok
  exact Decimal.add_near sum

theorem quoteAmount_near (ok : c.applyTrade fill.price fill.quantity = .ok d) :
    |d.quoteAmount.value - (c.quoteAmount.value + fill.notional)| ≤ c.quoteRounding d fill := by
  obtain ⟨volume, amount, quoteAmount, -, product, sum, rfl⟩ := applyTrade_eq_ok ok
  have step : quoteAmount.value - (c.quoteAmount.value + fill.notional) =
      (amount.value - fill.notional) +
        (quoteAmount.value - (c.quoteAmount.value + amount.value)) := by
    ring
  unfold quoteRounding
  rw [product]
  dsimp only
  rw [step]
  exact (abs_add_le _ _).trans (add_le_add (Decimal.mul_near product) (Decimal.add_near sum))

theorem applyFills_near {amount : Candle → ℚ} {share : Fill → ℚ} {step : Candle → Candle → Fill → ℚ}
    (near : ∀ {c d : Candle} {fill : Fill}, c.applyTrade fill.price fill.quantity = .ok d →
      |amount d - (amount c + share fill)| ≤ step c d fill)
    (ok : c.applyFills fills = .ok d) :
    |amount d - (amount c + Fill.total share fills)| ≤ c.rounding step fills := by
  induction fills generalizing c with
  | nil =>
      cases ok
      simp [Fill.total, rounding]
  | cons fill rest ih =>
      obtain ⟨traded, first, run⟩ := applyFills_cons_eq_ok ok
      have split : amount d - (amount c + Fill.total share (fill :: rest)) =
          (amount traded - (amount c + share fill)) +
            (amount d - (amount traded + Fill.total share rest)) := by
        rw [Fill.total, List.map_cons, List.sum_cons]
        unfold Fill.total
        ring
      unfold rounding
      rw [first]
      dsimp only
      rw [split]
      exact (abs_add_le _ _).trans (add_le_add (near first) (ih run))

theorem applyFills_fixed (ok : c.applyFills fills = .ok d) :
    d = { c with
      highPrice := d.highPrice, lowPrice := d.lowPrice, closePrice := d.closePrice
      volume := d.volume, quoteAmount := d.quoteAmount, tradeCount := d.tradeCount } := by
  induction fills generalizing c with
  | nil =>
      cases ok
      rfl
  | cons fill rest ih =>
      obtain ⟨traded, first, run⟩ := applyFills_cons_eq_ok ok
      have later := ih run
      obtain ⟨volume, amount, quoteAmount, -, -, -, rfl⟩ := applyTrade_eq_ok first
      exact later

end Candle

namespace Fill

variable {fills others : List Fill}

theorem total_perm {share : Fill → ℚ} (perm : fills.Perm others) :
    total share fills = total share others :=
  (perm.map share).sum_eq

theorem HaveRoom.perm (room : HaveRoom fills) (perm : fills.Perm others) : HaveRoom others := by
  have longest (share : Fill → Nat) :
      (fills.map share).foldr max 0 = (others.map share).foldr max 0 :=
    (perm.map share).foldr_eq 0
  constructor
  case price_pos => exact fun fill mem => room.price_pos fill (perm.mem_iff.mpr mem)
  case quantity_nonneg => exact fun fill mem => room.quantity_nonneg fill (perm.mem_iff.mpr mem)
  case places_le => exact fun fill mem => room.places_le fill (perm.mem_iff.mpr mem)
  case volume =>
    have volume := room.volume
    rwa [Fill.volume, total_perm perm, volumePlaces, longest] at volume
  case quoteAmount =>
    have quoteAmount := room.quoteAmount
    rwa [Fill.quoteAmount, total_perm perm, quotePlaces, longest] at quoteAmount

end Fill

theorem Extreme.value_eq {order : Decimal → Decimal → Prop}
    (antisymm : ∀ {a b}, order a b → order b a → a.value = b.value) {last last' : Decimal}
    {prices others : List Decimal} (extreme : Extreme order last prices)
    (extreme' : Extreme order last' others) (same : ∀ price, price ∈ prices ↔ price ∈ others) :
    last.value = last'.value :=
  antisymm (extreme'.bound last ((same last).mp extreme.mem))
    (extreme.bound last' ((same last').mpr extreme'.mem))

namespace Candle

/-- Two candles that differ in the first and the last price only, and in amounts not far from each
other. -/
structure Alike (volumeSlack quoteSlack : ℚ) (c d : Candle) : Prop where
  others : c = { d with
    openPrice := c.openPrice, highPrice := c.highPrice, lowPrice := c.lowPrice
    closePrice := c.closePrice, volume := c.volume, quoteAmount := c.quoteAmount }
  high : c.highPrice.value = d.highPrice.value
  low : c.lowPrice.value = d.lowPrice.value
  count : c.tradeCount = d.tradeCount
  volume : |c.volume.value - d.volume.value| ≤ volumeSlack
  quoteAmount : |c.quoteAmount.value - d.quoteAmount.value| ≤ quoteSlack

theorem abs_sub_le_add {x y exact slack slack' : ℚ} (near : |x - exact| ≤ slack)
    (near' : |y - exact| ≤ slack') : |x - y| ≤ slack + slack' := by
  rw [abs_sub_comm] at near'
  exact (abs_sub_le x exact y).trans (add_le_add near near')

variable {symbol : Symbol} {interval : Interval} {bucket : Bucket} {first first' : Fill}
  {rest rest' : List Fill}

theorem ofFills_near {amount : Candle → ℚ} {share : Fill → ℚ} {step : Candle → Candle → Fill → ℚ}
    (near : ∀ {c d : Candle} {fill : Fill}, c.applyTrade fill.price fill.quantity = .ok d →
      |amount d - (amount c + share fill)| ≤ step c d fill)
    (nothing : amount (openBucket symbol interval bucket first.price) = 0)
    (ok : ofFills symbol interval bucket first rest = .ok c) :
    |amount c - Fill.total share (first :: rest)| ≤
      (openBucket symbol interval bucket first.price).rounding step (first :: rest) := by
  have near := applyFills_near near ok
  rwa [nothing, zero_add] at near

theorem ofFills_eq_total (room : Fill.HaveRoom (first :: rest))
    (ok : ofFills symbol interval bucket first rest = .ok c) :
    c.volume.value = Fill.volume (first :: rest) ∧
      c.quoteAmount.value = Fill.quoteAmount (first :: rest) := by
  obtain ⟨d, same, sums⟩ := (sums_openBucket symbol interval bucket first.price _ _).exists_applyFills
    room (List.Sublist.refl (first :: rest))
  obtain rfl := Except.ok.inj (ok.symm.trans same)
  exact ⟨sums.volume.value, sums.quoteAmount.value⟩

/-- The candles of the same trades in two orders have the same high, low and count, and they are the
same but for the first and the last price and the amounts. Their amounts are apart by no more than
what both runs were rounded by, so that they are the same if neither was rounded, as with trades
that have room. -/
theorem ofFills_perm (perm : (first :: rest).Perm (first' :: rest'))
    (ok : ofFills symbol interval bucket first rest = .ok c)
    (ok' : ofFills symbol interval bucket first' rest' = .ok d) :
    let start := openBucket symbol interval bucket first.price
    let start' := openBucket symbol interval bucket first'.price
    c.Alike
        (start.rounding volumeRounding (first :: rest) +
          start'.rounding volumeRounding (first' :: rest'))
        (start.rounding quoteRounding (first :: rest) +
          start'.rounding quoteRounding (first' :: rest')) d ∧
      (Fill.HaveRoom (first :: rest) →
        c.volume.value = d.volume.value ∧ c.quoteAmount.value = d.quoteAmount.value) := by
  intro start start'
  have spans := spans_ofFills ok
  have spans' := spans_ofFills ok'
  have same : ∀ price, price ∈ (first :: rest).map Fill.price ↔
      price ∈ (first' :: rest').map Fill.price :=
    fun price => (perm.map Fill.price).mem_iff
  have nothing := Decimal.value_of_isZero (d := .zero) rfl
  refine ⟨?_, ?_⟩
  · have count : c.tradeCount = d.tradeCount := by rw [spans.count, spans'.count, perm.length_eq]
    constructor
    case others =>
      rw [applyFills_fixed ok, applyFills_fixed ok', count]
      rfl
    case high =>
      refine spans.high.value_eq ?_ spans'.high same
      exact fun le ge => le_antisymm (Decimal.le_iff_value.mp le) (Decimal.le_iff_value.mp ge)
    case low =>
      refine spans.low.value_eq ?_ spans'.low same
      exact fun ge le => le_antisymm (Decimal.le_iff_value.mp le) (Decimal.le_iff_value.mp ge)
    case count => exact count
    case volume =>
      have near := ofFills_near volume_near nothing ok
      have near' := ofFills_near volume_near nothing ok'
      rw [← Fill.total_perm perm] at near'
      exact abs_sub_le_add near near'
    case quoteAmount =>
      have near := ofFills_near quoteAmount_near nothing ok
      have near' := ofFills_near quoteAmount_near nothing ok'
      rw [← Fill.total_perm perm] at near'
      exact abs_sub_le_add near near'
  · intro room
    obtain ⟨volume, quoteAmount⟩ := ofFills_eq_total room ok
    obtain ⟨volume', quoteAmount'⟩ := ofFills_eq_total (room.perm perm) ok'
    rw [volume, volume', quoteAmount, quoteAmount']
    exact ⟨Fill.total_perm perm, Fill.total_perm perm⟩

theorem exists_ok_of_map {f : α → β} {result : Except ε α} {b : β} (mapped : result.map f = .ok b) :
    ∃ a, result = .ok a ∧ f a = b := by
  cases result with
  | error => cases mapped
  | ok a => exact ⟨a, rfl, Except.ok.inj mapped⟩

/-- Two small quantities and a large one. Behind the large one each of them is rounded off, but
ahead of it they make one unit together. -/
theorem ofFills_rounded :
    let bucket : Bucket := ⟨0, 60⟩
    let one : Decimal := ⟨false, 1, 0, by decide, by decide⟩
    let large : Fill := ⟨one, ⟨false, Decimal.maxMantissa - 1, 0, by decide, by decide⟩⟩
    let small : Fill := ⟨one, ⟨false, 4, 1, by decide, by decide⟩⟩
    [large, small, small].Perm [small, small, large] ∧
      (∀ fill ∈ [large, small, small], .zero < fill.price ∧ .zero ≤ fill.quantity) ∧
      ∃ c d, ofFills ⟨"BTC-USDT"⟩ .oneMinute bucket large [small, small] = .ok c ∧
        ofFills ⟨"BTC-USDT"⟩ .oneMinute bucket small [small, large] = .ok d ∧
        c.volume.value = Decimal.maxMantissa - 1 ∧ d.volume.value = Decimal.maxMantissa ∧
        c.volume.value ≠ d.volume.value := by
  intro bucket one large small
  have perm : [large, small, small].Perm [small, small, large] :=
    @List.perm_append_comm _ [large] [small, small]
  have behind : (ofFills ⟨"BTC-USDT"⟩ .oneMinute bucket large [small, small]).map
      (fun c => c.volume.value) = .ok (Decimal.maxMantissa - 1) := by decide +kernel
  have ahead : (ofFills ⟨"BTC-USDT"⟩ .oneMinute bucket small [small, large]).map
      (fun c => c.volume.value) = .ok Decimal.maxMantissa := by decide +kernel
  obtain ⟨c, ok, volume⟩ := exists_ok_of_map behind
  obtain ⟨d, ok', volume'⟩ := exists_ok_of_map ahead
  refine ⟨perm, by decide, c, d, ok, ok', volume, volume', ?_⟩
  rw [volume, volume']
  norm_num

theorem ofFills_perm_apart :
    let bucket : Bucket := ⟨0, 60⟩
    let one : Decimal := ⟨false, 1, 0, by decide, by decide⟩
    let two : Decimal := ⟨false, 20, 1, by decide, by decide⟩
    let large : Fill := ⟨one, ⟨false, Decimal.maxMantissa - 1, 0, by decide, by decide⟩⟩
    let small : Fill := ⟨one, ⟨false, 4, 1, by decide, by decide⟩⟩
    let other : Fill := ⟨two, ⟨false, 25, 2, by decide, by decide⟩⟩
    let minute := ofFills ⟨"BTC-USDT"⟩ .oneMinute bucket
    [large, small, small].Perm [small, small, large] ∧
      (∃ c d, minute large [small, small] = .ok c ∧ minute small [small, large] = .ok d ∧
        c.Alike (3 / 2) (3 / 2) d) ∧
      [small, other].Perm [other, small] ∧ Fill.HaveRoom [small, other] ∧
      ∃ c d, minute small [other] = .ok c ∧ minute other [small] = .ok d ∧
        c.volume.value = d.volume.value ∧ c.quoteAmount.value = d.quoteAmount.value := by
  intro bucket one two large small other minute
  have perm : [large, small, small].Perm [small, small, large] :=
    @List.perm_append_comm _ [large] [small, small]
  have swap : [small, other].Perm [other, small] := .swap other small []
  have room : Fill.HaveRoom [small, other] :=
    ⟨by decide, by decide, by decide, by decide +kernel, by decide +kernel⟩
  have run (first : Fill) (rest : List Fill)
      (counted : (minute first rest).map tradeCount = .ok (rest.length + 1)) :
      ∃ c, minute first rest = .ok c := by
    obtain ⟨c, ok, -⟩ := exists_ok_of_map counted
    exact ⟨c, ok⟩
  obtain ⟨c, ok⟩ := run large [small, small] (by decide +kernel)
  obtain ⟨d, ok'⟩ := run small [small, large] (by decide +kernel)
  obtain ⟨c', first⟩ := run small [other] (by decide +kernel)
  obtain ⟨d', second⟩ := run other [small] (by decide +kernel)
  obtain ⟨alike, -⟩ := ofFills_perm perm ok ok'
  obtain ⟨-, same⟩ := ofFills_perm swap first second
  have volume : (openBucket ⟨"BTC-USDT"⟩ .oneMinute bucket large.price).rounding volumeRounding
        [large, small, small] +
      (openBucket ⟨"BTC-USDT"⟩ .oneMinute bucket small.price).rounding volumeRounding
        [small, small, large] = 3 / 2 := by decide +kernel
  have quoteAmount : (openBucket ⟨"BTC-USDT"⟩ .oneMinute bucket large.price).rounding quoteRounding
        [large, small, small] +
      (openBucket ⟨"BTC-USDT"⟩ .oneMinute bucket small.price).rounding quoteRounding
        [small, small, large] = 3 / 2 := by decide +kernel
  rw [volume, quoteAmount] at alike
  exact ⟨perm, ⟨c, d, ok, ok', alike⟩, swap, room, c', d', first, second, same room⟩

end Candle

end CandleFeed
