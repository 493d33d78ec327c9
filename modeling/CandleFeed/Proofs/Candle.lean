import CandleFeed.Candle
import CandleFeed.Proofs.Buckets
import CandleFeed.Proofs.Decimal.Reader
import CandleFeed.Proofs.Decimal.Sign
import CandleFeed.Proofs.Instant
import CandleFeed.Proofs.Json.Record
import CandleFeed.Proofs.Uuid

namespace CandleFeed

theorem Interval.bucket_length_le (i : Interval) (t : Instant) :
    (i.bucket t).closing ≤ (i.bucket t).opening + 31 * secondsPerDay := by
  have month : Calendar.daysInMonth t.date.year t.date.month ≤ 31 := by
    unfold Calendar.daysInMonth
    split <;> [skip; split <;> [split; skip]] <;> omega
  unfold bucket secondsPerDay
  cases i <;> dsimp only [alignment, seconds] <;> omega

namespace Candle
open Json Json.Codec

def signedByValue (c : Candle) : Candle :=
  { c with
    openPrice := c.openPrice.signedByValue
    highPrice := c.highPrice.signedByValue
    lowPrice := c.lowPrice.signedByValue
    closePrice := c.closePrice.signedByValue
    volume := c.volume.signedByValue
    quoteAmount := c.quoteAmount.signedByValue }

/-- What is read where a candle with positive prices was written. -/
def asRead (c : Candle) : Candle :=
  { c with volume := c.volume.signedByValue, quoteAmount := c.quoteAmount.signedByValue }

structure Fits (c : Candle) : Prop where
  opens_low : Text.minInt64 ≤ c.openTime
  opens_high : c.openTime ≤ Text.maxInt64
  closes_low : Text.minInt64 ≤ c.closeTime
  closes_high : c.closeTime ≤ Text.maxInt64
  count_le : c.tradeCount ≤ Text.maxUInt64

structure Storable (c : Candle) : Prop where
  open_pos : .zero < c.openPrice
  high_pos : .zero < c.highPrice
  low_pos : .zero < c.lowPrice
  close_pos : .zero < c.closePrice
  opens_low : Text.minInt64 ≤ c.openTime
  opens_high : c.openTime ≤ Text.maxInt64
  closes_low : Text.minInt64 ≤ c.closeTime
  closes_high : c.closeTime ≤ Text.maxInt64
  count_le : c.tradeCount ≤ Text.maxUInt64

theorem Storable.fits {c : Candle} (storable : c.Storable) : c.Fits :=
  { storable with }

theorem restores_decimal (d : Decimal) : Decimal.codec.Restores d d.signedByValue :=
  restores_spelled (Decimal.parse?_render d)

theorem restores_optional {codec : Codec α} (all : ∀ a, codec.Restores a a) (a : Option α) :
    Option.Rel codec.Restores a a := by
  cases a with
  | none => exact .none
  | some a => exact .some (all a)

theorem restores_fitting {c : Candle} (fits : c.Fits) : codec.Restores c c.signedByValue := by
  have id : Option.Rel Uuid.codec.Restores c.id c.id :=
    restores_optional (fun id => restores_spelled id.parse?_render) c.id
  have symbol : Symbol.codec.Restores c.symbol c.symbol := (restores_text c.symbol.name).map
  have interval : Interval.codec.Restores c.interval c.interval :=
    restores_named (Interval.ofCode?_code c.interval)
  have times (t : Option Instant) : Option.Rel Instant.codec.Restores t t :=
    restores_optional (fun t => restores_spelled t.read?_render) t
  refine Restores.map (a := (c.id, c.symbol, c.interval, c.openTime, c.closeTime,
    c.openPrice.signedByValue, c.highPrice.signedByValue, c.lowPrice.signedByValue,
    c.closePrice.signedByValue, c.volume.signedByValue, c.quoteAmount.signedByValue,
    c.tradeCount, c.completed, c.createdAt, c.updatedAt, ())) ?_
  apply restores_record
  · decide
  · exact ⟨id, symbol, interval, restores_int64 fits.opens_low fits.opens_high,
      restores_int64 fits.closes_low fits.closes_high, restores_decimal c.openPrice,
      restores_decimal c.highPrice, restores_decimal c.lowPrice, restores_decimal c.closePrice,
      restores_decimal c.volume, restores_decimal c.quoteAmount, restores_nat64 fits.count_le,
      restores_flag c.completed, times c.createdAt, times c.updatedAt, trivial⟩

theorem Storable.signedByValue {c : Candle} (storable : c.Storable) :
    c.signedByValue = c.asRead := by
  unfold Candle.signedByValue asRead
  rw [Decimal.signedByValue_of_pos storable.open_pos, Decimal.signedByValue_of_pos storable.high_pos,
    Decimal.signedByValue_of_pos storable.low_pos, Decimal.signedByValue_of_pos storable.close_pos]

theorem restores_codec {c : Candle} (storable : c.Storable) : codec.Restores c c.asRead := by
  rw [← storable.signedByValue]
  exact restores_fitting storable.fits

def unstamped (c : Candle) : Candle :=
  { c with id := none, createdAt := none, updatedAt := none }

theorem applyTrade_asRead (c : Candle) (price quantity : Decimal) :
    (c.asRead.applyTrade price quantity).map unstamped =
      (c.applyTrade price quantity).map unstamped := by
  have volume : c.asRead.volume.add quantity = c.volume.add quantity :=
    Decimal.add_signedByValue c.volume quantity
  have quoteAmount : c.asRead.quoteAmountWith price quantity = c.quoteAmountWith price quantity := by
    unfold quoteAmountWith
    cases price.mul quantity with
    | none => rfl
    | some amount => exact Decimal.add_signedByValue c.quoteAmount amount
  unfold applyTrade
  rw [volume, quoteAmount]
  cases c.volume.add quantity with
  | none => rfl
  | some volume =>
      cases c.quoteAmountWith price quantity with
      | none => rfl
      | some quoteAmount => rfl

theorem applyTrade_unstamped (c : Candle) (price quantity : Decimal) :
    c.unstamped.applyTrade price quantity = (c.applyTrade price quantity).map unstamped := by
  have quoteAmount : c.unstamped.quoteAmountWith price quantity = c.quoteAmountWith price quantity :=
    rfl
  have volume : c.unstamped.volume = c.volume := rfl
  unfold applyTrade
  rw [volume, quoteAmount]
  cases c.volume.add quantity with
  | none => rfl
  | some volume =>
      cases c.quoteAmountWith price quantity with
      | none => rfl
      | some quoteAmount => rfl

theorem applyTrade_eq_ok {c d : Candle} {price quantity : Decimal}
    (ok : c.applyTrade price quantity = .ok d) :
    ∃ volume amount quoteAmount, c.volume.add quantity = some volume ∧
      price.mul quantity = some amount ∧ c.quoteAmount.add amount = some quoteAmount ∧
      d = { c with
        highPrice := if c.highPrice < price then price else c.highPrice
        lowPrice := if price < c.lowPrice then price else c.lowPrice
        closePrice := price
        volume := volume
        quoteAmount := quoteAmount
        tradeCount := (c.tradeCount + 1) % UInt64.size } := by
  unfold applyTrade at ok
  cases volume : c.volume.add quantity with
  | none =>
      rw [volume] at ok
      cases ok
  | some volume' =>
      cases quoteAmount : c.quoteAmountWith price quantity with
      | none =>
          rw [volume, quoteAmount] at ok
          cases ok
      | some quoteAmount' =>
          rw [volume, quoteAmount] at ok
          cases ok
          obtain ⟨amount, product, sum⟩ := Option.bind_eq_some_iff.mp quoteAmount
          exact ⟨volume', amount, quoteAmount', rfl, product, sum, rfl⟩

theorem applyTrade_of {c : Candle} {price quantity volume amount quoteAmount : Decimal}
    (sum : c.volume.add quantity = some volume) (product : price.mul quantity = some amount)
    (sum' : c.quoteAmount.add amount = some quoteAmount) :
    ∃ d, c.applyTrade price quantity = .ok d ∧ d.volume = volume ∧ d.quoteAmount = quoteAmount := by
  have quoted : c.quoteAmountWith price quantity = some quoteAmount := by
    rw [quoteAmountWith, product]
    exact sum'
  unfold applyTrade
  rw [sum, quoted]
  exact ⟨_, rfl, rfl, rfl⟩

theorem storable_openBucket (symbol : Symbol) (interval : Interval) (t : Instant) {price : Decimal}
    (positive : .zero < price) :
    (openBucket symbol interval (interval.bucket t) price).Storable := by
  have around := Bucket.contains_iff.mp (interval.bucket_contains t)
  have length := interval.bucket_length_le t
  have first := t.first_le
  have last := t.le_last
  unfold Instant.firstSecond at first
  unfold Instant.lastSecond at last
  unfold secondsPerDay at length
  refine ⟨positive, positive, positive, positive, ?_, ?_, ?_, ?_, Nat.zero_le _⟩
  all_goals
    simp only [openBucket, Text.minInt64, Text.maxInt64]
    omega

theorem Storable.applyTrade {c d : Candle} (storable : c.Storable) {price quantity : Decimal}
    (positive : .zero < price) (ok : c.applyTrade price quantity = .ok d) : d.Storable := by
  obtain ⟨volume, amount, quoteAmount, -, -, -, rfl⟩ := applyTrade_eq_ok ok
  constructor
  case open_pos => exact storable.open_pos
  case high_pos =>
    dsimp only
    split
    · exact positive
    · exact storable.high_pos
  case low_pos =>
    dsimp only
    split
    · exact positive
    · exact storable.low_pos
  case close_pos => exact positive
  case count_le => exact Nat.le_pred_of_lt (Nat.mod_lt _ (by decide))
  case opens_low => exact storable.opens_low
  case opens_high => exact storable.opens_high
  case closes_low => exact storable.closes_low
  case closes_high => exact storable.closes_high

theorem Storable.asRead {c : Candle} (storable : c.Storable) : c.asRead.Storable :=
  { storable with }

def Found (fresh : Candle) : Option Candle → Candle → Prop
  | none, candle => candle = fresh
  | some row, candle => candle = row ∨ candle = row.asRead

theorem Found.storable {fresh candle : Candle} {row : Option Candle} (found : Found fresh row candle)
    (new : fresh.Storable) (old : ∀ own, row = some own → own.Storable) : candle.Storable := by
  cases row with
  | none =>
      obtain rfl := found
      exact new
  | some row =>
      rcases found with rfl | rfl
      · exact old candle rfl
      · exact (old row rfl).asRead

theorem Found.key {fresh candle : Candle} {row : Option Candle} (found : Found fresh row candle)
    (old : ∀ own, row = some own → own.key = fresh.key) : candle.key = fresh.key := by
  cases row with
  | none =>
      obtain rfl := found
      rfl
  | some row =>
      rcases found with rfl | rfl
      · exact old candle rfl
      · exact old row rfl

end Candle

end CandleFeed
