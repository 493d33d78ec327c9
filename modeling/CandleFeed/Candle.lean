import CandleFeed.Decimal.Reader
import CandleFeed.Instant.Reader
import CandleFeed.Instant.Printer
import CandleFeed.Interval
import CandleFeed.Json.Record
import CandleFeed.Symbol
import CandleFeed.Uuid

namespace CandleFeed

def Decimal.codec : Json.Codec Decimal :=
  .spelled parse? render

def Instant.codec : Json.Codec Instant :=
  .spelled read? render

inductive Amount
  | volume
  | quoteAmount
  | notional
deriving DecidableEq, Repr

def Amount.name : Amount → String
  | volume => "volume"
  | quoteAmount => "quote amount"
  | notional => "notional"

inductive InvalidTrade
  | nonPositivePrice (price : Decimal)
  | negativeQuantity (quantity : Decimal)
  | overflow (amount : Amount) (price quantity : Decimal)
  | other (reason : String)
deriving DecidableEq

def InvalidTrade.reason : InvalidTrade → String
  | nonPositivePrice price => s!"non-positive price {price}"
  | negativeQuantity quantity => s!"negative quantity {quantity}"
  | overflow amount price quantity =>
      s!"{amount.name} overflows at price {price} quantity {quantity}"
  | other reason => reason

structure CandleKey where
  symbol : Symbol
  interval : Interval
  openTime : Int
deriving DecidableEq, Ord

namespace CandleKey

def text (key : CandleKey) : String :=
  key.symbol.name ++ ":" ++ key.interval.code ++ ":" ++ Text.showInteger key.openTime

def cacheKey (key : CandleKey) : String :=
  "market:kline:" ++ key.text

def le (a b : CandleKey) : Bool :=
  (compare a b).isLE

def lt (a b : CandleKey) : Bool :=
  (compare a b).isLT

def codec : Json.Codec CandleKey :=
  (Json.Codec.record <|
    .field "symbol" Symbol.codec <|
    .field "interval" Interval.codec <|
    .field "openTime" .int64 .nil).map
  (fun (symbol, interval, openTime, ()) => ⟨symbol, interval, openTime⟩)
  (fun key => (key.symbol, key.interval, key.openTime, ()))

end CandleKey

structure Candle where
  id : Option Uuid
  symbol : Symbol
  interval : Interval
  openTime : Int
  closeTime : Int
  openPrice : Decimal
  highPrice : Decimal
  lowPrice : Decimal
  closePrice : Decimal
  volume : Decimal
  quoteAmount : Decimal
  tradeCount : Nat
  completed : Bool
  createdAt : Option Instant
  updatedAt : Option Instant
deriving DecidableEq

namespace Candle

def key (c : Candle) : CandleKey :=
  ⟨c.symbol, c.interval, c.openTime⟩

def openBucket (symbol : Symbol) (interval : Interval) (bucket : Bucket) (price : Decimal) :
    Candle where
  id := none
  symbol := symbol
  interval := interval
  openTime := bucket.opening
  closeTime := bucket.closing
  openPrice := price
  highPrice := price
  lowPrice := price
  closePrice := price
  volume := .zero
  quoteAmount := .zero
  tradeCount := 0
  completed := false
  createdAt := none
  updatedAt := none

def quoteAmountWith (c : Candle) (price quantity : Decimal) : Option Decimal := do
  c.quoteAmount.add (← price.mul quantity)

def applyTrade (c : Candle) (price quantity : Decimal) : Except InvalidTrade Candle :=
  match c.volume.add quantity with
  | none => .error (.overflow .volume price quantity)
  | some volume =>
      match c.quoteAmountWith price quantity with
      | none => .error (.overflow .quoteAmount price quantity)
      | some quoteAmount => .ok
          { c with
            highPrice := if c.highPrice < price then price else c.highPrice
            lowPrice := if price < c.lowPrice then price else c.lowPrice
            closePrice := price
            volume := volume
            quoteAmount := quoteAmount
            tradeCount := (c.tradeCount + 1) % UInt64.size }

def isValid (c : Candle) : Bool :=
  c.openPrice ≤ c.highPrice && c.closePrice ≤ c.highPrice && c.lowPrice ≤ c.highPrice &&
    c.lowPrice ≤ c.openPrice && c.lowPrice ≤ c.closePrice && Decimal.zero ≤ c.volume &&
    Decimal.zero ≤ c.quoteAmount && c.openTime < c.closeTime

theorem key_applyTrade {c d : Candle} {price quantity : Decimal}
    (ok : c.applyTrade price quantity = .ok d) : d.key = c.key := by
  unfold applyTrade at ok
  split at ok
  · cases ok
  · split at ok
    · cases ok
    · cases ok
      rfl

def codec : Json.Codec Candle :=
  (Json.Codec.record <|
    .optional "id" Uuid.codec true <|
    .field "symbol" Symbol.codec <|
    .field "interval" Interval.codec <|
    .field "openTime" .int64 <|
    .field "closeTime" .int64 <|
    .field "open" Decimal.codec <|
    .field "high" Decimal.codec <|
    .field "low" Decimal.codec <|
    .field "close" Decimal.codec <|
    .field "volume" Decimal.codec <|
    .field "quoteAmount" Decimal.codec <|
    .field "tradeCount" .nat64 <|
    .field "completed" .flag <|
    .optional "createdAt" Instant.codec true <|
    .optional "updatedAt" Instant.codec true .nil).map
  (fun (id, symbol, interval, openTime, closeTime, openPrice, highPrice, lowPrice, closePrice,
      volume, quoteAmount, tradeCount, completed, createdAt, updatedAt, ()) =>
    ⟨id, symbol, interval, openTime, closeTime, openPrice, highPrice, lowPrice, closePrice,
      volume, quoteAmount, tradeCount, completed, createdAt, updatedAt⟩)
  (fun c =>
    (c.id, c.symbol, c.interval, c.openTime, c.closeTime, c.openPrice, c.highPrice, c.lowPrice,
      c.closePrice, c.volume, c.quoteAmount, c.tradeCount, c.completed, c.createdAt, c.updatedAt,
      ()))

end Candle

end CandleFeed
