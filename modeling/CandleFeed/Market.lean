import CandleFeed.Candle

namespace CandleFeed

structure PriceLevel where
  price : Decimal
  quantity : Decimal
deriving DecidableEq

def PriceLevel.codec : Json.Codec PriceLevel :=
  (Json.Codec.record <|
    .field "price" Decimal.codec <|
    .field "quantity" Decimal.codec .nil).map
  (fun (price, quantity, ()) => ⟨price, quantity⟩)
  (fun level => (level.price, level.quantity, ()))

structure Depth where
  symbol : Symbol
  bids : List PriceLevel
  asks : List PriceLevel
  /-- Milliseconds since the epoch. -/
  timestamp : Int
deriving DecidableEq

namespace Depth

def bestBid (d : Depth) : Option PriceLevel :=
  d.bids.head?

def bestAsk (d : Depth) : Option PriceLevel :=
  d.asks.head?

def adjacent (holds : α → α → Bool) : List α → Bool
  | a :: b :: rest => holds a b && adjacent holds (b :: rest)
  | _ => true

def isOrdered (d : Depth) : Bool :=
  adjacent (fun a b => b.price < a.price) d.bids &&
    adjacent (fun a b => a.price < b.price) d.asks &&
    match d.bestBid, d.bestAsk with
    | some bid, some ask => bid.price < ask.price
    | _, _ => true

def codec : Json.Codec Depth :=
  (Json.Codec.record <|
    .field "symbol" Symbol.codec <|
    .field "bids" PriceLevel.codec.list <|
    .field "asks" PriceLevel.codec.list <|
    .field "timestamp" .int64 .nil).map
  (fun (symbol, bids, asks, timestamp, ()) => ⟨symbol, bids, asks, timestamp⟩)
  (fun d => (d.symbol, d.bids, d.asks, d.timestamp, ()))

end Depth

structure Ticker where
  symbol : Symbol
  lastPrice : Decimal
  openPrice : Decimal
  highPrice : Decimal
  lowPrice : Decimal
  volume : Decimal
  quoteVolume : Decimal
  timestamp : Int
deriving DecidableEq

inductive ArithmeticOverflow
  | subtraction
  | division
  | multiplication
deriving DecidableEq, Repr

def ArithmeticOverflow.message : ArithmeticOverflow → String
  | subtraction => "Subtraction overflowed"
  | division => "Division overflowed"
  | multiplication => "Multiplication overflowed"

namespace Ticker

def hundred : Decimal := ⟨false, 100, 0, by decide, Decimal.zero_le_maxScale⟩

def changePercent (t : Ticker) : Except ArithmeticOverflow (Option Decimal) :=
  if t.openPrice.isZero then .ok none
  else
    match t.lastPrice.sub t.openPrice with
    | none => .error .subtraction
    | some change =>
        match change.div t.openPrice with
        | none => .error .division
        | some ratio =>
            match ratio.mul hundred with
            | none => .error .multiplication
            | some percent => .ok (some percent)

def codec : Json.Codec Ticker :=
  (Json.Codec.record <|
    .field "symbol" Symbol.codec <|
    .field "lastPrice" Decimal.codec <|
    .field "openPrice" Decimal.codec <|
    .field "highPrice" Decimal.codec <|
    .field "lowPrice" Decimal.codec <|
    .field "volume" Decimal.codec <|
    .field "quoteVolume" Decimal.codec <|
    .field "timestamp" .int64 .nil).map
  (fun (symbol, lastPrice, openPrice, highPrice, lowPrice, volume, quoteVolume, timestamp, ()) =>
    ⟨symbol, lastPrice, openPrice, highPrice, lowPrice, volume, quoteVolume, timestamp⟩)
  (fun t =>
    (t.symbol, t.lastPrice, t.openPrice, t.highPrice, t.lowPrice, t.volume, t.quoteVolume,
      t.timestamp, ()))

end Ticker

end CandleFeed
