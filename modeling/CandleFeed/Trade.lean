import CandleFeed.Candle
import CandleFeed.Text.Ascii

namespace CandleFeed

inductive Side
  | buy
  | sell
deriving DecidableEq, Repr

namespace Side

def all : List Side := [buy, sell]

def code : Side → String
  | buy => "BUY"
  | sell => "SELL"

def opposite : Side → Side
  | buy => sell
  | sell => buy

def ofCode? (code : String) : Option Side :=
  all.find? fun side => Text.sameIgnoringCase side.code code

def codec : Json.Codec Side :=
  .named (fun name => all.find? fun side => side.code == name) code

end Side

structure Tick where
  symbol : Symbol
  price : Decimal
  quantity : Decimal
  time : Instant
deriving DecidableEq

namespace Tick

def validate (tick : Tick) : Except InvalidTrade Unit :=
  if tick.price ≤ .zero then .error (.nonPositivePrice tick.price)
  else if tick.quantity < .zero then .error (.negativeQuantity tick.quantity)
  else .ok ()

def notional (tick : Tick) : Except InvalidTrade Decimal :=
  match tick.price.mul tick.quantity with
  | some amount => .ok amount
  | none => .error (.overflow .notional tick.price tick.quantity)

theorem validate_eq_ok_iff {tick : Tick} :
    tick.validate = .ok () ↔ ¬ tick.price ≤ .zero ∧ ¬ tick.quantity < .zero := by
  unfold validate
  split
  · simp_all
  · split <;> simp_all

def codec : Json.Codec Tick :=
  (Json.Codec.record <|
    .field "symbol" Symbol.codec <|
    .field "price" Decimal.codec <|
    .field "quantity" Decimal.codec <|
    .field "trade_time" Instant.codec .nil).map
  (fun (symbol, price, quantity, time, ()) => ⟨symbol, price, quantity, time⟩)
  (fun tick => (tick.symbol, tick.price, tick.quantity, tick.time, ()))

end Tick

structure PublicTrade where
  tradeId : String
  symbol : Symbol
  price : Decimal
  quantity : Decimal
  amount : Decimal
  takerSide : Option Side
  timestamp : Int
deriving DecidableEq

namespace PublicTrade

def ofTick (tradeId : String) (tick : Tick) (takerSide : Option Side) :
    Except InvalidTrade PublicTrade :=
  tick.notional.map fun amount =>
    ⟨tradeId, tick.symbol, tick.price, tick.quantity, amount, takerSide, tick.time.millis⟩

def codec : Json.Codec PublicTrade :=
  (Json.Codec.record <|
    .field "tradeId" .text <|
    .field "symbol" Symbol.codec <|
    .field "price" Decimal.codec <|
    .field "quantity" Decimal.codec <|
    .field "amount" Decimal.codec <|
    .optional "takerSide" Side.codec true <|
    .field "timestamp" .int64 .nil).map
  (fun (tradeId, symbol, price, quantity, amount, takerSide, timestamp, ()) =>
    ⟨tradeId, symbol, price, quantity, amount, takerSide, timestamp⟩)
  (fun t => (t.tradeId, t.symbol, t.price, t.quantity, t.amount, t.takerSide, t.timestamp, ()))

end PublicTrade

end CandleFeed
