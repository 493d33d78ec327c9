import CandleFeed.Trade

namespace CandleFeed

structure TradePayload where
  tradeId : String
  symbol : String
  price : String
  quantity : String
  buyerOrderId : Option String
  sellerOrderId : Option String
  buyerUserId : Option String
  sellerUserId : Option String
  buyerFee : Option String
  sellerFee : Option String
  makerSide : Option String
  timestamp : Option Instant
deriving DecidableEq

def TradePayload.codec : Json.Codec TradePayload :=
  (Json.Codec.record <|
    .field "trade_id" .text <|
    .field "symbol" .text <|
    .field "price" .text <|
    .field "quantity" .text <|
    .optional "buyer_order_id" .text true <|
    .optional "seller_order_id" .text true <|
    .optional "buyer_user_id" .text true <|
    .optional "seller_user_id" .text true <|
    .optional "buyer_fee" .text true <|
    .optional "seller_fee" .text true <|
    .optional "maker_side" .text true <|
    .optional "timestamp" Instant.codec true .nil).map
  (fun (tradeId, symbol, price, quantity, buyerOrderId, sellerOrderId, buyerUserId, sellerUserId,
      buyerFee, sellerFee, makerSide, timestamp, ()) =>
    ⟨tradeId, symbol, price, quantity, buyerOrderId, sellerOrderId, buyerUserId, sellerUserId,
      buyerFee, sellerFee, makerSide, timestamp⟩)
  (fun p =>
    (p.tradeId, p.symbol, p.price, p.quantity, p.buyerOrderId, p.sellerOrderId, p.buyerUserId,
      p.sellerUserId, p.buyerFee, p.sellerFee, p.makerSide, p.timestamp, ()))

structure TradeEvent where
  eventId : String
  eventType : String
  eventVersion : Option String
  timestamp : Instant
  sourceService : Option String
  correlationId : Option String
  payload : TradePayload
deriving DecidableEq

namespace TradeEvent

def tradeExecuted : String := "TRADE_EXECUTED"

def isTradeExecuted (e : TradeEvent) : Bool :=
  e.eventType == tradeExecuted

def tradeTime (e : TradeEvent) : Instant :=
  e.payload.timestamp.getD e.timestamp

def takerSide (e : TradeEvent) : Option Side :=
  (e.payload.makerSide.bind Side.ofCode?).map Side.opposite

def codec : Json.Codec TradeEvent :=
  (Json.Codec.record <|
    .field "event_id" .text <|
    .field "event_type" .text <|
    .optional "event_version" .text true <|
    .field "timestamp" Instant.codec <|
    .optional "source_service" .text true <|
    .optional "correlation_id" .text true <|
    .field "payload" TradePayload.codec .nil).map
  (fun (eventId, eventType, eventVersion, timestamp, sourceService, correlationId, payload, ()) =>
    ⟨eventId, eventType, eventVersion, timestamp, sourceService, correlationId, payload⟩)
  (fun e =>
    (e.eventId, e.eventType, e.eventVersion, e.timestamp, e.sourceService, e.correlationId,
      e.payload, ()))

end TradeEvent

end CandleFeed
