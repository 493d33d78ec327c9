import CandleFeed.Market
import CandleFeed.Request
import CandleFeed.Trade

namespace CandleFeed

inductive Payload
  | kline (candle : Candle)
  | depth (book : Depth)
  | ticker (stats : Ticker)
  | trade (report : PublicTrade)
  | dayStats (stats : Ticker)
deriving DecidableEq

namespace Payload

def channel : Payload → Channel
  | kline _ => .kline
  | depth _ => .depth
  | ticker _ => .ticker
  | trade _ => .trade
  | dayStats _ => .dayStats

def symbol : Payload → Symbol
  | kline candle => candle.symbol
  | depth book => book.symbol
  | ticker stats => stats.symbol
  | trade report => report.symbol
  | dayStats stats => stats.symbol

def topic : Payload → Topic
  | kline candle => .kline candle.symbol candle.interval
  | depth book => .depth book.symbol
  | ticker stats => .ticker stats.symbol
  | trade report => .trade report.symbol
  | dayStats stats => .dayStats stats.symbol

def write : Payload → List Char
  | kline candle => Candle.codec.write candle
  | depth book => Depth.codec.write book
  | ticker stats => Ticker.codec.write stats
  | trade report => PublicTrade.codec.write report
  | dayStats stats => Ticker.codec.write stats

def decode (channel : Channel) (cs : List Char) : Except Json.Fault Payload :=
  match channel with
  | .kline => (Candle.codec.decode cs).map kline
  | .depth => (Depth.codec.decode cs).map depth
  | .ticker => (Ticker.codec.decode cs).map ticker
  | .trade => (PublicTrade.codec.decode cs).map trade
  | .dayStats => (Ticker.codec.decode cs).map dayStats

end Payload

inductive Message
  | pong
  | subscribed (topic : Topic)
  | unsubscribed (topic : Topic)
  | error (cause : ProtocolError)
  | push (payload : Payload)
deriving DecidableEq

namespace Message

def type : Message → MessageType
  | pong => .pong
  | subscribed _ => .subscribed
  | unsubscribed _ => .unsubscribed
  | error _ => .error
  | push payload => payload.channel.messageType

def topicMembers (topic : Topic) : List (List Char) :=
  Json.Members.writeMember "channel" (Channel.codec.write topic.channel) ::
  Json.Members.writeMember "symbol" (Symbol.codec.write topic.symbol) ::
  (topic.interval.map fun interval =>
    Json.Members.writeMember "interval" (Json.quote interval)).toList

def subject : Message → List (List Char)
  | pong | error _ => []
  | subscribed topic | unsubscribed topic => topicMembers topic
  | push payload =>
      [Json.Members.writeMember "symbol" (Symbol.codec.write payload.symbol),
        Json.Members.writeMember "data" payload.write]

def explanation : Message → List (List Char)
  | error cause =>
      [Json.Members.writeMember "code" (Json.quote cause.code),
        Json.Members.writeMember "message" (Json.quote cause.message)]
  | _ => []

/-- The members of a message that is sent at `now`, in milliseconds since the epoch. -/
def members (m : Message) (now : Int) : List (List Char) :=
  Json.Members.writeMember "type" (MessageType.codec.write m.type) :: m.subject ++
    Json.Members.writeMember "timestamp" (Text.signedDigits now) :: m.explanation

def encode (m : Message) (now : Int) : String :=
  String.ofList (Json.object (m.members now))

end Message

end CandleFeed
