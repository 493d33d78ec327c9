import CandleFeed.Json.Record
import CandleFeed.Topic

namespace CandleFeed

inductive ProtocolError
  | invalidMessage
  | invalidParams (reason : String)
  | unsupportedType (type : String)
  | tooManySubscriptions (limit : Nat)
deriving DecidableEq

namespace ProtocolError

def code : ProtocolError → String
  | invalidMessage => "INVALID_MESSAGE"
  | invalidParams _ => "INVALID_PARAMS"
  | unsupportedType _ => "UNSUPPORTED_MESSAGE_TYPE"
  | tooManySubscriptions _ => "TOO_MANY_SUBSCRIPTIONS"

def limitMessage (limit : Nat) : String :=
  "Subscription limit reached: " ++ Text.showNatural limit

def message : ProtocolError → String
  | invalidMessage => "Invalid message format"
  | invalidParams reason => reason
  | unsupportedType type => "Unsupported message type: " ++ type
  | tooManySubscriptions limit => limitMessage limit

def missingParams : ProtocolError :=
  invalidParams "Missing required parameters: channel and symbol"

def unsupportedChannel (channel : String) : ProtocolError :=
  invalidParams ("Unsupported channel: " ++ channel)

def invalidSymbol (symbol : String) : ProtocolError :=
  invalidParams ("Invalid symbol: " ++ symbol)

def missingInterval : ProtocolError :=
  invalidParams "Missing required parameter for kline: interval"

def unsupportedInterval (code : String) : ProtocolError :=
  invalidParams ("Unsupported interval: " ++ code)

end ProtocolError

structure RawRequest where
  type : Option String
  channel : Option String
  symbol : Option String
  interval : Option String
deriving DecidableEq

def RawRequest.codec : Json.Codec RawRequest :=
  (Json.Codec.record <|
    .optional "type" .text false <|
    .optional "channel" .text false <|
    .optional "symbol" .text false <|
    .optional "interval" .text false .nil).map
  (fun (type, channel, symbol, interval, ()) => ⟨type, channel, symbol, interval⟩)
  (fun raw => (raw.type, raw.channel, raw.symbol, raw.interval, ()))

inductive Request
  | subscribe (topic : Topic)
  | unsubscribe (topic : Topic)
  | ping
deriving DecidableEq

namespace Request

def given (parameter : Option String) : Option String :=
  (parameter.map Text.trim).filter (· ≠ "")

/-- The interval of a request: a `kline` topic needs one of the nine codes. -/
def checkInterval (channel : Channel) (interval : Option String) : Except ProtocolError Unit :=
  if channel = .kline then
    match interval with
    | none => .error .missingInterval
    | some code =>
        if (Interval.ofCode? code).isNone then .error (.unsupportedInterval code) else .ok ()
  else .ok ()

def topicOf (raw : RawRequest) : Except ProtocolError Topic :=
  match given raw.channel, given raw.symbol with
  | some channel, some symbol =>
      match Channel.ofCode? channel with
      | none => .error (.unsupportedChannel channel)
      | some channel =>
          match Symbol.ofPair? symbol with
          | none => .error (.invalidSymbol symbol)
          | some symbol =>
              let interval := given raw.interval
              (checkInterval channel interval).map fun () => Topic.of channel symbol interval
  | _, _ => .error .missingParams

def ofRaw (raw : RawRequest) : Except ProtocolError Request :=
  match raw.type with
  | none => .error .invalidMessage
  | some type =>
      match MessageType.ofCode? type with
      | some .ping => .ok .ping
      | some .subscribe => (topicOf raw).map .subscribe
      | some .unsubscribe => (topicOf raw).map .unsubscribe
      | _ => .error (.unsupportedType type)

def parse (text : String) : Except ProtocolError Request :=
  match RawRequest.codec.decode text.toList with
  | .ok raw => ofRaw raw
  | .error _ => .error .invalidMessage

end Request

end CandleFeed
