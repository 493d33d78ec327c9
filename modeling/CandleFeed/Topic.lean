import CandleFeed.Interval
import CandleFeed.Symbol
import CandleFeed.Text.Ascii

namespace CandleFeed

inductive MessageType
  | subscribe
  | unsubscribe
  | ping
  | pong
  | kline
  | depth
  | ticker
  | trade
  | dayStats
  | subscribed
  | unsubscribed
  | error
deriving DecidableEq, Repr

namespace MessageType

def all : List MessageType :=
  [subscribe, unsubscribe, ping, pong, kline, depth, ticker, trade, dayStats, subscribed,
    unsubscribed, error]

def code : MessageType → String
  | subscribe => "subscribe"
  | unsubscribe => "unsubscribe"
  | ping => "ping"
  | pong => "pong"
  | kline => "kline"
  | depth => "depth"
  | ticker => "ticker"
  | trade => "trade"
  | dayStats => "stats_24h"
  | subscribed => "subscribed"
  | unsubscribed => "unsubscribed"
  | error => "error"

def ofCode? (code : String) : Option MessageType :=
  all.find? fun type => Text.sameIgnoringCase type.code code

def isRequest : MessageType → Bool
  | subscribe | unsubscribe | ping => true
  | _ => false

def codec : Json.Codec MessageType :=
  .named (fun name => all.find? fun type => type.code == name) code

end MessageType

inductive Channel
  | kline
  | depth
  | ticker
  | trade
  | dayStats
deriving DecidableEq, Ord, Repr

namespace Channel

def all : List Channel := [kline, depth, ticker, trade, dayStats]

def messageType : Channel → MessageType
  | kline => .kline
  | depth => .depth
  | ticker => .ticker
  | trade => .trade
  | dayStats => .dayStats

def code (c : Channel) : String :=
  c.messageType.code

def ofCode? (code : String) : Option Channel :=
  all.find? fun c => c.code == code

theorem code_injective {c d : Channel} (same : c.code = d.code) : c = d := by
  revert same
  cases c <;> cases d <;> decide

theorem ofCode?_eq_some_iff {code : String} {c : Channel} :
    ofCode? code = some c ↔ c.code = code := by
  constructor
  · intro found
    simpa using List.find?_some found
  · rintro rfl
    cases c <;> decide

def codec : Json.Codec Channel :=
  .named ofCode? code

end Channel

structure Topic where
  channel : Channel
  symbol : Symbol
  interval : Option String
deriving DecidableEq, Ord

namespace Topic

def of (channel : Channel) (symbol : Symbol) (interval : Option String) : Topic :=
  ⟨channel, symbol, interval.filter (· ≠ "")⟩

def kline (symbol : Symbol) (interval : Interval) : Topic :=
  of .kline symbol (some interval.code)

def trade (symbol : Symbol) : Topic :=
  of .trade symbol none

def depth (symbol : Symbol) : Topic :=
  of .depth symbol none

def ticker (symbol : Symbol) : Topic :=
  of .ticker symbol none

def dayStats (symbol : Symbol) : Topic :=
  of .dayStats symbol none

def key (t : Topic) : String :=
  t.channel.code ++ ":" ++ t.symbol.name ++
    match t.interval with
    | some interval => ":" ++ interval
    | none => ""

end Topic

def Topic.le (a b : Topic) : Bool :=
  (compare a b).isLE

end CandleFeed
