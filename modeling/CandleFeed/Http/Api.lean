import CandleFeed.Http.Call
import CandleFeed.Http.Form
import CandleFeed.Http.Pattern
import CandleFeed.Instant.Printer
import CandleFeed.Service.Trading

namespace CandleFeed.Http

structure CandleQuery where
  symbol : String
  interval : String
  limit : Option Nat
  startTime : Option Int
  endTime : Option Int

namespace CandleQuery

def standardLimit : Nat := 100

def maxLimit : Nat := 1000

def readSecond (s : String) : Option Int :=
  Text.integer? Text.minInt64 Text.maxInt64 s.toList

def ofForm (form : List (String × String)) : Except Form.Fault CandleQuery := do
  let symbol ← Form.required form "symbol" some
  let interval ← Form.required form "interval" some
  let limit ← Form.optional form "limit" fun s => Text.natural? Text.maxUInt64 s.toList
  let startTime ← Form.optional form "startTime" readSecond
  let endTime ← Form.optional form "endTime" readSecond
  .ok { symbol, interval, limit, startTime, endTime }

end CandleQuery

def readSymbol (pair : String) : Except RequestError Symbol :=
  match Symbol.ofPair? pair with
  | some symbol => .ok symbol
  | none => .error (.badRequest ("Invalid symbol: " ++ pair))

def readInterval (code : String) : Except RequestError Interval :=
  match Interval.ofCode? code with
  | some interval => .ok interval
  | none => .error (.badRequest ("Unsupported interval: " ++ code))

def readLimit (limit : Option Nat) : Except RequestError Nat :=
  let limit := limit.getD CandleQuery.standardLimit
  if limit = 0 ∨ CandleQuery.maxLimit < limit then
    .error (.badRequest
      ("limit must be between 1 and " ++ Text.showNatural CandleQuery.maxLimit))
  else .ok limit

def runQuery (store : Store) (symbol : Symbol) (interval : Interval) (limit : Nat) :
    (startTime endTime : Option Int) → Except RequestError (List Candle)
  | some start, some stop =>
      if stop ≤ start then .error (.badRequest "startTime must be before endTime")
      else (store.range symbol interval start stop limit).mapError .ofStore
  | none, none => (store.latest symbol interval limit).mapError .ofStore
  | _, _ => .error (.badRequest "startTime and endTime must be given together")

def findCandles (store : Store) (q : CandleQuery) : Except RequestError (List Candle) := do
  let symbol ← readSymbol q.symbol
  let interval ← readInterval q.interval
  let limit ← readLimit q.limit
  runQuery store symbol interval limit q.startTime q.endTime

structure Completion where
  symbol : String
  interval : String
  openTime : Int

def Completion.codec : Json.Codec Completion :=
  (Json.Codec.record <|
    .field "symbol" .text <|
    .field "interval" .text <|
    .field "openTime" .int64 .nil).map
  (fun (symbol, interval, openTime, ()) => ⟨symbol, interval, openTime⟩)
  (fun c => (c.symbol, c.interval, c.openTime, ()))

def Completion.key (c : Completion) : Except RequestError CandleKey := do
  let symbol ← readSymbol c.symbol
  let interval ← readInterval c.interval
  .ok ⟨symbol, interval, c.openTime⟩

def missingCandle (key : CandleKey) : RequestError :=
  .notFound
    s!"No candle for {key.symbol} {key.interval} at {Text.showInteger key.openTime}"

def member (name : String) (value : List Char) : List Char :=
  Json.Members.writeMember name value

def text (name value : String) : List Char :=
  member name (Json.quote value)

def number (name : String) (n : Nat) : List Char :=
  member name (Text.digits n)

def timestamp (s : Service) : List Char :=
  text "timestamp" (String.ofList (s.store.wall.render.dropLast ++ "+00:00".toList))

def version : String := "0.1.0"

def health (s : Service) : Answer :=
  .ok (Json.object
    [text "status" "UP", text "service" "market-service", text "version" version, timestamp s])

def stats (s : Service) : Answer :=
  .ok (Json.object
    [number "connections" s.registry.connectionCount,
      number "subscriptions" s.registry.topicCount,
      member "metrics"
        (Json.object (s.metrics.exported.map fun (name, count) => number name count)),
      timestamp s])

def candles (s : Service) (c : Call) : Answer :=
  match CandleQuery.ofForm (Form.fields c.target.query) with
  | .error _ => .bare 400
  | .ok query =>
      match findCandles s.store query with
      | .error cause => .ofError cause
      | .ok found => .ok (Candle.codec.list.write found)

def takeEvent (s : Service) (c : Call) (nanos : Nat) : Service × Answer :=
  match readBody TradeEvent.codec c with
  | .error answer => (s, answer)
  | .ok event =>
      let (s, outcome) := s.ingestEvent event nanos
      let answer :=
        match outcome with
        | .rejected cause => .ofError (.ofEvent cause)
        | .duplicate =>
            .ok (Json.object [text "status" "duplicate", text "eventId" event.eventId])
        | .accepted written =>
            .ok (Json.object
              [text "status" "accepted", text "eventId" event.eventId,
                number "candles" written.length])
      (s, answer)

def completeCandle (s : Service) (c : Call) : Service × Answer :=
  match readBody Completion.codec c with
  | .error answer => (s, answer)
  | .ok completion =>
      match completion.key with
      | .error cause => (s, .ofError cause)
      | .ok key =>
          let (s, outcome) := s.complete key
          let answer :=
            match outcome with
            | .error cause => .ofError (.ofAggregation cause)
            | .ok none => .ofError (missingCandle key)
            | .ok (some row) => .ok (Candle.codec.write row)
          (s, answer)

inductive Route
  | health
  | stats
  | candles
  | events
  | completion
  | sessions
deriving DecidableEq, Repr

namespace Route

def fixed : List (String × Route) :=
  [("/api/v1/health", health), ("/api/v1/websocket/stats", stats), ("/api/v1/klines", candles),
    ("/api/v1/internal/trades", events), ("/api/v1/internal/klines/complete", completion)]

/-- The routes at a path. The path of the sessions is a pattern; it opens no path that is another
route's, unless it is written just as that. -/
def atPath (wsPath path : String) : List Route :=
  match fixed.lookup path with
  | some route => if wsPath = path then [sessions, route] else [route]
  | none => if (Pattern.ofString wsPath).accepts path.toList then [sessions] else []

def methods : Route → List String
  | health | stats | candles => ["GET", "HEAD"]
  | events | completion => ["POST"]
  | sessions => ["GET"]

end Route

def run (s : Service) (route : Route) (c : Call) (nanos : Nat) : Service × Answer :=
  match route with
  | .health => (s, health s)
  | .stats => (s, stats s)
  | .candles => (s, candles s c)
  | .events => takeEvent s c nanos
  | .completion => completeCandle s c
  | .sessions => (s, .bare 400)

def respond (s : Service) (wsPath : String) (c : Call) (nanos : Nat) : Service × Answer :=
  if c.method = "OPTIONS" then (s, .bare 200)
  else
    let routes := Route.atPath wsPath c.target.path
    match routes.find? fun route => c.method ∈ route.methods with
    | some route =>
        let (s, answer) := run s route c nanos
        (s, if c.method = "HEAD" then answer.withoutBody else answer)
    | none => (s, .bare (if routes.isEmpty then 404 else 405))

end CandleFeed.Http
