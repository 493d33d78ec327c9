import CandleFeed.Service.Dispatch

namespace CandleFeed.Service

def ingest (s : Service) (tick : Tick) (nanos : Nat) : Service × List Candle :=
  let (engine, written) := s.toEngine.ingest tick nanos
  ({ s with toEngine := engine }.publishCandles written, written)

def publishTrade (s : Service) (event : TradeEvent) (tick : Tick) : Service :=
  if s.publicTrades then
    match PublicTrade.ofTick event.payload.tradeId tick event.takerSide with
    | .ok report => (s.publish (.trade report)).1
    | .error _ => s
  else s

def ingestEvent (s : Service) (event : TradeEvent) (nanos : Nat) : Service × EventOutcome :=
  let (ingester, admission) := s.toIngester.screen event
  let s := { s with toIngester := ingester }
  match admission with
  | .rejected cause => (s, .rejected cause)
  | .duplicate => (s, .duplicate)
  | .admitted tick =>
      let (s, written) := (s.publishTrade event tick).ingest tick nanos
      (s, .accepted written)

def complete (s : Service) (key : CandleKey) :
    Service × Except AggregationError (Option Candle) :=
  let (engine, outcome) := s.toEngine.markCompleted key
  let s := { s with toEngine := engine }
  match outcome with
  | .ok (some row) => (s.publishCandles [row], .ok (some row))
  | .ok none => (s, .ok none)
  | .error cause => (s, .error cause)

end CandleFeed.Service
