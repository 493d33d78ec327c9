import CandleFeed.Latency

namespace CandleFeed

structure Metrics where
  tradesIngested : UInt64 := 0
  tradesDuplicate : UInt64 := 0
  tradesRejected : UInt64 := 0
  intervalFailures : UInt64 := 0
  candlesCreated : UInt64 := 0
  candlesUpdated : UInt64 := 0
  candlesCompleted : UInt64 := 0
  /-- Nanoseconds that a trade took, over the last thousand. -/
  ingestLatency : Latency := .empty 1000
  framesPublished : UInt64 := 0
  framesEnqueued : UInt64 := 0
  framesDropped : UInt64 := 0
  slowDisconnects : UInt64 := 0
  connectionsOpened : UInt64 := 0
  connectionsClosed : UInt64 := 0
  idleTimeouts : UInt64 := 0
  protocolErrors : UInt64 := 0
deriving DecidableEq

namespace Metrics

def tradeIngested (m : Metrics) (nanos : Nat) : Metrics :=
  { m with tradesIngested := m.tradesIngested + 1, ingestLatency := m.ingestLatency.record nanos }

def duplicateTrade (m : Metrics) : Metrics :=
  { m with tradesDuplicate := m.tradesDuplicate + 1 }

def rejectedTrade (m : Metrics) : Metrics :=
  { m with tradesRejected := m.tradesRejected + 1 }

def intervalFailure (m : Metrics) : Metrics :=
  { m with intervalFailures := m.intervalFailures + 1 }

def candleCreated (m : Metrics) : Metrics :=
  { m with candlesCreated := m.candlesCreated + 1 }

def candleUpdated (m : Metrics) : Metrics :=
  { m with candlesUpdated := m.candlesUpdated + 1 }

def candleCompleted (m : Metrics) : Metrics :=
  { m with candlesCompleted := m.candlesCompleted + 1 }

def published (m : Metrics) (enqueued : UInt64) : Metrics :=
  { m with
    framesPublished := m.framesPublished + 1
    framesEnqueued := m.framesEnqueued + enqueued }

def frameDropped (m : Metrics) : Metrics :=
  { m with framesDropped := m.framesDropped + 1 }

def slowDisconnect (m : Metrics) : Metrics :=
  { m with slowDisconnects := m.slowDisconnects + 1 }

def connectionOpened (m : Metrics) : Metrics :=
  { m with connectionsOpened := m.connectionsOpened + 1 }

def connectionClosed (m : Metrics) : Metrics :=
  { m with connectionsClosed := m.connectionsClosed + 1 }

def idleTimeout (m : Metrics) : Metrics :=
  { m with idleTimeouts := m.idleTimeouts + 1 }

def protocolError (m : Metrics) : Metrics :=
  { m with protocolErrors := m.protocolErrors + 1 }

def activeConnections (m : Metrics) : UInt64 :=
  if m.connectionsClosed ≤ m.connectionsOpened then m.connectionsOpened - m.connectionsClosed
  else 0

def counters (m : Metrics) : List (String × Nat) :=
  [("active_connections", m.activeConnections.toNat),
    ("candles_completed", m.candlesCompleted.toNat),
    ("candles_created", m.candlesCreated.toNat),
    ("candles_updated", m.candlesUpdated.toNat),
    ("connections_closed", m.connectionsClosed.toNat),
    ("connections_opened", m.connectionsOpened.toNat),
    ("frames_dropped", m.framesDropped.toNat),
    ("frames_enqueued", m.framesEnqueued.toNat),
    ("frames_published", m.framesPublished.toNat),
    ("idle_timeouts", m.idleTimeouts.toNat),
    ("interval_failures", m.intervalFailures.toNat),
    ("protocol_errors", m.protocolErrors.toNat),
    ("slow_disconnects", m.slowDisconnects.toNat),
    ("trades_duplicate", m.tradesDuplicate.toNat),
    ("trades_ingested", m.tradesIngested.toNat),
    ("trades_rejected", m.tradesRejected.toNat)]

def latencies (m : Metrics) : List (String × Nat) :=
  [("ingest_latency_p50_ns", 50), ("ingest_latency_p99_ns", 99)].filterMap fun (name, p) =>
    (m.ingestLatency.percentile p).map fun nanos => (name, nanos)

def exported (m : Metrics) : List (String × Nat) :=
  m.counters ++ m.latencies

end Metrics

end CandleFeed
