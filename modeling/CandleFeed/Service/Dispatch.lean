import CandleFeed.Service.Basic

namespace CandleFeed

structure Report where
  subscribers : Nat
  delivered : Nat
  failed : Nat
deriving DecidableEq, Repr

namespace Service

def offer (s : Service) (handle : Handle) (frame : Frame) : Service × Option Refusal :=
  match s.outboxes.get? handle.outbox with
  | none => (s, some .closed)
  | some outbox =>
      let (outbox, refusal) := outbox.enqueue frame
      (s.setOutbox handle.outbox outbox, refusal)

def deliver (frame : Frame) (state : Service × Report) (handle : Handle) : Service × Report :=
  let (s, refusal) := state.1.offer handle frame
  match refusal with
  | none => (s, { state.2 with delivered := state.2.delivered + 1 })
  | some .closed => (s, { state.2 with failed := state.2.failed + 1 })
  | some (.full _) =>
      (s.setMetrics Metrics.frameDropped, { state.2 with failed := state.2.failed + 1 })

def publishOn (s : Service) (topic : Topic) (payload : Payload) : Service × Report :=
  let subscribers := s.registry.subscribers topic
  if subscribers = [] then (s, ⟨0, 0, 0⟩)
  else
    let frame := s.frame (.push payload)
    let (s, report) := subscribers.foldl (deliver frame) (s, ⟨subscribers.length, 0, 0⟩)
    (s.setMetrics fun m => m.published (.ofNat report.delivered), report)

def publish (s : Service) (payload : Payload) : Service × Report :=
  s.publishOn payload.topic payload

def publishCandles (s : Service) (candles : List Candle) : Service :=
  candles.foldl (fun s candle => (s.publish (.kline candle)).1) s

end Service

end CandleFeed
