import CandleFeed.Engine
import CandleFeed.Event

namespace CandleFeed

inductive TradeFigure
  | price
  | quantity
deriving DecidableEq, Repr

def TradeFigure.name : TradeFigure → String
  | price => "price"
  | quantity => "quantity"

inductive EventError
  | unexpectedType (type : String)
  | invalidSymbol (symbol : String)
  | invalidFigure (figure : TradeFigure) (value : String)
deriving DecidableEq

def EventError.message : EventError → String
  | unexpectedType type => "unexpected event type: " ++ type
  | invalidSymbol symbol => "invalid symbol: " ++ symbol
  | invalidFigure figure value => "invalid " ++ figure.name ++ ": " ++ value

namespace TradeEvent

def readFigure (figure : TradeFigure) (value : String) : Except EventError Decimal :=
  match (Decimal.parse? (Text.strip value.toList)).filter fun d => Decimal.zero < d with
  | some d => .ok d
  | none => .error (.invalidFigure figure value)

def toTick (e : TradeEvent) : Except EventError Tick :=
  if e.isTradeExecuted then
    match Symbol.ofPair? e.payload.symbol with
    | none => .error (.invalidSymbol e.payload.symbol)
    | some symbol => do
        let price ← readFigure .price e.payload.price
        let quantity ← readFigure .quantity e.payload.quantity
        .ok ⟨symbol, price, quantity, e.tradeTime⟩
  else .error (.unexpectedType e.eventType)

end TradeEvent

/-- The ids of the last accepted events, in their order and as a set. -/
structure Window where
  order : List String
  seen : Table String Unit
  capacity : Nat

namespace Window

def empty (capacity : Nat) : Window :=
  ⟨[], .empty, max 1 capacity⟩

def evict (w : Window) : Window :=
  if w.capacity ≤ w.order.length then
    match w.order with
    | [] => w
    | oldest :: rest => { w with order := rest, seen := w.seen.erase oldest }
  else w

def push (w : Window) (id : String) : Window :=
  { w with order := w.order ++ [id], seen := w.seen.insert id () }

def remember (w : Window) (id : String) : Option Window :=
  if w.seen.contains id then none else some (w.evict.push id)

theorem remember_of_seen {w : Window} {id : String} (seen : w.seen.contains id = true) :
    w.remember id = none :=
  if_pos seen

theorem capacity_evict (w : Window) : w.evict.capacity = w.capacity := by
  unfold evict
  split
  · split <;> rfl
  · rfl

end Window

structure Ingester extends Engine where
  window : Window

inductive Admission
  | rejected (cause : EventError)
  | duplicate
  | admitted (tick : Tick)

inductive EventOutcome
  | rejected (cause : EventError)
  | duplicate
  | accepted (candles : List Candle)

namespace Ingester

def create (engine : Engine) (capacity : Nat) : Ingester :=
  { engine with window := .empty capacity }

def screen (i : Ingester) (event : TradeEvent) : Ingester × Admission :=
  match event.toTick with
  | .error cause => ({ i with metrics := i.metrics.rejectedTrade }, .rejected cause)
  | .ok tick =>
      match i.window.remember event.eventId with
      | none => ({ i with metrics := i.metrics.duplicateTrade }, .duplicate)
      | some window => ({ i with window }, .admitted tick)

def ingestEvent (i : Ingester) (event : TradeEvent) (nanos : Nat) : Ingester × EventOutcome :=
  match i.screen event with
  | (i, .rejected cause) => (i, .rejected cause)
  | (i, .duplicate) => (i, .duplicate)
  | (i, .admitted tick) =>
      let (engine, written) := i.toEngine.ingest tick nanos
      ({ i with toEngine := engine }, .accepted written)

theorem screen_of_rejected {i : Ingester} {event : TradeEvent} {cause : EventError}
    (faulty : event.toTick = .error cause) :
    i.screen event = ({ i with metrics := i.metrics.rejectedTrade }, .rejected cause) := by
  simp [screen, faulty]

end Ingester

end CandleFeed
