import CandleFeed.Engine
import CandleFeed.Proofs.Candle

/-!
# What the engine should hold

The candle of a key is a fold over the commands that touch it. Neither the cache nor a clock occurs
in it, and no trade of another symbol or another bucket.
-/

namespace CandleFeed

namespace Engine

inductive Command
  | ingest (tick : Tick) (nanos : Nat)
  | complete (key : CandleKey)
  | advance (span : Nat) (wall : Instant)
  | purge

def step (e : Engine) : Command → Engine
  | .ingest tick nanos => (e.ingest tick nanos).1
  | .complete key => (e.markCompleted key).1
  | .advance span wall => { e with store := { e.store.advance span with wall := wall } }
  | .purge => { e with store := { e.store with cache := e.store.cache.purge e.store.now } }

def run (e : Engine) (commands : List Command) : Engine :=
  commands.foldl step e

end Engine

inductive Touch
  | trade (tick : Tick)
  | completion

def Tick.Falls (tick : Tick) (key : CandleKey) : Prop :=
  tick.symbol = key.symbol ∧ (key.interval.bucket tick.time).opening = key.openTime

instance (tick : Tick) (key : CandleKey) : Decidable (tick.Falls key) :=
  inferInstanceAs (Decidable (_ ∧ _))

namespace Engine

def Command.touch? (key : CandleKey) : Command → Option Touch
  | .ingest tick _ => if tick.validate.isOk ∧ tick.Falls key then some (.trade tick) else none
  | .complete own => if own = key then some .completion else none
  | .advance _ _ => none
  | .purge => none

end Engine

def Candle.after (key : CandleKey) : Option Candle → Touch → Option Candle
  | none, .trade tick =>
      ((openBucket key.symbol key.interval (key.interval.bucket tick.time) tick.price).applyTrade
        tick.price tick.quantity).toOption
  | some candle, .trade tick =>
      some ((candle.applyTrade tick.price tick.quantity).toOption.getD candle)
  | none, .completion => none
  | some candle, .completion => some { candle with completed := true }

namespace Candle

def base (key : CandleKey) (tick : Tick) (row : Option Candle) : Candle :=
  row.getD (openBucket key.symbol key.interval (key.interval.bucket tick.time) tick.price)

theorem after_eq (key : CandleKey) (row : Option Candle) (tick : Tick) :
    after key row (.trade tick) =
      ((base key tick row).applyTrade tick.price tick.quantity).toOption.or row := by
  unfold after base
  cases row with
  | none => exact Option.or_none.symm
  | some c =>
      dsimp only [Option.getD_some]
      cases c.applyTrade tick.price tick.quantity <;> rfl

theorem Found.applyTrade_base {key : CandleKey} {tick : Tick} {candle : Candle}
    {row : Option Candle}
    (found : Found (openBucket key.symbol key.interval (key.interval.bucket tick.time) tick.price)
      row candle) :
    (base key tick (row.map unstamped)).applyTrade tick.price tick.quantity =
      (candle.applyTrade tick.price tick.quantity).map unstamped := by
  cases row with
  | none =>
      obtain rfl := found
      let fresh := openBucket key.symbol key.interval (key.interval.bucket tick.time) tick.price
      exact applyTrade_unstamped fresh tick.price tick.quantity
  | some row =>
      have plain := applyTrade_unstamped row tick.price tick.quantity
      rcases found with rfl | rfl
      · exact plain
      · exact plain.trans (applyTrade_asRead row tick.price tick.quantity).symm

theorem after_trade {key : CandleKey} {tick : Tick} {candle : Candle} {row : Option Candle}
    (found : Found (openBucket key.symbol key.interval (key.interval.bucket tick.time) tick.price)
      row candle) :
    after key (row.map unstamped) (.trade tick) =
      match candle.applyTrade tick.price tick.quantity with
      | .ok traded => some traded.unstamped
      | .error _ => row.map unstamped := by
  rw [after_eq, found.applyTrade_base]
  cases candle.applyTrade tick.price tick.quantity <;> rfl

end Candle

end CandleFeed
