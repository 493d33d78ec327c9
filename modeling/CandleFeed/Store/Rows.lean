import CandleFeed.Candle
import CandleFeed.Table

/-!
# The durable table

One row for each key, in the order of the keys: the rows of a symbol and an interval stand together,
by their openings. The first candle of a key gives the row its id, and the time when the row was
made; later ones keep both.
-/

namespace CandleFeed

structure Rows where
  table : Table CandleKey Candle
  /-- Where ids come from: the `n`-th that is handed out. -/
  ids : Nat → Uuid
  issued : Nat

namespace Rows

def empty (ids : Nat → Uuid) : Rows :=
  ⟨.empty, ids, 0⟩

def get? (r : Rows) (key : CandleKey) : Option Candle :=
  r.table.get? key

def rowFor (r : Rows) (now : Instant) (candle : Candle) : Candle :=
  let old := r.get? candle.key
  { candle with
    id := some (((old.bind Candle.id).or candle.id).getD (r.ids (r.issued + 1)))
    createdAt := some ((old.bind Candle.createdAt).getD now)
    updatedAt := some now }

def needsId (r : Rows) (candle : Candle) : Bool :=
  (((r.get? candle.key).bind Candle.id).or candle.id).isNone

def upsert (r : Rows) (now : Instant) (candle : Candle) : Rows × Candle :=
  let row := r.rowFor now candle
  ({ r with
      table := r.table.insert candle.key row
      issued := if r.needsId candle then r.issued + 1 else r.issued }, row)

def ordered (r : Rows) : List (CandleKey × Candle) :=
  r.table.entries.mergeSort fun a b => a.1.le b.1

/-- The rows from a key on and before another one; the row of the latter is among them if
`closed`. -/
def between (r : Rows) (low high : CandleKey) (closed : Bool) : List Candle :=
  (r.ordered.filter fun (key, _) => low.le key && if closed then key.le high else key.lt high).map
    Prod.snd

def series (r : Rows) (symbol : Symbol) (interval : Interval) : List Candle :=
  r.between ⟨symbol, interval, Text.minInt64⟩ ⟨symbol, interval, Text.maxInt64⟩ true

def range (r : Rows) (symbol : Symbol) (interval : Interval) (start stop : Int) (limit : Nat) :
    List Candle :=
  if stop ≤ start then []
  else (r.between ⟨symbol, interval, start⟩ ⟨symbol, interval, stop⟩ false).take limit

def latest (r : Rows) (symbol : Symbol) (interval : Interval) (limit : Nat) : List Candle :=
  (r.series symbol interval).reverse.take limit

def count (r : Rows) (symbol : Symbol) (interval : Interval) : Nat :=
  (r.series symbol interval).length

theorem key_rowFor (r : Rows) (now : Instant) (candle : Candle) :
    (r.rowFor now candle).key = candle.key := rfl

theorem get?_upsert (r : Rows) (now : Instant) (candle : Candle) (key : CandleKey) :
    (r.upsert now candle).1.get? key =
      if key = candle.key then some (r.rowFor now candle) else r.get? key :=
  Table.get?_insert _ _ _ _

theorem upsert_cases {r : Rows} {now : Instant} {candle row : Candle} {key : CandleKey}
    (found : (r.upsert now candle).1.get? key = some row) :
    key = candle.key ∧ row = r.rowFor now candle ∨ key ≠ candle.key ∧ r.get? key = some row := by
  rw [get?_upsert] at found
  split at found
  · exact .inl ⟨‹_›, (Option.some.inj found).symm⟩
  · exact .inr ⟨‹_›, found⟩

theorem forall_upsert {r : Rows} {now : Instant} {candle : Candle} {holds : CandleKey → Candle → Prop}
    (all : ∀ key row, r.get? key = some row → holds key row)
    (new : holds candle.key (r.rowFor now candle)) (key : CandleKey) (row : Candle)
    (found : (r.upsert now candle).1.get? key = some row) : holds key row := by
  rcases upsert_cases found with ⟨rfl, rfl⟩ | ⟨-, old⟩
  · exact new
  · exact all key row old

end Rows

end CandleFeed
