/-!
# Clocks

Instants of a clock that never goes back. An instant holds its seconds in a word of 64 bits with a
sign, so that a span may lead to none.
-/

namespace CandleFeed

namespace Clock

/-- In nanoseconds, as all instants and spans are. -/
def second : Nat := 1000000000

def millisecond : Nat := 1000000

def limit : Nat := 9223372036854775808 * second

def after? (instant span : Nat) : Option Nat :=
  if instant + span < limit then some (instant + span) else none

def half : Nat := 4611686018427387904 * second

/-- What a clock shows when so much time has passed. At half of the instants it stops. -/
def reading (elapsed : Nat) : Nat :=
  min elapsed half

theorem reading_le (elapsed : Nat) : reading elapsed ≤ half :=
  Nat.min_le_right _ _

theorem after?_eq_some_iff {instant span later : Nat} :
    after? instant span = some later ↔ instant + span < limit ∧ instant + span = later := by
  simp [after?]

theorem after?_eq_none_iff {instant span : Nat} :
    after? instant span = none ↔ limit ≤ instant + span := by
  simp [after?]

theorem add_lt_limit {instant span : Nat} (early : instant ≤ half) (short : span < half) :
    instant + span < limit := by
  unfold half at early short
  unfold limit
  omega

end Clock

structure Lifetime where
  nanos : Nat
  short : nanos < Clock.half
deriving DecidableEq

end CandleFeed
