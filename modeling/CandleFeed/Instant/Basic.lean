import CandleFeed.Calendar

/-!
# Instants

A point in universal time: whole seconds since 1970-01-01T00:00:00Z and nanoseconds. A leap second
is the last second of a minute with 10⁹ or more nanoseconds. The years run from -262143 to 262142.
-/

namespace CandleFeed

def secondsPerDay : Int := 86400

namespace Instant

def firstSecond : Int := -8334601228800

def lastSecond : Int := 8210266876799

end Instant

structure Instant where
  seconds : Int
  nanos : Nat
  first_le : Instant.firstSecond ≤ seconds
  le_last : seconds ≤ Instant.lastSecond
  nanos_lt : nanos < 1_000_000_000 ∨ nanos < 2_000_000_000 ∧ seconds % 60 = 59
deriving DecidableEq

namespace Instant

def ofParts? (seconds : Int) (nanos : Nat) : Option Instant :=
  if h : firstSecond ≤ seconds ∧ seconds ≤ lastSecond ∧
      (nanos < 1_000_000_000 ∨ nanos < 2_000_000_000 ∧ seconds % 60 = 59) then
    some ⟨seconds, nanos, h.1, h.2.1, h.2.2⟩
  else none

theorem ofParts?_eq_some_iff {seconds : Int} {nanos : Nat} {t : Instant} :
    ofParts? seconds nanos = some t ↔ t.seconds = seconds ∧ t.nanos = nanos := by
  obtain ⟨s, n, hs, hl, hn⟩ := t
  unfold ofParts?
  split
  · simp [eq_comm]
  · rename_i invalid
    simp only [reduceCtorEq, false_iff, not_and]
    intro hseconds hnanos
    subst hseconds hnanos
    exact invalid ⟨hs, hl, hn⟩

def epoch : Instant := ⟨0, 0, by decide, by decide, by decide⟩

instance : Inhabited Instant := ⟨epoch⟩

/-- Whole milliseconds since the epoch. A leap second counts on from the second it follows. -/
def millis (t : Instant) : Int :=
  t.seconds * 1000 + (t.nanos / 1_000_000 : Nat)

def day (t : Instant) : Int :=
  t.seconds / secondsPerDay

def date (t : Instant) : Calendar.Date :=
  Calendar.dateOfDay t.day

end Instant

end CandleFeed
