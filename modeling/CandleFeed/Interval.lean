import CandleFeed.Instant.Basic
import CandleFeed.Json.Codec

/-!
# Intervals and buckets

The nine lengths of a candle, and the bucket of time that an instant falls into. Intervals below a
day are cut off at multiples of their length since the epoch; days, weeks and months follow the
calendar. A month closes where the next one opens, whatever its nominal length.
-/

namespace CandleFeed

inductive Interval
  | oneMinute
  | fiveMinutes
  | fifteenMinutes
  | thirtyMinutes
  | oneHour
  | fourHours
  | oneDay
  | oneWeek
  | oneMonth
deriving DecidableEq, Ord, Repr

inductive Alignment
  | fixedMultiple
  | day
  | monday
  | month
deriving DecidableEq, Repr

/-- The seconds from `opening` up to, and without, `closing`. -/
structure Bucket where
  opening : Int
  closing : Int
deriving DecidableEq, Repr

def Bucket.contains (b : Bucket) (second : Int) : Bool :=
  b.opening ≤ second && second < b.closing

namespace Interval

def all : List Interval :=
  [oneMinute, fiveMinutes, fifteenMinutes, thirtyMinutes, oneHour, fourHours, oneDay, oneWeek,
    oneMonth]

def code : Interval → String
  | oneMinute => "1m"
  | fiveMinutes => "5m"
  | fifteenMinutes => "15m"
  | thirtyMinutes => "30m"
  | oneHour => "1h"
  | fourHours => "4h"
  | oneDay => "1d"
  | oneWeek => "1w"
  | oneMonth => "1M"

def index (i : Interval) : Nat :=
  all.idxOf i

def ofCode? (code : String) : Option Interval :=
  all.find? fun i => i.code == code

/-- The nominal length in seconds; a month counts as 30 days. -/
def seconds : Interval → Int
  | oneMinute => 60
  | fiveMinutes => 300
  | fifteenMinutes => 900
  | thirtyMinutes => 1800
  | oneHour => 3600
  | fourHours => 14400
  | oneDay => 86400
  | oneWeek => 604800
  | oneMonth => 2592000

def alignment : Interval → Alignment
  | oneDay => .day
  | oneWeek => .monday
  | oneMonth => .month
  | _ => .fixedMultiple

def dayStart (second : Int) : Int :=
  second / secondsPerDay * secondsPerDay

def bucket (i : Interval) (t : Instant) : Bucket :=
  match i.alignment with
  | .fixedMultiple =>
      let opening := t.seconds / i.seconds * i.seconds
      ⟨opening, opening + i.seconds⟩
  | .day =>
      let opening := dayStart t.seconds
      ⟨opening, opening + secondsPerDay⟩
  | .monday =>
      let opening := dayStart t.seconds - Calendar.weekday t.day * secondsPerDay
      ⟨opening, opening + 7 * secondsPerDay⟩
  | .month =>
      let opening := dayStart t.seconds - (t.date.day - 1) * secondsPerDay
      ⟨opening, opening + Calendar.daysInMonth t.date.year t.date.month * secondsPerDay⟩

def align (i : Interval) (t : Instant) : Int :=
  (i.bucket t).opening

theorem mem_all (i : Interval) : i ∈ all := by
  cases i <;> decide

theorem code_injective {i j : Interval} (same : i.code = j.code) : i = j := by
  revert same
  cases i <;> cases j <;> decide

theorem ofCode?_code (i : Interval) : ofCode? i.code = some i := by
  cases i <;> decide

theorem ofCode?_eq_some_iff {code : String} {i : Interval} :
    ofCode? code = some i ↔ i.code = code := by
  constructor
  · intro found
    simpa using List.find?_some found
  · rintro rfl
    exact ofCode?_code i

theorem seconds_pos (i : Interval) : 0 < i.seconds := by
  cases i <;> decide

def codec : Json.Codec Interval :=
  .named ofCode? code

end Interval

instance : ToString Interval := ⟨Interval.code⟩

structure UnknownInterval where
  code : String

def UnknownInterval.message (e : UnknownInterval) : String :=
  "Unknown interval code: " ++ e.code

end CandleFeed
