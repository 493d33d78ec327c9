import CandleFeed.Interval
import CandleFeed.Proofs.Calendar

namespace CandleFeed
open Calendar

namespace Bucket

theorem contains_iff {b : Bucket} {second : Int} :
    b.contains second = true ↔ b.opening ≤ second ∧ second < b.closing := by
  simp [contains]

structure Partition (bucketOf : Int → Bucket) : Prop where
  contains : ∀ second, (bucketOf second).contains second = true
  unique : ∀ second other, (bucketOf second).contains other = true →
    bucketOf other = bucketOf second

theorem Partition.next {bucketOf : Int → Bucket} (partition : Partition bucketOf) (second : Int) :
    (bucketOf (bucketOf second).closing).opening = (bucketOf second).closing := by
  have own := contains_iff.mp (partition.contains second)
  have following := contains_iff.mp (partition.contains (bucketOf second).closing)
  by_contra apart
  -- The last second of the bucket would lie in both.
  have last := partition.unique second ((bucketOf second).closing - 1)
    (contains_iff.mpr ⟨by omega, by omega⟩)
  have shared := partition.unique (bucketOf second).closing ((bucketOf second).closing - 1)
    (contains_iff.mpr ⟨by omega, by omega⟩)
  rw [last] at shared
  rw [← shared] at following
  omega

theorem Partition.opening {bucketOf : Int → Bucket} (partition : Partition bucketOf) (second : Int) :
    bucketOf (bucketOf second).opening = bucketOf second := by
  have own := contains_iff.mp (partition.contains second)
  exact partition.unique second _ (contains_iff.mpr (by omega))

def phased (length phase second : Int) : Bucket :=
  let opening := phase + (second - phase) / length * length
  ⟨opening, opening + length⟩

theorem partition_phased {length : Int} (positive : 0 < length) (phase : Int) :
    Partition (phased length phase) where
  contains second := by
    have parts := Int.mul_ediv_add_emod (second - phase) length
    have low := Int.emod_nonneg (second - phase) (Int.ne_of_gt positive)
    have high := Int.emod_lt_of_pos (second - phase) positive
    rw [Int.mul_comm] at parts
    rw [contains_iff, phased]
    dsimp only
    omega
  unique second other inside := by
    rw [contains_iff, phased] at inside
    dsimp only at inside
    have same : (other - phase) / length = (second - phase) / length := by
      apply Int.le_antisymm
      · apply Int.le_of_lt_add_one
        rw [Int.ediv_lt_iff_lt_mul positive, Int.add_mul, Int.one_mul]
        omega
      · rw [Int.le_ediv_iff_mul_le positive]
        omega
    rw [phased, phased, same]

def monthly (second : Int) : Bucket :=
  let date := dateOfDay (second / secondsPerDay)
  ⟨dayOfDate date.startOfMonth * secondsPerDay, dayOfDate date.startOfNextMonth * secondsPerDay⟩

theorem month_around (day : Int) :
    dayOfDate (dateOfDay day).startOfMonth ≤ day ∧
      day < dayOfDate (dateOfDay day).startOfNextMonth := by
  have exist := exists_dateOfDay day
  have first := exist.day_pos
  have last := exist.day_le
  rw [dayOfDate_startOfNextMonth exist, dayOfDate_startOfMonth, dayOfDate_dateOfDay]
  omega

theorem same_month {day other : Int}
    (low : dayOfDate (dateOfDay day).startOfMonth ≤ other)
    (high : other < dayOfDate (dateOfDay day).startOfNextMonth) :
    (dateOfDay other).startOfMonth = (dateOfDay day).startOfMonth := by
  have exist := exists_dateOfDay day
  rw [dayOfDate_startOfNextMonth exist] at high
  have start := dayOfDate_startOfMonth (dateOfDay day)
  let date : Date :=
    { dateOfDay day with day := other - dayOfDate (dateOfDay day).startOfMonth + 1 }
  have numbered : dayOfDate date = other := by
    have more := dayOfDate_add (dateOfDay day).year (dateOfDay day).month 1
      (other - dayOfDate (dateOfDay day).startOfMonth)
    rw [Int.add_comm 1] at more
    rw [more, ← Date.startOfMonth]
    omega
  have found : dateOfDay other = date := by
    rw [← numbered]
    apply dateOfDay_dayOfDate
    exact ⟨exist.month_pos, exist.month_le, by dsimp only [date]; omega, by dsimp only [date]; omega⟩
  rw [found]
  rfl

theorem partition_monthly : Partition monthly where
  contains second := by
    have around := month_around (second / secondsPerDay)
    rw [contains_iff, monthly]
    unfold secondsPerDay at around ⊢
    dsimp only
    omega
  unique second other inside := by
    rw [contains_iff] at inside
    unfold monthly secondsPerDay at inside ⊢
    dsimp only at inside ⊢
    have same : (dateOfDay (other / 86400)).startOfMonth = (dateOfDay (second / 86400)).startOfMonth :=
      same_month (by omega) (by omega)
    have following (date : Date) : date.startOfNextMonth = date.startOfMonth.startOfNextMonth := rfl
    rw [following (dateOfDay (other / 86400)), same, ← following]

end Bucket

namespace Interval
open Bucket

def bucketAt : Interval → Int → Bucket
  | oneMonth => monthly
  | oneWeek => phased oneWeek.seconds (-3 * secondsPerDay)
  | i => phased i.seconds 0

theorem partition_bucketAt (i : Interval) : Partition i.bucketAt := by
  cases i
  case oneMonth => exact partition_monthly
  all_goals exact partition_phased (seconds_pos _) _

theorem bucket_eq_bucketAt (i : Interval) (t : Instant) : i.bucket t = i.bucketAt t.seconds := by
  cases i
  case oneMonth =>
    have exist := exists_dateOfDay t.day
    have start := dayOfDate_startOfMonth (dateOfDay t.day)
    rw [dayOfDate_dateOfDay] at start
    have following := dayOfDate_startOfNextMonth exist
    simp only [bucket, alignment, bucketAt, monthly, dayStart, Instant.date, Bucket.mk.injEq,
      daysInMonth_eq exist.month_pos exist.month_le]
    unfold Instant.day secondsPerDay at *
    omega
  case oneWeek =>
    simp only [bucket, alignment, bucketAt, phased, dayStart, weekday, Instant.day, secondsPerDay,
      seconds, Bucket.mk.injEq]
    omega
  all_goals simp [bucket, alignment, bucketAt, phased, dayStart, secondsPerDay, seconds]

theorem bucket_contains (i : Interval) (t : Instant) : (i.bucket t).contains t.seconds = true := by
  rw [bucket_eq_bucketAt]
  exact (partition_bucketAt i).contains t.seconds

theorem bucket_partition (i : Interval) (t t' : Instant) :
    (i.bucket t).contains t.seconds = true ∧
    ((i.bucket t).contains t'.seconds = true → i.bucket t' = i.bucket t) ∧
    (∀ start : Instant, start.seconds = i.align t → i.align start = i.align t) ∧
    (∀ start : Instant, start.seconds = (i.bucket t).closing →
      i.align start = (i.bucket t).closing) ∧
    (i = oneWeek → ∃ monday, weekday monday = 0 ∧
      i.bucket t = ⟨monday * secondsPerDay, (monday + 7) * secondsPerDay⟩) ∧
    (i = oneMonth → ∃ calendar, (∀ other, IsGregorian other ↔ other = calendar) ∧
      ∃ first next, calendar first = (calendar t.day).startOfMonth ∧
        calendar next = (calendar t.day).startOfNextMonth ∧
        i.bucket t = ⟨first * secondsPerDay, next * secondsPerDay⟩) := by
  have partition := partition_bucketAt i
  have own := partition.contains t.seconds
  simp only [align, bucket_eq_bucketAt]
  refine ⟨own, partition.unique _ _, ?_, ?_, ?_, ?_⟩
  · intro start opens
    have around := contains_iff.mp own
    rw [partition.unique t.seconds start.seconds (contains_iff.mpr (by omega))]
  · intro start opens
    rw [opens]
    exact partition.next t.seconds
  · rintro rfl
    refine ⟨7 * ((t.day + 3) / 7) - 3, by unfold weekday; omega, ?_⟩
    simp only [bucketAt, phased, Instant.day, secondsPerDay, seconds, Bucket.mk.injEq]
    omega
  · rintro rfl
    have exist := exists_dateOfDay t.day
    exact ⟨dateOfDay, fun _ => isGregorian_iff, _, _,
      dateOfDay_dayOfDate (exists_startOfMonth exist),
      dateOfDay_dayOfDate (exists_startOfNextMonth exist), rfl⟩

end Interval

end CandleFeed
