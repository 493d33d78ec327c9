import CandleFeed.Proofs.Buckets

namespace CandleFeed

structure Bucket.Inside (inner outer : Bucket) : Prop where
  opening : outer.opening ≤ inner.opening
  closing : inner.closing ≤ outer.closing

namespace Bucket

theorem inside_of_dvd {length second : Int} (positive : 0 < length) {outer : Bucket}
    (contains : outer.contains second = true) (opens : length ∣ outer.opening)
    (closes : length ∣ outer.closing) : (phased length 0 second).Inside outer := by
  obtain ⟨first, opening⟩ := opens
  obtain ⟨next, closing⟩ := closes
  rw [contains_iff, opening, closing, Int.mul_comm length, Int.mul_comm length] at contains
  have low : first ≤ second / length := (Int.le_ediv_iff_mul_le positive).mpr contains.1
  have high : second / length + 1 ≤ next :=
    Int.add_one_le_of_lt ((Int.ediv_lt_iff_lt_mul positive).mpr contains.2)
  unfold phased
  rw [Int.sub_zero, Int.zero_add]
  constructor
  · dsimp only
    rw [opening, Int.mul_comm length]
    exact Int.mul_le_mul_of_nonneg_right low positive.le
  · dsimp only
    have scaled := Int.mul_le_mul_of_nonneg_right high positive.le
    rw [Int.add_mul, Int.one_mul] at scaled
    rw [closing, Int.mul_comm length]
    exact scaled

end Bucket

namespace Interval
open Bucket

/-- The buckets of `fine` cut up those of `coarse`. A week may lie in two months. -/
structure Refines (fine coarse : Interval) : Prop where
  shorter : fine.index < coarse.index
  notWeek : fine ≠ oneWeek

variable {fine coarse : Interval}

theorem Refines.dvd_day (refines : fine.Refines coarse) : fine.seconds ∣ secondsPerDay := by
  obtain ⟨shorter, notWeek⟩ := refines
  revert shorter notWeek
  cases fine <;> cases coarse <;> decide

theorem Refines.dvd_seconds (refines : fine.Refines coarse) (fixed : coarse ≠ oneMonth) :
    fine.seconds ∣ coarse.seconds := by
  obtain ⟨shorter, notWeek⟩ := refines
  revert shorter notWeek fixed
  cases fine <;> cases coarse <;> decide

theorem Refines.bucketAt_eq (refines : fine.Refines coarse) :
    fine.bucketAt = phased fine.seconds 0 := by
  have day := refines.dvd_day
  cases fine
  case oneWeek => exact absurd rfl refines.notWeek
  case oneMonth => exact absurd day (by decide)
  all_goals rfl

theorem Refines.dvd_bucketAt (refines : fine.Refines coarse) (second : Int) :
    fine.seconds ∣ (coarse.bucketAt second).opening ∧
      fine.seconds ∣ (coarse.bucketAt second).closing := by
  have day := refines.dvd_day
  have regular {phase : Int} (fixed : coarse ≠ oneMonth) (shifted : fine.seconds ∣ phase) :
      fine.seconds ∣ (phased coarse.seconds phase second).opening ∧
        fine.seconds ∣ (phased coarse.seconds phase second).closing := by
    have length := refines.dvd_seconds fixed
    have opens : fine.seconds ∣ (phased coarse.seconds phase second).opening :=
      Int.dvd_add shifted (Int.dvd_mul_of_dvd_right length)
    exact ⟨opens, Int.dvd_add opens length⟩
  cases coarse
  case oneMonth => exact ⟨Int.dvd_mul_of_dvd_right day, Int.dvd_mul_of_dvd_right day⟩
  case oneWeek => exact regular (by decide) (Int.dvd_mul_of_dvd_right day)
  all_goals exact regular (by decide) (Int.dvd_zero _)

theorem Refines.inside_bucketAt (refines : fine.Refines coarse) (second : Int) :
    (fine.bucketAt second).Inside (coarse.bucketAt second) := by
  obtain ⟨opens, closes⟩ := refines.dvd_bucketAt second
  rw [refines.bucketAt_eq]
  exact inside_of_dvd (seconds_pos fine) ((partition_bucketAt coarse).contains second) opens closes

theorem Refines.eq_of_inside (refines : fine.Refines coarse) {second other : Int}
    (inside : (coarse.bucketAt other).opening ≤ (fine.bucketAt second).opening)
    (before : (fine.bucketAt second).opening < (coarse.bucketAt other).closing) :
    coarse.bucketAt other = coarse.bucketAt second := by
  have own := contains_iff.mp ((partition_bucketAt fine).contains second)
  have outer := refines.inside_bucketAt second
  have partition := partition_bucketAt coarse
  have here := partition.unique other (fine.bucketAt second).opening (contains_iff.mpr ⟨inside, before⟩)
  have there := partition.unique second (fine.bucketAt second).opening
    (contains_iff.mpr ⟨outer.opening, by have := outer.closing; omega⟩)
  exact here.symm.trans there

theorem Refines.existsUnique_bucket (refines : fine.Refines coarse) (t : Instant) :
    ∃! outer, (∃ t', outer = coarse.bucket t') ∧ (fine.bucket t).Inside outer := by
  refine ⟨coarse.bucket t, ⟨⟨t, rfl⟩, ?_⟩, ?_⟩
  · rw [bucket_eq_bucketAt, bucket_eq_bucketAt]
    exact refines.inside_bucketAt t.seconds
  · rintro outer ⟨⟨t', rfl⟩, inside⟩
    rw [bucket_eq_bucketAt, bucket_eq_bucketAt] at inside
    rw [bucket_eq_bucketAt, bucket_eq_bucketAt]
    have own := contains_iff.mp ((partition_bucketAt fine).contains t.seconds)
    exact refines.eq_of_inside inside.opening (by have := inside.closing; omega)

end Interval

end CandleFeed
