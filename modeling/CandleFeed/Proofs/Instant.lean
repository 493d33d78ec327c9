import CandleFeed.Instant.Printer
import CandleFeed.Instant.Reader
import CandleFeed.Proofs.Calendar
import CandleFeed.Proofs.Digits

namespace CandleFeed.Instant
open Calendar Text

theorem isBlank_digit {c : Char} (digit : c.isDigit = true) : isBlank c = false := by
  simp only [Char.isDigit, Bool.and_eq_true, decide_eq_true_eq, ge_iff_le, UInt32.le_iff_toNat_le] at digit
  have low : 48 ≤ c.toNat := digit.1
  have high : c.toNat ≤ 57 := digit.2
  clear digit
  unfold isBlank blankRanges
  simp
  omega

theorem stripStart_cons {c : Char} (dark : isBlank c = false) (cs : List Char) :
    stripStart (c :: cs) = c :: cs :=
  List.dropWhile_cons_of_neg (by simp [dark])

theorem exists_padded (width n : Nat) :
    ∃ c cs, paddedDigits width n = c :: cs ∧ c.isDigit = true := by
  cases digits : paddedDigits width n with
  | nil => exact absurd (List.append_eq_nil_iff.mp digits).2 (digits_ne_nil n)
  | cons c cs => exact ⟨c, cs, rfl, isDigit_of_mem_padded (digits ▸ List.mem_cons_self)⟩

theorem digits?_padded (width n : Nat) : digits? (paddedDigits width n) = some n := by
  obtain ⟨c, cs, shape, -⟩ := exists_padded width n
  rw [digits?_of_digits (by rw [shape]; exact nofun) fun c mem => isDigit_of_mem_padded mem,
    appendDigits_padded]

theorem number?_padded {width n : Nat} (positive : 0 < width) (less : n < Nat.pow 10 width)
    (rest : List Char) : number? width (paddedDigits width n ++ rest) = some (n, rest) := by
  have length := length_padded positive less
  obtain ⟨c, cs, shape, digit⟩ := exists_padded width n
  have strip : stripStart (paddedDigits width n ++ rest) = paddedDigits width n ++ rest := by
    rw [shape, List.cons_append, stripStart_cons (isBlank_digit digit)]
  have run : ((paddedDigits width n ++ rest).take width).takeWhile Char.isDigit =
      paddedDigits width n := by
    have all : (paddedDigits width n ++ []).takeWhile Char.isDigit = paddedDigits width n :=
      takeWhile_digits (fun c mem => isDigit_of_mem_padded mem) noDigit_nil
    rw [List.append_nil] at all
    rw [List.take_left' length, all]
  unfold number?
  dsimp only
  rw [strip, run, digits?_padded, length, List.drop_left' length]
  rfl

theorem literal?_cons {c : Char} (dark : isBlank c = false) (rest : List Char) :
    literal? c (c :: rest) = some rest := by
  unfold literal?
  rw [stripStart_cons dark]
  exact if_pos rfl

theorem signed_padded (sign : Int) (width n : Nat) {rest : List Char} (ends : NoDigit rest) :
    year?.signed sign (paddedDigits width n ++ rest) = some (sign * n, rest) := by
  unfold year?.signed
  dsimp only
  rw [takeWhile_digits (fun c mem => isDigit_of_mem_padded mem) ends, digits?_padded,
    List.drop_left]
  rfl

theorem year?_render (year : Int) {rest : List Char} (ends : NoDigit rest) :
    year? (renderYear year ++ rest) = some (year, rest) := by
  unfold renderYear
  split
  · have small : year.natAbs < 10_000 := by omega
    have read := number?_padded (by decide : 0 < 4) small rest
    obtain ⟨c, cs, shape, digit⟩ := exists_padded 4 year.natAbs
    rw [shape, List.cons_append] at read ⊢
    unfold year?
    rw [stripStart_cons (isBlank_digit digit)]
    split
    · rename_i h
      cases (List.cons.inj h).1
      cases digit
    · rename_i h
      cases (List.cons.inj h).1
      cases digit
    · have value : (year.natAbs : Int) = year := by omega
      rw [read, Option.map_some]
      dsimp only
      rw [value]
  · have value : (if year < 0 then -1 else 1) * (year.natAbs : Int) = year := by
      split <;> omega
    unfold year?
    by_cases negative : year < 0
    · rw [if_pos negative] at value
      rw [if_pos negative, List.cons_append, stripStart_cons (by decide)]
      exact (signed_padded (-1) 4 year.natAbs ends).trans (by rw [value])
    · rw [if_neg negative] at value
      rw [if_neg negative, List.cons_append, stripStart_cons (by decide)]
      exact (signed_padded 1 4 year.natAbs ends).trans (by rw [value])

theorem number?_pair {n : Int} (low : 0 ≤ n) (high : n < 100) (rest : List Char) :
    number? 2 (renderPair n ++ rest) = some (n.natAbs, rest) := by
  have small : n.natAbs < 100 := by omega
  exact number?_padded (by decide) small rest

theorem isValid_of_exists {date : Date} (exist : date.Exists) : date.isValid = true := by
  have length : daysInMonth date.year date.month = monthLength date.year date.month :=
    daysInMonth_eq exist.month_pos exist.month_le
  simp only [Date.isValid, Bool.and_eq_true, decide_eq_true_eq, length]
  exact ⟨⟨⟨exist.month_pos, exist.month_le⟩, exist.day_pos⟩, exist.day_le⟩

theorem monthLength_le (year month : Int) : monthLength year month ≤ 31 := by
  unfold monthLength
  split <;> [split; skip; skip; skip; skip; skip] <;> omega

theorem date?_render {date : Date} (exist : date.Exists) (rest : List Char) :
    date? (renderYear date.year ++ '-' :: renderPair date.month ++ '-' :: renderPair date.day ++ rest)
      = some (date, rest) := by
  have month_pos := exist.month_pos
  have month_le := exist.month_le
  have day_pos := exist.day_pos
  have day_le := exist.day_le
  have length_le := monthLength_le date.year date.month
  have same : (⟨date.year, (date.month.natAbs : Int), (date.day.natAbs : Int)⟩ : Date) = date := by
    obtain ⟨year, month, day⟩ := date
    dsimp only at *
    congr 1 <;> omega
  simp only [List.append_assoc, List.cons_append]
  unfold date?
  rw [year?_render date.year (noDigit_cons (by decide) _)]
  dsimp only [bind, Option.bind]
  rw [literal?_cons (by decide)]
  dsimp only
  rw [number?_pair (by omega) (by omega)]
  dsimp only
  rw [literal?_cons (by decide)]
  dsimp only
  rw [number?_pair (by omega) (by omega)]
  dsimp only
  rw [same, if_pos (isValid_of_exists exist)]

theorem fraction?_places {places n : Nat} (positive : 0 < places) (short : places ≤ 9)
    (less : n < Nat.pow 10 places) {rest : List Char} (ends : NoDigit rest) :
    fraction? ('.' :: paddedDigits places n ++ rest) = some (n * Nat.pow 10 (9 - places), rest) := by
  have length := length_padded positive less
  have run : (paddedDigits places n ++ rest).takeWhile Char.isDigit = paddedDigits places n :=
    takeWhile_digits (fun c mem => isDigit_of_mem_padded mem) ends
  have all : (paddedDigits places n).take 9 = paddedDigits places n :=
    List.take_of_length_le (by omega)
  rw [List.cons_append]
  simp only [fraction?, run, all, digits?_padded, Option.map_some, length, List.drop_left' length]

theorem fraction?_render {nanos : Nat} (less : nanos < 1_000_000_000) :
    fraction? (renderFraction nanos ++ ['Z']) = some (nanos, ['Z']) := by
  have ends : NoDigit ['Z'] := noDigit_cons (by decide) []
  unfold renderFraction
  split
  · rename_i zero
    rw [zero]
    rfl
  · split
    · have value : nanos / 1_000_000 * 1_000_000 = nanos := by omega
      have small : nanos / 1_000_000 < 1000 := by omega
      rw [fraction?_places (by decide) (by decide) small ends]
      exact congrArg (fun n => some (n, ['Z'])) value
    · split
      · have value : nanos / 1000 * 1000 = nanos := by omega
        have small : nanos / 1000 < 1_000_000 := by omega
        rw [fraction?_places (by decide) (by decide) small ends]
        exact congrArg (fun n => some (n, ['Z'])) value
      · rw [fraction?_places (by decide) (by decide) less ends]
        exact congrArg (fun n => some (n, ['Z'])) (Nat.mul_one nanos)

theorem time?_render (t : Instant) :
    time? (renderPair (t.seconds % secondsPerDay / 3600) ++
      ':' :: renderPair (t.seconds % secondsPerDay / 60 % 60) ++
      ':' :: renderPair (t.seconds % secondsPerDay % 60 + (t.nanos / 1_000_000_000 : Nat)) ++
      renderFraction (t.nanos % 1_000_000_000) ++ ['Z']) =
      some ((t.seconds % secondsPerDay, t.nanos), ['Z']) := by
  have leap := t.nanos_lt
  have minute : t.seconds % secondsPerDay % 60 = t.seconds % 60 := by
    unfold secondsPerDay
    omega
  have low : 0 ≤ t.seconds % secondsPerDay := Int.emod_nonneg _ (by decide)
  have high : t.seconds % secondsPerDay < 86400 := Int.emod_lt_of_pos _ (by decide)
  rw [← minute] at leap
  generalize t.seconds % secondsPerDay = ofDay at *
  generalize t.nanos = nanos at *
  simp only [List.append_assoc, List.cons_append]
  unfold time?
  rw [number?_pair (by omega) (by omega)]
  dsimp only [bind, Option.bind]
  rw [literal?_cons (by decide)]
  dsimp only
  rw [number?_pair (by omega) (by omega)]
  dsimp only
  rw [literal?_cons (by decide)]
  dsimp only
  rw [number?_pair (by omega) (by omega)]
  dsimp only
  rw [fraction?_render (Nat.mod_lt _ (by decide))]
  dsimp only
  rw [if_neg (by omega)]
  congr 3
  · omega
  · split <;> omega

theorem dayOfDate_of_early {date : Date} (exist : date.Exists) (early : date.year < firstYear) :
    dayOfDate date * secondsPerDay < firstSecond := by
  obtain ⟨year, month, day⟩ := date
  have month_pos := exist.month_pos
  have month_le := exist.month_le
  have day_le := Int.le_trans exist.day_le (monthLength_le _ _)
  unfold firstYear at early
  unfold dayOfDate cycleDays daysBeforeYear daysBeforeMonth epochShift firstSecond secondsPerDay
  dsimp only at *
  -- The last year before the first is exact to the day, the others are a year away.
  have years : year = -262144 ∨ year ≤ -262145 := by omega
  rcases years with rfl | far
  · split <;> omega
  · split <;> omega

theorem dayOfDate_of_late {date : Date} (exist : date.Exists) (late : lastYear < date.year) :
    lastSecond < dayOfDate date * secondsPerDay := by
  obtain ⟨year, month, day⟩ := date
  have month_pos := exist.month_pos
  have month_le := exist.month_le
  have day_pos := exist.day_pos
  unfold lastYear at late
  unfold dayOfDate cycleDays daysBeforeYear daysBeforeMonth epochShift lastSecond secondsPerDay
  dsimp only at *
  have years : year = 262143 ∨ 262144 ≤ year := by omega
  rcases years with rfl | far
  · split <;> omega
  · split <;> omega

theorem year_bounds (t : Instant) : firstYear ≤ t.date.year ∧ t.date.year ≤ lastYear := by
  have exist : t.date.Exists := exists_dateOfDay t.day
  have numbered : dayOfDate t.date = t.day := dayOfDate_dateOfDay t.day
  have first := t.first_le
  have last := t.le_last
  have start : t.day * secondsPerDay ≤ t.seconds ∧ t.seconds < (t.day + 1) * secondsPerDay := by
    unfold Instant.day secondsPerDay
    omega
  constructor
  · by_contra early
    have before := dayOfDate_of_early exist (Int.not_le.mp early)
    rw [numbered] at before
    unfold firstSecond secondsPerDay at *
    omega
  · by_contra late
    have after := dayOfDate_of_late exist (Int.not_le.mp late)
    rw [numbered] at after
    omega

theorem offset?_utc : offset? ['Z'] = some (0, []) := by
  decide

theorem read?_render (t : Instant) : read? t.render = some t := by
  have exist : t.date.Exists := exists_dateOfDay t.day
  have numbered : dayOfDate t.date = t.day := dayOfDate_dateOfDay t.day
  have years := year_bounds t
  have seconds : t.day * secondsPerDay + t.seconds % secondsPerDay - 0 = t.seconds := by
    unfold Instant.day secondsPerDay
    omega
  have text : t.render = renderYear t.date.year ++ '-' :: renderPair t.date.month ++
      '-' :: renderPair t.date.day ++ 'T' :: (renderPair (t.seconds % secondsPerDay / 3600) ++
      ':' :: renderPair (t.seconds % secondsPerDay / 60 % 60) ++
      ':' :: renderPair (t.seconds % secondsPerDay % 60 + (t.nanos / 1_000_000_000 : Nat)) ++
      renderFraction (t.nanos % 1_000_000_000) ++ ['Z']) := by
    unfold render
    simp only [List.append_assoc, List.cons_append]
  rw [text]
  unfold read?
  rw [date?_render exist]
  simp only [bind, Option.bind, time?_render, offset?_utc]
  rw [if_neg (by simp [stripStart]; omega), numbered, seconds]
  exact ofParts?_eq_some_iff.mpr ⟨rfl, rfl⟩

end CandleFeed.Instant
