import CandleFeed.Json.Number
import CandleFeed.Proofs.Digits

namespace CandleFeed.Json
open Text

def Ends (rest : List Char) : Prop :=
  ∀ c ∈ rest.head?, c = ',' ∨ c = '}' ∨ c = ']'

theorem ends_nil : Ends [] := by
  intro c mem
  cases mem

theorem ends_cons {c : Char} (end' : c = ',' ∨ c = '}' ∨ c = ']') (rest : List Char) :
    Ends (c :: rest) := by
  intro d mem
  cases mem
  exact end'

theorem Ends.noDigit {rest : List Char} (ends : Ends rest) : NoDigit rest := by
  intro c mem
  rcases ends c mem with rfl | rfl | rfl <;> rfl

theorem exists_digits (n : Nat) : ∃ d ds, digits n = d :: ds ∧ d.isDigit = true := by
  cases whole : digits n with
  | nil => exact absurd whole (digits_ne_nil n)
  | cons d ds => exact ⟨d, ds, rfl, isDigit_of_mem_digits (whole ▸ List.mem_cons_self)⟩

theorem exists_signedDigits (n : Int) :
    ∃ c cs, signedDigits n = c :: cs ∧ (c = '-' ∨ c.isDigit = true) := by
  unfold signedDigits
  split
  · exact ⟨'-', _, rfl, .inl rfl⟩
  · obtain ⟨d, ds, shape, digit⟩ := exists_digits n.natAbs
    exact ⟨d, ds, shape, .inr digit⟩

theorem someDigits_digits (n : Nat) {rest : List Char} (ends : NoDigit rest) :
    someDigits (digits n ++ rest) = .ok (digits n, rest) := by
  have all (c : Char) (mem : c ∈ digits n) := isDigit_of_mem_digits mem
  unfold someDigits takeDigits
  rw [takeWhile_digits all ends, dropWhile_digits all ends]
  exact if_neg (digits_ne_nil n)

theorem readWhole_digits (n : Nat) {rest : List Char} (ends : NoDigit rest) :
    readWhole (digits n ++ rest) = .ok (digits n, rest) := by
  have single : ¬ ((digits n).head? = some '0' ∧ (digits n).length ≠ 1) := by
    rintro ⟨head, long⟩
    rw [eq_zero_of_head?_digits head] at long
    exact long rfl
  unfold readWhole
  rw [someDigits_digits n ends]
  exact if_neg single

theorem readPlaces_ends {rest : List Char} (ends : Ends rest) : readPlaces rest = .ok ([], rest) := by
  unfold readPlaces
  split
  · rename_i rest
    rcases ends '.' rfl with h | h | h <;> cases h
  · rfl

theorem readPower_ends {rest : List Char} (ends : Ends rest) :
    readPower rest = .ok (none, rest) := by
  unfold readPower
  split
  · rcases ends 'e' rfl with h | h | h <;> cases h
  · rcases ends 'E' rfl with h | h | h <;> cases h
  · rfl

theorem scanNumber_signedDigits (n : Int) {rest : List Char} (ends : Ends rest) :
    scanNumber (signedDigits n ++ rest) = .ok (⟨decide (n < 0), digits n.natAbs, [], none⟩, rest) := by
  have whole := readWhole_digits n.natAbs ends.noDigit
  unfold signedDigits scanNumber
  by_cases negative : n < 0
  · rw [if_pos negative, decide_eq_true negative]
    simp only [List.cons_append, whole, bind, Except.bind, readPlaces_ends ends,
      readPower_ends ends]
  · obtain ⟨d, ds, shape, digit⟩ := exists_digits n.natAbs
    have plain : d ≠ '-' := by
      rintro rfl
      cases digit
    rw [if_neg negative]
    split
    rename_i sign _ split
    rw [shape, List.cons_append] at split
    split at split
    · rename_i same
      exact absurd (List.cons.inj same).1 plain
    · cases split
      rw [← List.cons_append, ← shape, whole]
      dsimp only [bind, Except.bind]
      rw [readPlaces_ends ends]
      dsimp only
      rw [readPower_ends ends, decide_eq_false negative]

theorem leadingDigits_go {value count : Nat} {ds : List Char}
    (room : appendDigits value ds ≤ maxUInt64) :
    leadingDigits.go value count ds = (appendDigits value ds, count + ds.length) := by
  induction ds generalizing value count with
  | nil => rfl
  | cons d ds ih =>
      have parts := appendDigits_append value [d] ds
      rw [List.singleton_append] at parts
      rw [parts] at room ⊢
      have first := Nat.le_trans (le_appendDigits (appendDigits value [d]) ds) room
      unfold leadingDigits.go
      dsimp only
      rw [if_pos first, ih room, List.length_cons, Nat.add_right_comm, Nat.add_assoc]

theorem roundTo53Bits_le (n : Nat) : roundTo53Bits n ≤ 2 * n := by
  unfold roundTo53Bits
  rcases Nat.eq_zero_or_pos n with rfl | positive
  · decide
  have unit_le : Nat.pow 2 (n.log2 - 52) ≤ n := by
    apply Nat.le_trans (Nat.pow_le_pow_right (by decide) (Nat.sub_le n.log2 52))
    exact Nat.log2_self_le (Nat.ne_of_gt positive)
  have whole := Nat.div_mul_le_self n (Nat.pow 2 (n.log2 - 52))
  dsimp only
  split
  · exact Nat.le_trans whole (Nat.le_mul_of_pos_left n (by decide))
  · rw [Nat.add_mul]
    omega

theorem lt_infinityThreshold : 2 * maxUInt64 < infinityThreshold := by
  decide +kernel

theorem isTooLarge_digits (negative : Bool) {n : Nat} (room : n ≤ maxUInt64) :
    (⟨negative, digits n, [], none⟩ : Number).isTooLarge = false := by
  have leading : leadingDigits (digits n) = (n, (digits n).length) := by
    unfold leadingDigits
    rw [leadingDigits_go (by rw [appendDigits_digits]; exact room), appendDigits_digits,
      Nat.zero_add]
  have bound := roundTo53Bits_le n
  unfold Number.isTooLarge
  rw [List.append_nil, leading]
  simp only [Int.sub_self, Int.add_zero, Int.lt_irrefl, or_false, Int.toNat_zero,
    Nat.pow_eq, Nat.pow_zero]
  split
  · rfl
  · have small : roundTo53Bits n * roundTo53Bits 1 < infinityThreshold := by
      have one : roundTo53Bits 1 = 1 := by decide
      have threshold := lt_infinityThreshold
      rw [one, Nat.mul_one]
      omega
    simpa using small

theorem readNumber_signedDigits {n : Int} (room : n.natAbs ≤ maxUInt64) {rest : List Char}
    (ends : Ends rest) :
    readNumber (signedDigits n ++ rest) =
      .ok (⟨decide (n < 0), digits n.natAbs, [], none⟩, rest) := by
  unfold readNumber
  rw [scanNumber_signedDigits n ends]
  dsimp only [bind, Except.bind]
  rw [isTooLarge_digits _ room]
  rfl

theorem integer?_signedDigits (n : Int) :
    (⟨decide (n < 0), digits n.natAbs, [], none⟩ : Number).integer? = some n := by
  unfold Number.integer?
  rw [if_neg (by simp)]
  dsimp only
  rw [appendDigits_digits]
  by_cases negative : n < 0
  · have some : n.natAbs ≠ 0 := by omega
    have value : -(n.natAbs : Int) = n := by omega
    rw [decide_eq_true negative, if_pos rfl, if_neg some, value]
  · have value : (n.natAbs : Int) = n := by omega
    rw [decide_eq_false negative, if_neg Bool.false_ne_true, value]

end CandleFeed.Json
