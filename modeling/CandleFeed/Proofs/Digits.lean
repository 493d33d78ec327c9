import CandleFeed.Text.Integer

namespace CandleFeed.Text

theorem appendDigits_append (n : Nat) (cs ds : List Char) :
    appendDigits n (cs ++ ds) = appendDigits (appendDigits n cs) ds :=
  List.foldl_append

theorem appendDigits_eq_ofDigitChars (n : Nat) (cs : List Char) :
    appendDigits n cs = Nat.ofDigitChars 10 cs n := by
  rw [Nat.ofDigitChars_eq_foldl]
  rfl

theorem appendDigits_eq (n : Nat) (cs : List Char) :
    appendDigits n cs = Nat.pow 10 cs.length * n + appendDigits 0 cs := by
  rw [Nat.pow_eq, appendDigits_eq_ofDigitChars, appendDigits_eq_ofDigitChars,
    Nat.ofDigitChars_eq_ofDigitChars_zero]

theorem le_appendDigits (n : Nat) (cs : List Char) : n ≤ appendDigits n cs := by
  rw [appendDigits_eq]
  have positive : 0 < Nat.pow 10 cs.length := Nat.pow_pos (by decide)
  exact Nat.le_add_right_of_le (Nat.le_mul_of_pos_left n positive)

theorem appendDigits_digits (n : Nat) : appendDigits 0 (digits n) = n := by
  rw [appendDigits_eq_ofDigitChars]
  exact Nat.ofDigitChars_ten_toDigits

theorem appendDigits_padded (width n : Nat) : appendDigits 0 (paddedDigits width n) = n := by
  rw [paddedDigits, appendDigits_append]
  have zeros : ∀ k, appendDigits 0 (List.replicate k '0') = 0 := by
    intro k
    induction k with
    | zero => rfl
    | succ k ih => exact ih
  rw [zeros, appendDigits_digits]

theorem digits_ne_nil (n : Nat) : digits n ≠ [] :=
  Nat.toDigits_ne_nil

theorem isDigit_of_mem_digits {n : Nat} {c : Char} (mem : c ∈ digits n) : c.isDigit = true :=
  Nat.isDigit_of_mem_toDigits (by decide) (by decide) mem

theorem isDigit_of_mem_padded {width n : Nat} {c : Char} (mem : c ∈ paddedDigits width n) :
    c.isDigit = true := by
  rcases List.mem_append.mp mem with zero | digit
  · rw [List.eq_of_mem_replicate zero]
    rfl
  · exact isDigit_of_mem_digits digit

theorem length_digits_le {n k : Nat} (positive : 0 < k) (less : n < Nat.pow 10 k) :
    (digits n).length ≤ k :=
  (Nat.length_toDigits_le_iff (by decide) positive).mpr less

theorem le_length_padded (width n : Nat) : width ≤ (paddedDigits width n).length := by
  rw [paddedDigits, List.length_append, List.length_replicate]
  omega

theorem length_padded {width n : Nat} (positive : 0 < width) (less : n < Nat.pow 10 width) :
    (paddedDigits width n).length = width := by
  have short := length_digits_le positive less
  rw [paddedDigits, List.length_append, List.length_replicate]
  omega

theorem eq_zero_of_head?_digits {n : Nat} (head : (digits n).head? = some '0') : n = 0 := by
  induction n using Nat.strongRecOn with
  | ind n ih =>
      rw [digits, Nat.toDigits_eq_if (by decide)] at head
      split at head
      · simpa using head
      · rename_i large
        rw [List.head?_append, Option.or_of_isSome (by simp)] at head
        have zero := ih (n / 10) (by omega) head
        omega

def NoDigit (rest : List Char) : Prop :=
  ∀ c ∈ rest.head?, c.isDigit = false

theorem noDigit_nil : NoDigit [] := by
  intro c mem
  cases mem

theorem noDigit_cons {c : Char} (other : c.isDigit = false) (rest : List Char) :
    NoDigit (c :: rest) := by
  intro d mem
  cases mem
  exact other

theorem takeWhile_digits {ds rest : List Char} (all : ∀ c ∈ ds, c.isDigit = true)
    (ends : NoDigit rest) : (ds ++ rest).takeWhile Char.isDigit = ds := by
  rw [List.takeWhile_append_of_pos all]
  cases rest with
  | nil => simp
  | cons c rest => simp [ends c rfl]

theorem dropWhile_digits {ds rest : List Char} (all : ∀ c ∈ ds, c.isDigit = true)
    (ends : NoDigit rest) : (ds ++ rest).dropWhile Char.isDigit = rest := by
  rw [List.dropWhile_append_of_pos all]
  cases rest with
  | nil => rfl
  | cons c rest => simp [ends c rfl]

theorem digits?_of_digits {ds : List Char} (some : ds ≠ []) (all : ∀ c ∈ ds, c.isDigit = true) :
    digits? ds = .some (appendDigits 0 ds) :=
  if_pos ⟨some, List.all_eq_true.mpr all⟩

end CandleFeed.Text
