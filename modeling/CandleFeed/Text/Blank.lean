

namespace CandleFeed.Text

def blankRanges : List (Nat × Nat) :=
  [(0x09, 0x0D), (0x20, 0x20), (0x85, 0x85), (0xA0, 0xA0), (0x1680, 0x1680), (0x2000, 0x200A),
    (0x2028, 0x2029), (0x202F, 0x202F), (0x205F, 0x205F), (0x3000, 0x3000)]

def isBlank (c : Char) : Bool :=
  blankRanges.any fun (low, high) => low ≤ c.toNat && c.toNat ≤ high

example : (blankRanges.map fun (low, high) => high - low + 1).sum = 25 := by decide

def stripStart (cs : List Char) : List Char :=
  cs.dropWhile isBlank

def strip (cs : List Char) : List Char :=
  (stripStart (stripStart cs).reverse).reverse

def trim (s : String) : String :=
  String.ofList (strip s.toList)

theorem stripStart_eq_self_iff {cs : List Char} :
    stripStart cs = cs ↔ ∀ c ∈ cs.head?, isBlank c = false := by
  cases cs with
  | nil => simp [stripStart]
  | cons c cs =>
      by_cases h : isBlank c = true
      · simp only [stripStart, List.dropWhile_cons_of_pos h, List.head?_cons, Option.mem_def,
          Option.some.injEq, forall_eq', h, Bool.true_eq_false, iff_false]
        intro same
        have shorter := (List.dropWhile_suffix (p := isBlank) (l := cs)).length_le
        rw [same] at shorter
        exact absurd shorter (Nat.not_succ_le_self _)
      · simp [stripStart, h]

theorem stripStart_stripStart (cs : List Char) : stripStart (stripStart cs) = stripStart cs := by
  rw [stripStart_eq_self_iff]
  intro c head
  have dark := List.head?_dropWhile_not isBlank cs
  rw [stripStart] at head
  rw [Option.mem_def.mp head] at dark
  exact dark

theorem stripStart_of_dark {cs : List Char} (dark : ∀ c ∈ cs, isBlank c = false) :
    stripStart cs = cs :=
  stripStart_eq_self_iff.mpr fun c head => dark c (List.mem_of_mem_head? head)

theorem strip_of_dark {cs : List Char} (dark : ∀ c ∈ cs, isBlank c = false) : strip cs = cs := by
  rw [strip, stripStart_of_dark dark, stripStart_of_dark fun c mem => dark c (List.mem_reverse.mp mem),
    List.reverse_reverse]

theorem stripStart_strip (cs : List Char) : stripStart (strip cs) = strip cs := by
  rw [stripStart_eq_self_iff]
  intro c head
  have cut : strip cs <+: stripStart cs := by
    have suffix := List.dropWhile_suffix isBlank (l := (stripStart cs).reverse)
    simpa [strip, stripStart] using List.reverse_prefix.mpr suffix
  obtain ⟨rest, whole⟩ := cut
  have first : c ∈ (stripStart cs).head? := by
    rw [← whole, List.head?_append, Option.mem_def.mp head]
    rfl
  exact stripStart_eq_self_iff.mp (stripStart_stripStart cs) c first

theorem strip_strip (cs : List Char) : strip (strip cs) = strip cs := by
  have last : stripStart (strip cs).reverse = (strip cs).reverse := by
    rw [strip, List.reverse_reverse, stripStart_stripStart]
  rw [strip, stripStart_strip, last, List.reverse_reverse]

theorem trim_trim (s : String) : trim (trim s) = trim s := by
  rw [trim, trim, String.toList_ofList, strip_strip]

end CandleFeed.Text
