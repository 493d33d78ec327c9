import CandleFeed.Decimal.Reader
import CandleFeed.Proofs.Digits

namespace CandleFeed.Decimal
open Text

theorem digit_cases {c : Char} (digit : c.isDigit = true) :
    c ≠ '.' ∧ c ≠ '_' ∧ c ≠ '-' ∧ c ≠ '+' ∧ digitValue? c = some (c.toNat - '0'.toNat) := by
  refine ⟨?_, ?_, ?_, ?_, if_pos digit⟩ <;> rintro rfl <;> cases digit

theorem appendDigits_single (m : Nat) (c : Char) (cs : List Char) :
    appendDigits m (c :: cs) = appendDigits (m * 10 + (c.toNat - '0'.toNat)) cs := by
  rw [Nat.mul_comm m]
  rfl

theorem parseWhole_digits {negative seen : Bool} {m : Nat} {cs : List Char} (rest : List Char)
    (all : ∀ c ∈ cs, c.isDigit = true) (some : cs ≠ [] ∨ seen = true)
    (room : appendDigits m cs ≤ maxMantissa) :
    parseWhole negative seen m (cs ++ rest) = parseWhole negative true (appendDigits m cs) rest := by
  induction cs generalizing m seen with
  | nil =>
      obtain rfl := some.resolve_left (fun h => h rfl)
      rfl
  | cons c cs ih =>
      obtain ⟨point, separator, -, -, value⟩ := digit_cases (all c List.mem_cons_self)
      rw [appendDigits_single] at room ⊢
      have fits := Nat.le_trans (le_appendDigits _ cs) room
      rw [List.cons_append, parseWhole, if_neg point, if_neg separator, value]
      dsimp only
      rw [if_pos fits, ih (fun d mem => all d (List.mem_cons_of_mem _ mem)) (.inr rfl) room]

theorem parsePlaces_digits {negative long : Bool} {m s : Nat} {cs : List Char}
    (all : ∀ c ∈ cs, c.isDigit = true) (room : appendDigits m cs ≤ maxMantissa)
    (short : s + cs.length ≤ maxScale) :
    parsePlaces negative true long m s cs =
      ofParts? negative (appendDigits m cs) (s + cs.length) := by
  induction cs generalizing m s long with
  | nil => rfl
  | cons c cs ih =>
      obtain ⟨-, separator, -, -, value⟩ := digit_cases (all c List.mem_cons_self)
      rw [appendDigits_single] at room ⊢
      rw [List.length_cons] at short ⊢
      have fits := Nat.le_trans (le_appendDigits _ cs) room
      rw [parsePlaces, if_neg separator, value]
      dsimp only
      rw [if_pos ⟨by omega, fits⟩,
        ih (fun d mem => all d (List.mem_cons_of_mem _ mem)) room (by omega)]
      congr 1
      omega

theorem ofParts?_eq (negative : Bool) {m s : Nat} (room : m ≤ maxMantissa) (short : s ≤ 28) :
    ofParts? negative m s = some ⟨negative && m != 0, m, s, room, short⟩ :=
  dif_pos ⟨room, short⟩

structure Parts (d : Decimal) (whole places : List Char) : Prop where
  some : whole ≠ []
  whole_digits : ∀ c ∈ whole, c.isDigit = true
  places_digits : ∀ c ∈ places, c.isDigit = true
  scale : places.length = d.scale
  value : appendDigits (appendDigits 0 whole) places = d.mantissa
  render : d.render = (if d.negative then ['-'] else []) ++
    (if d.scale = 0 then whole else whole ++ '.' :: places)

theorem exists_parts (d : Decimal) : ∃ whole places, Parts d whole places := by
  have long := le_length_padded (d.scale + 1) d.mantissa
  have value := appendDigits_padded (d.scale + 1) d.mantissa
  have all (c : Char) (mem : c ∈ paddedDigits (d.scale + 1) d.mantissa) : c.isDigit = true :=
    isDigit_of_mem_padded mem
  let cut := (paddedDigits (d.scale + 1) d.mantissa).length - d.scale
  refine ⟨(paddedDigits (d.scale + 1) d.mantissa).take cut,
    (paddedDigits (d.scale + 1) d.mantissa).drop cut, ?_, ?_, ?_, ?_, ?_, ?_⟩
  · rw [ne_eq, List.take_eq_nil_iff, ← List.length_eq_zero_iff]
    omega
  · intro c mem
    exact all c (List.mem_of_mem_take mem)
  · intro c mem
    exact all c (List.mem_of_mem_drop mem)
  · rw [List.length_drop]
    omega
  · rw [← appendDigits_append, List.take_append_drop, value]
  · unfold Decimal.render
    dsimp only
    cases d.negative <;> rfl

theorem parseWhole_parts {d : Decimal} {whole places : List Char} (parts : Parts d whole places)
    (negative : Bool) :
    parseWhole negative false 0 (if d.scale = 0 then whole else whole ++ '.' :: places) =
      some { d with negative := negative && !d.isZero } := by
  have room : d.mantissa ≤ maxMantissa := d.mantissa_le
  rw [← parts.value] at room
  have roomWhole := Nat.le_trans (le_appendDigits _ places) room
  have short : 0 + places.length ≤ maxScale := by
    rw [parts.scale, Nat.zero_add]
    exact d.scale_le
  by_cases integral : d.scale = 0
  · have none : places = [] := List.length_eq_zero_iff.mp (parts.scale.trans integral)
    have value : appendDigits 0 whole = d.mantissa := by
      rw [← parts.value, none]
      rfl
    have scaled : ofParts? negative d.mantissa 0 = ofParts? negative d.mantissa d.scale := by
      rw [integral]
    rw [if_pos integral, ← List.append_nil whole,
      parseWhole_digits [] parts.whole_digits (.inl parts.some) roomWhole, parseWhole, if_pos rfl,
      value, scaled]
    exact ofParts?_eq negative d.mantissa_le d.scale_le
  · rw [if_neg integral, parseWhole_digits _ parts.whole_digits (.inl parts.some) roomWhole,
      parseWhole, if_pos rfl, parsePlaces_digits parts.places_digits room short, Nat.zero_add]
    simp only [parts.value, parts.scale]
    exact ofParts?_eq negative d.mantissa_le d.scale_le

theorem parsePlain?_render (d : Decimal) : parsePlain? d.render = some d.signedByValue := by
  obtain ⟨whole, places, parts⟩ := exists_parts d
  have read := parseWhole_parts parts d.negative
  have start : ∃ c cs, (if d.scale = 0 then whole else whole ++ '.' :: places) = c :: cs ∧
      c.isDigit = true := by
    obtain ⟨c, cs, rfl⟩ := List.exists_cons_of_ne_nil parts.some
    have digit := parts.whole_digits c List.mem_cons_self
    split
    · exact ⟨c, cs, rfl, digit⟩
    · exact ⟨c, _, rfl, digit⟩
  obtain ⟨c, cs, text, digit⟩ := start
  obtain ⟨-, -, minus, plus, -⟩ := digit_cases digit
  rw [text] at read
  rw [parts.render, text]
  cases sign : d.negative with
  | true =>
      rw [sign] at read
      exact read.trans (by rw [signedByValue, sign])
  | false =>
      rw [sign] at read
      have plain : parsePlain? (c :: cs) = parseWhole false false 0 (c :: cs) := by
        unfold parsePlain?
        split
        · rename_i h
          exact absurd (List.cons.inj h).1 minus
        · rename_i h
          exact absurd (List.cons.inj h).1 plus
        · rfl
      exact plain.trans (read.trans (by rw [signedByValue, sign]))

theorem parse?_render (d : Decimal) : parse? d.render = some d.signedByValue := by
  rw [parse?, parsePlain?_render, Option.some_or]

end CandleFeed.Decimal
