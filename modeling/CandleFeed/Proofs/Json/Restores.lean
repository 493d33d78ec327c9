import CandleFeed.Proofs.Json.Number
import CandleFeed.Json.Codec

namespace CandleFeed.Json

theorem skipSpace_cons {c : Char} (dark : isSpace c = false) (cs : List Char) :
    skipSpace (c :: cs) = c :: cs :=
  List.dropWhile_cons_of_neg (by simp [dark])

theorem colon_cons (cs : List Char) : colon (':' :: cs) = .ok cs := rfl

def StartsValue (c : Char) : Prop :=
  isSpace c = false ∧ c ≠ 'n'

theorem startsValue_of_number {c : Char} (start : c = '-' ∨ c.isDigit = true) : StartsValue c := by
  rcases start with rfl | digit
  · exact ⟨rfl, by decide⟩
  · constructor
    · unfold isSpace
      simp only [Bool.or_eq_false_iff, beq_eq_false_iff_ne]
      refine ⟨⟨⟨?_, ?_⟩, ?_⟩, ?_⟩ <;> rintro rfl <;> cases digit
    · rintro rfl
      cases digit

namespace Codec

structure Restores (codec : Codec α) (a b : α) : Prop where
  starts : ∃ c cs, codec.write a = c :: cs ∧ StartsValue c
  reads : ∀ rest, Ends rest → codec.read (codec.write a ++ rest) = .ok (b, rest)

theorem Restores.skipSpace {codec : Codec α} {a b : α} (restores : codec.Restores a b)
    (rest : List Char) : skipSpace (codec.write a ++ rest) = codec.write a ++ rest := by
  obtain ⟨c, cs, text, dark, -⟩ := restores.starts
  rw [text, List.cons_append, skipSpace_cons dark]

theorem Restores.nullable {codec : Codec α} {a b : α} (restores : codec.Restores a b)
    {rest : List Char} (ends : Ends rest) :
    readNullable codec.read (codec.write a ++ rest) = .ok (some b, rest) := by
  have value := restores.reads rest ends
  unfold readNullable
  rw [restores.skipSpace]
  split
  · rename_i null
    obtain ⟨c, cs, text, -, other⟩ := restores.starts
    rw [text] at null
    exact absurd (List.cons.inj null).1 other
  · rw [value]
    rfl

theorem Restores.decode {codec : Codec α} {a b : α} (restores : codec.Restores a b) :
    codec.decode (codec.encode a).toList = .ok b := by
  have whole := restores.reads [] ends_nil
  rw [List.append_nil] at whole
  unfold encode Codec.decode
  rw [String.toList_ofList, whole]
  rfl

theorem Restores.map {codec : Codec α} {into : α → β} {from' : β → α} {b : β} {a : α}
    (restores : codec.Restores (from' b) a) : (codec.map into from').Restores b (into a) where
  starts := restores.starts
  reads rest ends := by
    unfold Codec.map
    dsimp only
    rw [restores.reads rest ends]
    rfl

theorem Restores.refine {codec : Codec α} {parse : α → Option β} {render : β → α} {a b : β}
    {c : α} (restores : codec.Restores (render a) c) (parsed : parse c = some b) :
    (codec.refine parse render).Restores a b where
  starts := restores.starts
  reads rest ends := by
    unfold Codec.refine
    dsimp only
    rw [restores.reads rest ends]
    dsimp only [bind, Except.bind]
    rw [parsed]

theorem restores_text (s : String) : text.Restores s s where
  starts := ⟨'"', _, rfl, rfl, by decide⟩
  reads rest _ := by
    show readText (quote s ++ rest) = .ok (s, rest)
    unfold readText
    rw [quote, List.cons_append, List.cons_append, skipSpace_cons rfl]
    exact readQuoted_quote s rest

theorem restores_spelled {parse : List Char → Option α} {render : α → List Char} {a b : α}
    (parsed : parse (render a) = some b) : (spelled parse render).Restores a b := by
  apply (restores_text _).refine
  rw [String.toList_ofList]
  exact parsed

theorem restores_named {find : String → Option α} {name : α → String} {a : α}
    (found : find (name a) = some a) : (named find name).Restores a a where
  starts := ⟨'"', _, rfl, rfl, by decide⟩
  reads rest _ := by
    have quoted := readQuoted_quote (name a) rest
    show readNamed find (quote (name a) ++ rest) = .ok (a, rest)
    unfold readNamed
    rw [quote, List.cons_append, List.cons_append] at quoted ⊢
    rw [skipSpace_cons rfl]
    simp only [quoted, bind, Except.bind, found]

theorem restores_flag (b : Bool) : flag.Restores b b where
  starts := by
    cases b
    · exact ⟨'f', _, rfl, rfl, by decide⟩
    · exact ⟨'t', _, rfl, rfl, by decide⟩
  reads rest _ := by
    cases b <;> rfl

theorem restores_within {low high n : Int} (low_le : low ≤ n) (le_high : n ≤ high)
    (room : n.natAbs ≤ Text.maxUInt64) : (within low high).Restores n n := by
  obtain ⟨c, cs, text, start⟩ := exists_signedDigits n
  have value := startsValue_of_number start
  have number : startsNumber (c :: cs) = true := by
    rcases start with rfl | digit
    · rfl
    · simp [startsNumber, digit]
  refine ⟨⟨c, cs, text, value⟩, ?_⟩
  intro rest ends
  show readWithin low high (Text.signedDigits n ++ rest) = .ok (n, rest)
  have read := readNumber_signedDigits room ends
  have exact := integer?_signedDigits n
  unfold readWithin
  rw [text, List.cons_append] at read ⊢
  rw [skipSpace_cons value.1]
  dsimp only
  rw [if_pos (by simpa [startsNumber] using number), read]
  dsimp only [bind, Except.bind]
  rw [exact]
  exact if_pos ⟨low_le, le_high⟩

theorem restores_int64 {n : Int} (low : Text.minInt64 ≤ n) (high : n ≤ Text.maxInt64) :
    int64.Restores n n := by
  apply restores_within low high
  unfold Text.minInt64 Text.maxInt64 Text.maxUInt64 at *
  omega

theorem restores_nat64 {n : Nat} (room : n ≤ Text.maxUInt64) : nat64.Restores n n := by
  have restores : (within 0 Text.maxUInt64).Restores (n : Int) n :=
    restores_within (Int.natCast_nonneg n) (Int.ofNat_le.mpr room) room
  exact restores.map

end Codec

end CandleFeed.Json
