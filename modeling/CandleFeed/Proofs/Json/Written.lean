import CandleFeed.Json.Record
import CandleFeed.Proofs.Json.Record

namespace CandleFeed.Json
open Codec Members

abbrev Member := String × List Char

def Member.text (member : Member) : List Char :=
  writeMember member.1 member.2

inductive Written : List Char → Prop
  | quoted (s : String) : Written (quote s)
  | number (n : Int) : Written (Text.signedDigits n)
  | flag (b : Bool) : Written (flag.write b)
  | list (values : List (List Char)) (all : ∀ value ∈ values, Written value) :
      Written ('[' :: commaSeparated values ++ [']'])
  | object (members : List Member) (all : ∀ member ∈ members, Written member.2) :
      Written (object (members.map Member.text))

/-! ## Values without brackets -/

theorem isSome_hexValue?_hexDigit {n : Nat} (small : n < 16) :
    (hexValue? (hexDigit n)).isSome = true := by
  revert n
  decide

theorem escapeChar_cases (c : Char) :
    (escapeChar c = [c] ∧ c ≠ '"' ∧ c ≠ '\\' ∧ ¬ c.toNat < 0x20) ∨
      (∃ d, escapeChar c = ['\\', d] ∧ simpleEscape? d = some c) ∨
      ∃ a b, escapeChar c = ['\\', 'u', '0', '0', a, b] ∧ (hexValue? a).isSome = true ∧
        (hexValue? b).isSome = true := by
  unfold escapeChar
  iterate 7
    split
    · rename_i same
      exact .inr (.inl ⟨_, rfl, by rw [same]; rfl⟩)
  split
  · rename_i control
    exact .inr (.inr ⟨_, _, rfl, isSome_hexValue?_hexDigit (by omega),
      isSome_hexValue?_hexDigit (Nat.mod_lt _ (by decide))⟩)
  · rename_i plain
    exact .inl ⟨rfl, ‹¬ c = '"'›, ‹¬ c = '\\'›, plain⟩

theorem skipBody_escapeChar (c : Char) (rest : List Char) :
    skipBody .plain (escapeChar c ++ rest) = skipBody .plain rest := by
  rcases escapeChar_cases c with ⟨text, quoteMark, backslash, control⟩ | ⟨d, text, simple⟩ |
    ⟨a, b, text, high, low⟩
  · simp [text, skipBody, quoteMark, backslash, control]
  · have letter : d ≠ 'u' := by
      rintro rfl
      cases simple
    simp [text, skipBody, letter, simple]
  · have zero : hexValue? '0' = some 0 := rfl
    rw [Option.isSome_iff_ne_none] at high low
    simp [text, skipBody, zero, high, low]

theorem skipBody_escape (cs rest : List Char) :
    skipBody .plain (escape cs ++ '"' :: rest) = .ok rest := by
  induction cs with
  | nil => rfl
  | cons c cs ih =>
      rw [escape, List.flatMap_cons, List.append_assoc, skipBody_escapeChar]
      exact ih

theorem skipScalar_quote (s : String) (rest : List Char) : skipScalar (quote s ++ rest) = .ok rest := by
  have body := skipBody_escape s.toList rest
  simpa [quote, skipScalar] using body

theorem skipScalar_signedDigits (n : Int) {rest : List Char} (ends : Ends rest) :
    skipScalar (Text.signedDigits n ++ rest) = .ok rest := by
  have scanned := scanNumber_signedDigits n ends
  obtain ⟨c, cs, text, digit⟩ := exists_signedDigits n
  rw [text, List.cons_append] at scanned ⊢
  have number : skipScalar (c :: (cs ++ rest)) = (scanNumber (c :: (cs ++ rest))).map (·.2) := by
    unfold skipScalar
    split <;> simp_all
  rw [number, scanned]
  rfl

/-! ## All values -/

/-- It takes some steps to pass over a value, at most two for each of its characters. -/
def Passes (value : List Char) : Prop :=
  ∃ used, used ≤ 2 * value.length ∧ ∀ steps closing rest, Ends rest →
    skipFrom (steps + used) .value closing (value ++ rest) =
      skipFrom steps (.after true) closing rest

theorem passes_scalar {c : Char} {cs : List Char} (dark : isSpace c = false) (list : c ≠ '[')
    (object : c ≠ '{') (skips : ∀ rest, Ends rest → skipScalar (c :: cs ++ rest) = .ok rest) :
    Passes (c :: cs) := by
  refine ⟨1, by rw [List.length_cons]; omega, ?_⟩
  intro steps closing rest ends
  have skipped := skips rest ends
  rw [List.cons_append] at skipped ⊢
  rw [skipFrom, skipSpace_cons dark]
  split
  · simp_all
  · simp_all
  · rw [skipped]

structure Item (bracket : Bracket) (item : List Char) : Prop where
  starts : ∃ c cs, item = c :: cs ∧ isSpace c = false ∧ c ≠ bracket.close
  value : ∃ value, Passes value ∧ value.length ≤ item.length ∧
    ∀ rest, enterMember bracket (item ++ rest) = .ok (value ++ rest)

theorem ends_separated_close (bracket : Bracket) (items : List (List Char)) (rest : List Char) :
    Ends (separated false items ++ bracket.close :: rest) := by
  cases items with
  | nil => cases bracket <;> exact ends_cons (by simp [Bracket.close]) rest
  | cons item items => exact ends_cons (by simp) _

theorem passes_items {bracket : Bracket} {items : List (List Char)}
    (all : ∀ item ∈ items, Item bracket item) (first : Bool) :
    ∃ used, used ≤ 2 * (separated first items).length + (if first then 2 else 1) ∧
      ∀ steps closing rest, Ends rest →
        skipFrom (steps + used) (.after !first) (bracket :: closing)
            (separated first items ++ bracket.close :: rest) =
          skipFrom steps (.after true) closing rest := by
  have dark : isSpace bracket.close = false := by cases bracket <;> rfl
  induction items generalizing first with
  | nil =>
      refine ⟨1, by cases first <;> simp, ?_⟩
      intro steps closing rest _
      rw [separated, List.nil_append, skipFrom, skipSpace_cons dark]
      simp
  | cons item items ih =>
      obtain ⟨later, laterLe, passed⟩ := ih (fun other mem => all other (List.mem_cons_of_mem _ mem))
        false
      obtain ⟨⟨c, cs, shape, visible, opens⟩, value, ⟨own, ownLe, skipped⟩, short, entered⟩ :=
        all item List.mem_cons_self
      -- one step takes the comma, if there is one, and gets to the value
      refine ⟨later + own + 1, ?_, ?_⟩
      · cases first <;> simp [separated] at * <;> omega
      · intro steps closing rest ends
        let more := separated false items ++ bracket.close :: rest
        have inside := skipped (steps + later) (bracket :: closing) more
          (ends_separated_close bracket items rest)
        have behind := passed steps closing rest ends
        have comma : ',' ≠ bracket.close := by cases bracket <;> decide
        have count : steps + (later + own + 1) = steps + later + own + 1 := by omega
        rw [separated, List.append_assoc, List.append_assoc, count]
        change skipFrom _ _ _ (_ ++ (item ++ more)) = _
        have entered := entered more
        rw [shape, List.cons_append] at entered ⊢
        cases first with
        | true =>
            rw [if_pos rfl, List.nil_append, skipFrom, skipSpace_cons visible]
            simp only [opens, if_false, Bool.not_true, Bool.false_eq_true, entered]
            rw [inside]
            exact behind
        | false =>
            rw [if_neg Bool.false_ne_true, List.singleton_append, skipFrom, skipSpace_cons rfl]
            simp only [comma, if_false, Bool.not_false, if_true, entered]
            rw [inside]
            exact behind

theorem passes_bracket {bracket : Bracket} {c : Char} {items : List (List Char)}
    (all : ∀ item ∈ items, Item bracket item)
    (opens : ∀ steps closing rest, skipFrom (steps + 1) .value closing (c :: rest) =
      skipFrom steps (.after false) (bracket :: closing) rest) :
    Passes (c :: commaSeparated items ++ [bracket.close]) := by
  obtain ⟨used, few, passed⟩ := passes_items all true
  refine ⟨used + 1, ?_, ?_⟩
  · simp [commaSeparated_eq] at *
    omega
  · intro steps closing rest ends
    have inside := passed steps closing rest ends
    rw [← Nat.add_assoc, List.append_assoc, List.cons_append, opens, commaSeparated_eq]
    exact inside

theorem Written.starts {value : List Char} (written : Written value) :
    ∃ c cs, value = c :: cs ∧ isSpace c = false ∧ c ≠ ']' := by
  cases written with
  | number n =>
      obtain ⟨c, cs, text, start⟩ := exists_signedDigits n
      have visible := startsValue_of_number start
      refine ⟨c, cs, text, visible.1, ?_⟩
      rintro rfl
      rcases start with start | start <;> cases start
  | flag b => cases b <;> exact ⟨_, _, rfl, rfl, by decide⟩
  | _ => exact ⟨_, _, rfl, rfl, by decide⟩

theorem item_value {value : List Char} (written : Written value) (passes : Passes value) :
    Item .list value := by
  obtain ⟨c, cs, shape, dark, other⟩ := written.starts
  exact ⟨⟨c, cs, shape, dark, other⟩, value, passes, Nat.le_refl _, fun _ => rfl⟩

theorem item_member {value : List Char} (name : String) (passes : Passes value) :
    Item .object (writeMember name value) where
  starts := ⟨'"', _, rfl, rfl, by decide⟩
  value := by
    refine ⟨value, passes, ?_, ?_⟩
    · rw [writeMember, List.length_append, List.length_cons]
      omega
    intro rest
    have body := skipBody_escape name.toList (':' :: value ++ rest)
    simp [writeMember, quote, enterMember] at body ⊢
    rw [skipSpace_cons rfl]
    simp [body, bind, Except.bind, colon_cons]

theorem Written.passes {value : List Char} (written : Written value) : Passes value := by
  induction written with
  | quoted s =>
      exact passes_scalar rfl (by decide) (by decide) fun rest _ => skipScalar_quote s rest
  | number n =>
      obtain ⟨c, cs, text, start⟩ := exists_signedDigits n
      have visible := startsValue_of_number start
      have skips (rest : List Char) (ends : Ends rest) := skipScalar_signedDigits n ends
      rw [text] at skips ⊢
      refine passes_scalar visible.1 ?_ ?_ skips <;> rintro rfl <;> rcases start with h | h <;> cases h
  | flag b => cases b <;> exact passes_scalar rfl (by decide) (by decide) fun _ _ => rfl
  | list values all ih =>
      exact passes_bracket (fun value mem => item_value (all value mem) (ih value mem)) fun _ _ _ => rfl
  | object members all ih =>
      have item : ∀ text ∈ members.map fun member => Members.writeMember member.1 member.2,
          Item .object text := by
        intro text mem
        obtain ⟨member, held, rfl⟩ := List.mem_map.mp mem
        exact item_member member.1 (ih member held)
      exact passes_bracket item fun _ _ _ => rfl

theorem skipValue_written {value : List Char} (written : Written value) {rest : List Char}
    (ends : Ends rest) : skipValue (value ++ rest) = .ok rest := by
  obtain ⟨used, few, passed⟩ := written.passes
  have enough : ∃ left, 2 * (value ++ rest).length + 2 = left + 1 + used :=
    ⟨2 * (value ++ rest).length + 1 - used, by rw [List.length_append]; omega⟩
  obtain ⟨left, enough⟩ := enough
  unfold skipValue
  rw [enough, passed (left + 1) [] rest ends]
  rfl

/-! ## Codecs -/

namespace Codec

def Writes (codec : Codec α) : Prop :=
  ∀ a, Written (codec.write a)

theorem writes_text : text.Writes :=
  fun s => .quoted s

theorem writes_flag : flag.Writes :=
  fun b => .flag b

theorem writes_within (low high : Int) : (within low high).Writes :=
  fun n => .number n

theorem writes_named (find : String → Option α) (name : α → String) : (named find name).Writes :=
  fun a => .quoted (name a)

theorem Writes.map {codec : Codec α} (writes : codec.Writes) (into : α → β) (from' : β → α) :
    (codec.map into from').Writes :=
  fun b => writes (from' b)

theorem writes_nat64 : nat64.Writes :=
  (writes_within _ _).map _ _

theorem writes_spelled (parse : List Char → Option α) (render : α → List Char) :
    (spelled parse render).Writes :=
  fun a => .quoted (String.ofList (render a))

theorem Writes.list {codec : Codec α} (writes : codec.Writes) : (list codec).Writes := by
  intro as
  apply Written.list
  intro value mem
  obtain ⟨a, -, rfl⟩ := List.mem_map.mp mem
  exact writes a

end Codec

namespace Members

def present : Members σ τ → τ → List Member
  | .nil, () => []
  | .field name codec rest, (a, more) => (name, codec.write a) :: rest.present more
  | .optional name codec _ rest, (a, more) =>
      (a.map fun a => (name, codec.write a)).toList ++ rest.present more

def Writes : Members σ τ → Prop
  | .nil => True
  | .field _ codec rest | .optional _ codec _ rest => codec.Writes ∧ rest.Writes

theorem write_eq (members : Members σ τ) (a : τ) :
    members.write a = (members.present a).map Member.text := by
  induction members with
  | nil => rfl
  | field name codec rest ih =>
      obtain ⟨a, more⟩ := a
      rw [write, present, List.map_cons, ih]
      rfl
  | optional name codec droppable rest ih =>
      obtain ⟨a, more⟩ := a
      cases a with
      | none => exact ih more
      | some a =>
          rw [write, present, ih]
          rfl

theorem Writes.present {members : Members σ τ} (writes : members.Writes) (a : τ) :
    ∀ member ∈ members.present a, Written member.2 := by
  induction members with
  | nil => exact nofun
  | field name codec rest ih =>
      obtain ⟨a, more⟩ := a
      intro member mem
      rcases List.mem_cons.mp mem with rfl | later
      · exact writes.1 a
      · exact ih writes.2 more member later
  | optional name codec droppable rest ih =>
      obtain ⟨a, more⟩ := a
      intro member mem
      rcases List.mem_append.mp mem with own | later
      · cases a with
        | none => cases own
        | some a =>
            obtain rfl := List.mem_singleton.mp own
            exact writes.1 a
      · exact ih writes.2 more member later

end Members

namespace Codec

theorem nextElement_write {codec : Codec α} (writes : codec.Writes) (a : α) (first : Bool)
    (more : List Char) :
    nextElement first ((if first then [] else [',']) ++ codec.write a ++ more) =
      .ok (some (codec.write a ++ more)) := by
  obtain ⟨c, cs, shape, dark, other⟩ := (writes a).starts
  have close (rest : List Char) : c :: rest = ']' :: rest → False := fun same =>
    other (List.cons.inj same).1
  rw [shape]
  cases first with
  | true =>
      rw [if_pos rfl, List.nil_append, List.cons_append, nextElement, skipSpace_cons dark]
      split <;> simp_all
  | false =>
      rw [if_neg Bool.false_ne_true, List.append_assoc, List.singleton_append, List.cons_append,
        nextElement, skipSpace_cons rfl]
      simp [skipSpace_cons dark]
      split <;> simp_all

theorem readElements_write {codec : Codec α} (writes : codec.Writes) {read : α → α} {as : List α}
    (restores : ∀ a ∈ as, codec.Restores a (read a)) {limit : Nat} (enough : as.length < limit)
    (first : Bool) (rest : List Char) :
    readElements codec.read limit first (separated first (as.map codec.write) ++ ']' :: rest) =
      .ok (as.map read, rest) := by
  induction as generalizing limit first with
  | nil =>
      obtain ⟨limit, rfl⟩ := Nat.exists_eq_succ_of_ne_zero (Nat.ne_zero_of_lt enough)
      rfl
  | cons a as ih =>
      obtain ⟨limit, rfl⟩ := Nat.exists_eq_succ_of_ne_zero (Nat.ne_zero_of_lt enough)
      have ends := ends_separated_close .list (as.map codec.write) rest
      have own := (restores a List.mem_cons_self).reads _ ends
      have others := ih (fun other mem => restores other (List.mem_cons_of_mem _ mem))
        (Nat.lt_of_succ_lt_succ enough) false
      rw [List.map_cons, separated, List.append_assoc _ _ (']' :: rest), readElements,
        nextElement_write writes]
      dsimp only [Bracket.close] at own ⊢
      rw [own]
      dsimp only
      rw [others]
      rfl

theorem restores_list {codec : Codec α} (writes : codec.Writes) {read : α → α} {as : List α}
    (restores : ∀ a ∈ as, codec.Restores a (read a)) :
    (list codec).Restores as (as.map read) where
  starts := ⟨'[', _, rfl, rfl, by decide⟩
  reads rest _ := by
    have text : (list codec).write as ++ rest =
        '[' :: (separated true (as.map codec.write) ++ ']' :: rest) := by
      simp [list, commaSeparated_eq]
    have short := length_write_le (as.map codec.write) true (by
      intro text mem
      obtain ⟨a, -, rfl⟩ := List.mem_map.mp mem
      obtain ⟨c, cs, shape, -, -⟩ := (writes a).starts
      rw [shape]
      exact nofun)
    have enough : as.length <
        (separated true (as.map codec.write) ++ ']' :: rest).length + 1 := by
      rw [List.length_map] at short
      rw [List.length_append]
      omega
    rw [text]
    unfold list
    dsimp only
    rw [readList, skipSpace_cons rfl]
    exact readElements_write writes restores enough true rest

end Codec

/-! ## Members that no record asks for -/

namespace Members

theorem readMember_unknown {members : Members σ τ} {name : String} (unknown : name ∉ members.names)
    (slots : σ) (cs : List Char) : members.readMember slots name cs = none := by
  induction members with
  | nil => rfl
  | field own codec rest ih | optional own codec droppable rest ih =>
      obtain ⟨other, unknown⟩ := not_or.mp (mt List.mem_cons.mpr unknown)
      rw [readMember, if_neg other, ih unknown]
      rfl

theorem readNamedMember_unknown {members : Members σ τ} {member : Member}
    (unknown : member.1 ∉ members.names) (written : Written member.2) (slots : σ)
    {more : List Char} (ends : Ends more) :
    members.readNamedMember slots (member.text ++ more) = .ok (slots, more) := by
  unfold readNamedMember Member.text writeMember
  rw [List.append_assoc, readQuoted_quote]
  dsimp only [bind, Except.bind]
  rw [readMember_unknown unknown, List.cons_append, colon_cons]
  dsimp only
  rw [skipValue_written written ends]

theorem passedOver_unknown {members : Members σ τ} {others : List Member}
    (unknown : ∀ other ∈ others, other.1 ∉ members.names)
    (written : ∀ other ∈ others, Written other.2) :
    members.PassedOver (others.map Member.text) := by
  intro slots record done
  induction others with
  | nil => exact passedOver_nil members slots record done
  | cons other others ih =>
      intro limit enough first rest
      obtain ⟨limit, rfl⟩ := Nat.exists_eq_succ_of_ne_zero (Nat.ne_zero_of_lt enough)
      have named := readNamedMember_unknown (unknown other List.mem_cons_self)
        (written other List.mem_cons_self) slots (ends_separated (others.map Member.text) rest)
      have later := ih (fun o mem => unknown o (List.mem_cons_of_mem _ mem))
        (fun o mem => written o (List.mem_cons_of_mem _ mem)) limit (Nat.lt_of_succ_lt_succ enough)
        false rest
      exact (readObject_next limit first named).trans later

theorem decode_among {members : Members σ τ} (distinct : members.names.Nodup) {into : τ → α}
    {from' : α → τ} {v : α} (restores : members.Restores (from' v) (from' v)) {others : List Member}
    (unknown : ∀ other ∈ others, other.1 ∉ members.names)
    (written : ∀ other ∈ others, Written other.2) :
    ((record members).map into from').decode
      (object ((members.present (from' v) ++ others).map Member.text)) = .ok (into (from' v)) := by
  have nonempty : ∀ text ∈ others.map Member.text, text ≠ [] := by
    intro text mem
    obtain ⟨other, -, rfl⟩ := List.mem_map.mp mem
    exact nofun
  have read := read_record distinct restores (passedOver_unknown unknown written) nonempty []
  rw [write_eq, ← List.map_append, List.append_nil] at read
  unfold Codec.decode Codec.map
  dsimp only
  rw [read]
  rfl

end Members

end CandleFeed.Json
