import CandleFeed.Json.Record
import CandleFeed.Proofs.Json.Restores

namespace CandleFeed.Json
open Codec

namespace Members

def names : Members σ τ → List String
  | .nil => []
  | .field name _ rest | .optional name _ _ rest => name :: rest.names

def Restores : Members σ τ → τ → τ → Prop
  | .nil, (), () => True
  | .field _ codec rest, (a, more), (b, more') => codec.Restores a b ∧ rest.Restores more more'
  | .optional _ codec _ rest, (a, more), (b, more') =>
      Option.Rel codec.Restores a b ∧ rest.Restores more more'

def separated (first : Bool) : List (List Char) → List Char
  | [] => []
  | member :: rest => (if first then [] else [',']) ++ member ++ separated false rest

theorem commaSeparated_cons (item : List Char) (rest : List (List Char)) :
    commaSeparated (item :: rest) = item ++ separated false rest := by
  induction rest generalizing item with
  | nil => simp [commaSeparated, separated]
  | cons next rest ih =>
      rw [commaSeparated, ih]
      · simp [separated]
      · simp

theorem commaSeparated_eq (items : List (List Char)) :
    commaSeparated items = separated true items := by
  cases items with
  | nil => rfl
  | cons item rest => exact commaSeparated_cons item rest

theorem ends_separated (items : List (List Char)) (rest : List Char) :
    Ends (separated false items ++ '}' :: rest) := by
  cases items with
  | nil => exact ends_cons (by simp) rest
  | cons item items => exact ends_cons (by simp) _

/-- The reader of the whole record finds a member of a part of it where the part has it. -/
def Finds (whole : Members σ τ) (part : Members σ' τ') (lift : σ' → σ) : Prop :=
  ∀ name ∈ part.names, ∀ slots cs, whole.readMember (lift slots) name cs =
    (part.readMember slots name cs).map fun outcome =>
      outcome.map fun (slots, cs) => (lift slots, cs)

theorem Finds.field {whole : Members σ τ} {name : String} {codec : Codec α}
    {part : Members σ' τ'} {lift : Option α × σ' → σ}
    (finds : Finds whole (.field name codec part) lift) (new : name ∉ part.names)
    (slot : Option α) : Finds whole part fun slots => lift (slot, slots) := by
  intro other mem slots cs
  have apart : other ≠ name := by
    rintro rfl
    exact new mem
  rw [finds other (List.mem_cons_of_mem _ mem), readMember, if_neg apart, Option.map_map]
  congr 1
  funext outcome
  cases outcome <;> rfl

theorem Finds.optional {whole : Members σ τ} {name : String} {codec : Codec α} {droppable : Bool}
    {part : Members σ' τ'} {lift : Option (Option α) × σ' → σ}
    (finds : Finds whole (.optional name codec droppable part) lift) (new : name ∉ part.names)
    (slot : Option (Option α)) : Finds whole part fun slots => lift (slot, slots) := by
  intro other mem slots cs
  have apart : other ≠ name := by
    rintro rfl
    exact new mem
  rw [finds other (List.mem_cons_of_mem _ mem), readMember, if_neg apart, Option.map_map]
  congr 1
  funext outcome
  cases outcome <;> rfl

theorem fill_none {read : Reader α} {a : α} {value more : List Char}
    (reads : read (value ++ more) = .ok (a, more)) :
    fill read none (':' :: value ++ more) = .ok (some a, more) := by
  rw [fill, List.cons_append, colon_cons]
  dsimp only [bind, Except.bind]
  rw [reads]
  rfl

theorem Finds.fill_field {whole : Members σ τ} {name : String} {codec : Codec α}
    {part : Members σ' τ'} {lift : Option α × σ' → σ}
    (finds : Finds whole (.field name codec part) lift) {a : α} {value more : List Char}
    (reads : codec.read (value ++ more) = .ok (a, more)) (slots : σ') :
    whole.readMember (lift (none, slots)) name (':' :: value ++ more) =
      some (.ok (lift (some a, slots), more)) := by
  rw [finds name List.mem_cons_self, readMember, if_pos rfl, fill_none reads]
  rfl

theorem Finds.fill_optional {whole : Members σ τ} {name : String} {codec : Codec α}
    {droppable : Bool} {part : Members σ' τ'} {lift : Option (Option α) × σ' → σ}
    (finds : Finds whole (.optional name codec droppable part) lift) {a : Option α}
    {value more : List Char} (reads : readNullable codec.read (value ++ more) = .ok (a, more))
    (slots : σ') :
    whole.readMember (lift (none, slots)) name (':' :: value ++ more) =
      some (.ok (lift (some a, slots), more)) := by
  rw [finds name List.mem_cons_self, readMember, if_pos rfl, fill_none reads]
  rfl

theorem readObject_cons {whole : Members σ τ} {slots : σ} {c : Char} (dark : isSpace c = false)
    (open' : c ≠ '}') (limit : Nat) (first : Bool) (rest : List Char) :
    whole.readObject (limit + 1) first slots (c :: rest) =
      if !first ∧ c ≠ ',' then .error .malformed
      else
        match whole.readNamedMember slots (if first then c :: rest else skipSpace rest) with
        | .error fault => .error fault
        | .ok (slots, rest) => whole.readObject limit false slots rest := by
  rw [readObject, skipSpace_cons dark]
  split
  · rename_i shape
    exact absurd (List.cons.inj shape).1 open'
  · rename_i shape
    cases shape
    rfl
  · rename_i shape
    cases shape

theorem readNamedMember_known {whole : Members σ τ} {slots slots' : σ} {name : String}
    {value more : List Char}
    (filled : whole.readMember slots name (':' :: value ++ more) = some (.ok (slots', more))) :
    whole.readNamedMember slots (writeMember name value ++ more) = .ok (slots', more) := by
  unfold readNamedMember writeMember
  rw [List.append_assoc, readQuoted_quote]
  dsimp only [bind, Except.bind]
  rw [filled]

theorem readObject_next {whole : Members σ τ} {slots slots' : σ} {name : String}
    {value rest : List Char} {items : List (List Char)} (limit : Nat) (first : Bool)
    (named : whole.readNamedMember slots
        (writeMember name value ++ (separated false items ++ '}' :: rest)) =
      .ok (slots', separated false items ++ '}' :: rest)) :
    whole.readObject (limit + 1) first slots
        (separated first (writeMember name value :: items) ++ '}' :: rest) =
      whole.readObject limit false slots' (separated false items ++ '}' :: rest) := by
  rw [separated, List.append_assoc _ _ ('}' :: rest)]
  generalize separated false items ++ '}' :: rest = more at named
  have shape : ∃ tail, writeMember name value ++ more = '"' :: tail := ⟨_, rfl⟩
  obtain ⟨tail, shape⟩ := shape
  rw [shape] at named
  cases first with
  | true =>
      rw [if_pos rfl, List.nil_append, shape, readObject_cons rfl (by decide), if_pos rfl, named]
      exact if_neg (by decide)
  | false =>
      rw [if_neg (by decide), List.append_assoc, shape, List.singleton_append,
        readObject_cons rfl (by decide), if_neg (by decide), if_neg (by decide), skipSpace_cons rfl,
        named]

theorem readObject_end {whole : Members σ τ} {slots : σ} {record : τ} (limit : Nat) (first : Bool)
    (done : whole.finish slots = some record) (rest : List Char) :
    whole.readObject (limit + 1) first slots ('}' :: rest) = .ok (record, rest) := by
  unfold readObject
  rw [skipSpace_cons rfl]
  simp only [done]

def PassedOver (whole : Members σ τ) (others : List (List Char)) : Prop :=
  ∀ slots record, whole.finish slots = some record → ∀ limit, others.length < limit →
    ∀ first rest, whole.readObject limit first slots (separated first others ++ '}' :: rest) =
      .ok (record, rest)

theorem passedOver_nil (whole : Members σ τ) : PassedOver whole [] := by
  intro slots record done limit enough first rest
  obtain ⟨limit, rfl⟩ := Nat.exists_eq_succ_of_ne_zero (Nat.ne_zero_of_lt enough)
  exact readObject_end limit first done rest

theorem readObject_write {whole : Members σ τ} {part : Members σ' τ'} {a b : τ'}
    {lift : σ' → σ} {record : τ' → τ} {others : List (List Char)} (passed : PassedOver whole others)
    {limit : Nat} (finds : Finds whole part lift)
    (done : ∀ slots, whole.finish (lift slots) = (part.finish slots).map record)
    (distinct : part.names.Nodup) (restores : part.Restores a b)
    (enough : (part.write a ++ others).length < limit) (first : Bool) (rest : List Char) :
    whole.readObject limit first (lift part.empty)
      (separated first (part.write a ++ others) ++ '}' :: rest) = .ok (record b, rest) := by
  -- `lift` puts the slots of the members to come beside those that were filled already
  induction part generalizing limit first with
  | nil => exact passed _ _ (by rw [done]; rfl) limit enough first rest
  | field name codec part ih =>
      obtain ⟨a, more⟩ := a
      obtain ⟨b, more'⟩ := b
      obtain ⟨value, restores⟩ := restores
      obtain ⟨new, distinct⟩ := List.nodup_cons.mp distinct
      obtain ⟨limit, rfl⟩ := Nat.exists_eq_succ_of_ne_zero (Nat.ne_zero_of_lt enough)
      have reads := value.reads _ (ends_separated (part.write more ++ others) rest)
      have finished (slots : _) : whole.finish (lift (some b, slots)) =
          (part.finish slots).map fun more => record (b, more) := by
        rw [done]
        cases filled : part.finish slots <;> simp [finish, filled]
      have next := readObject_next limit first
        (readNamedMember_known (finds.fill_field reads part.empty))
      exact next.trans (ih (finds.field new (some b)) finished distinct restores
        (Nat.lt_of_succ_lt_succ enough) false)
  | optional name codec droppable part ih =>
      obtain ⟨a, more⟩ := a
      obtain ⟨b, more'⟩ := b
      obtain ⟨value, restores⟩ := restores
      obtain ⟨new, distinct⟩ := List.nodup_cons.mp distinct
      have finished (slot : Option (Option _)) (absent : slot.join = b) (slots : _) :
          whole.finish (lift (slot, slots)) =
            (part.finish slots).map fun more => record (b, more) := by
        rw [done]
        cases filled : part.finish slots <;> simp [finish, filled, absent]
      cases value with
      | none =>
          exact ih (finds.optional new none) (finished none rfl) distinct restores enough first
      | @some a b value =>
          obtain ⟨limit, rfl⟩ := Nat.exists_eq_succ_of_ne_zero (Nat.ne_zero_of_lt enough)
          have reads := value.nullable (ends_separated (part.write more ++ others) rest)
          have next := readObject_next limit first
            (readNamedMember_known (finds.fill_optional reads part.empty))
          exact next.trans (ih (finds.optional new (some (some b))) (finished (some (some b)) rfl)
            distinct restores (Nat.lt_of_succ_lt_succ enough) false)

theorem length_write_le (members : List (List Char)) (first : Bool) (some : ∀ m ∈ members, m ≠ []) :
    members.length ≤ (separated first members).length := by
  induction members generalizing first with
  | nil => exact Nat.zero_le _
  | cons member rest ih =>
      have more := ih false fun m mem => some m (List.mem_cons_of_mem _ mem)
      have own := List.length_pos_iff.mpr (some member List.mem_cons_self)
      simp only [separated, List.length_append, List.length_cons]
      omega

theorem ne_nil_of_mem_write {members : Members σ τ} {a : τ} {m : List Char}
    (mem : m ∈ members.write a) : m ≠ [] := by
  induction members with
  | nil => cases mem
  | field name codec rest ih =>
      rcases List.mem_cons.mp mem with rfl | later
      · exact nofun
      · exact ih later
  | optional name codec droppable rest ih =>
      obtain ⟨a, more⟩ := a
      cases a with
      | none => exact ih mem
      | some a =>
          rcases List.mem_cons.mp mem with rfl | later
          · exact nofun
          · exact ih later

end Members

namespace Codec

theorem read_record {members : Members σ τ} (distinct : members.names.Nodup) {a b : τ}
    (restores : members.Restores a b) {others : List (List Char)}
    (passed : members.PassedOver others) (some : ∀ other ∈ others, other ≠ []) (rest : List Char) :
    (record members).read (object (members.write a ++ others) ++ rest) = .ok (b, rest) := by
  have text : object (members.write a ++ others) ++ rest =
      '{' :: (Members.separated true (members.write a ++ others) ++ '}' :: rest) := by
    simp [object, Members.commaSeparated_eq]
  have finds : Members.Finds members members id := by
    intro name _ slots cs
    rw [id]
    cases members.readMember slots name cs with
    | none => rfl
    | some outcome => cases outcome <;> rfl
  have short := Members.length_write_le (members.write a ++ others) true fun m mem =>
    (List.mem_append.mp mem).elim Members.ne_nil_of_mem_write (some m)
  have enough : (members.write a ++ others).length <
      (Members.separated true (members.write a ++ others) ++ '}' :: rest).length + 1 := by
    have longer (text : List Char) : text.length ≤ (text ++ '}' :: rest).length := by simp
    exact Nat.lt_succ_of_le (Nat.le_trans short (longer _))
  have done (slots : σ) : members.finish (id slots) = (members.finish slots).map id := by simp
  have read := Members.readObject_write passed finds done distinct restores enough true rest
  rw [text]
  unfold record
  dsimp only
  rw [skipSpace_cons rfl]
  exact read

theorem restores_record {members : Members σ τ} (distinct : members.names.Nodup) {a b : τ}
    (restores : members.Restores a b) : (record members).Restores a b where
  starts := ⟨'{', _, rfl, rfl, by decide⟩
  reads rest _ := by
    have read := read_record distinct restores (Members.passedOver_nil members) nofun rest
    rwa [List.append_nil] at read

end Codec

end CandleFeed.Json
