import CandleFeed.Proofs.Json.View
import CandleFeed.Proofs.Store.Keys

namespace CandleFeed.Json
open Codec Members

theorem quote_injective : Function.Injective quote := by
  intro s t same
  have read := readQuoted_quote s []
  rw [same, readQuoted_quote] at read
  exact (Prod.mk.inj (Except.ok.inj read)).1.symm

theorem object_injective {members others : List Member}
    (written : ∀ member ∈ members, Written member.2) (written' : ∀ member ∈ others, Written member.2)
    (same : object (members.map Member.text) = object (others.map Member.text)) :
    members = others := by
  have shown := members?_object written
  rw [same, members?_object written'] at shown
  exact (Except.ok.inj shown).symm

theorem Written.append_inj {value other more more' : List Char} (written : Written value)
    (written' : Written other) (ends : Ends more) (ends' : Ends more')
    (same : value ++ more = other ++ more') : value = other ∧ more = more' := by
  have behind := skipValue_written written ends
  rw [same, skipValue_written written' ends'] at behind
  obtain rfl : more' = more := Except.ok.inj behind
  exact ⟨List.append_cancel_right same, rfl⟩

theorem Written.ne_close {value : List Char} (written : Written value) (first : Bool)
    (more : List Char) : (if first then [] else [',']) ++ value ++ more ≠ [']'] := by
  obtain ⟨c, cs, rfl, -, other⟩ := written.starts
  cases first with
  | true => exact fun same => other (List.cons.inj same).1
  | false => exact fun same => absurd (List.cons.inj same).1 (by decide)

theorem separated_injective {values others : List (List Char)}
    (written : ∀ value ∈ values, Written value) (written' : ∀ value ∈ others, Written value)
    {first : Bool}
    (same : separated first values ++ [']'] = separated first others ++ [']']) : values = others := by
  have ends (items : List (List Char)) : Ends (separated false items ++ [']']) :=
    ends_separated_close .list items []
  induction values generalizing others first with
  | nil =>
      cases others with
      | nil => rfl
      | cons other others =>
          rw [separated, separated, List.append_assoc _ _ [']']] at same
          exact absurd same.symm ((written' other List.mem_cons_self).ne_close _ _)
  | cons value values ih =>
      cases others with
      | nil =>
          rw [separated, separated, List.append_assoc _ _ [']']] at same
          exact absurd same ((written value List.mem_cons_self).ne_close _ _)
      | cons other others =>
          simp only [separated, List.append_assoc] at same
          obtain ⟨rfl, rest⟩ := (written value List.mem_cons_self).append_inj
            (written' other List.mem_cons_self) (ends values) (ends others)
            (List.append_cancel_left same)
          rw [ih (fun v mem => written v (List.mem_cons_of_mem _ mem))
            (fun v mem => written' v (List.mem_cons_of_mem _ mem)) rest]

namespace Codec

structure Tells (codec : Codec α) : Prop where
  writes : codec.Writes
  injective : Function.Injective codec.write

theorem tells_text : text.Tells :=
  ⟨writes_text, quote_injective⟩

theorem tells_flag : flag.Tells where
  writes := writes_flag
  injective a b := by cases a <;> cases b <;> decide

theorem tells_within (low high : Int) : (within low high).Tells :=
  ⟨writes_within low high, fun _ _ same => CandleKey.signedDigits_injective same⟩

theorem tells_named {find : String → Option α} {name : α → String}
    (distinct : Function.Injective name) : (named find name).Tells :=
  ⟨writes_named find name, quote_injective.comp distinct⟩

theorem tells_spelled {parse : List Char → Option α} {render : α → List Char}
    (distinct : Function.Injective render) : (spelled parse render).Tells :=
  ⟨writes_spelled parse render,
    fun _ _ same => distinct (String.ofList_injective (quote_injective same))⟩

theorem Tells.map {codec : Codec α} (tells : codec.Tells) (into : α → β) {from' : β → α}
    (distinct : Function.Injective from') : (codec.map into from').Tells :=
  ⟨tells.writes.map into from', tells.injective.comp distinct⟩

theorem tells_nat64 : nat64.Tells :=
  (tells_within _ _).map _ fun _ _ => Int.ofNat.inj

theorem Tells.list {codec : Codec α} (tells : codec.Tells) : codec.list.Tells where
  writes := tells.writes.list
  injective := by
    intro as bs same
    have written (values : List α) : ∀ value ∈ values.map codec.write, Written value := by
      intro value mem
      obtain ⟨a, -, rfl⟩ := List.mem_map.mp mem
      exact tells.writes a
    have inside : commaSeparated (as.map codec.write) ++ [']'] =
        commaSeparated (bs.map codec.write) ++ [']'] := (List.cons.inj same).2
    rw [commaSeparated_eq, commaSeparated_eq] at inside
    exact (List.map_inj_right fun _ _ own => tells.injective own).mp
      (separated_injective (written as) (written bs) inside)

end Codec

namespace Members

def Tells : Members σ τ → Prop
  | .nil => True
  | .field _ codec rest | .optional _ codec _ rest => codec.Tells ∧ rest.Tells

theorem Tells.writes {members : Members σ τ} (tells : members.Tells) : members.Writes := by
  induction members with
  | nil => trivial
  | field name codec rest ih | optional name codec droppable rest ih =>
      exact ⟨tells.1.writes, ih tells.2⟩

theorem name_of_mem_present {members : Members σ τ} {a : τ} {member : Member}
    (mem : member ∈ members.present a) : member.1 ∈ members.names := by
  induction members with
  | nil => cases mem
  | field name codec rest ih =>
      rcases List.mem_cons.mp mem with rfl | later
      · exact List.mem_cons_self
      · exact List.mem_cons_of_mem _ (ih later)
  | optional name codec droppable rest ih =>
      obtain ⟨a, more⟩ := a
      rcases List.mem_append.mp mem with own | later
      · obtain ⟨value, -, rfl⟩ := Option.map_eq_some_iff.mp (Option.mem_toList.mp own)
        exact List.mem_cons_self
      · exact List.mem_cons_of_mem _ (ih later)

theorem Tells.present_injective {members : Members σ τ} (tells : members.Tells)
    (distinct : members.names.Nodup) : Function.Injective members.present := by
  induction members with
  | nil => exact fun _ _ _ => rfl
  | field name codec rest ih =>
      rintro ⟨a, more⟩ ⟨b, more'⟩ same
      obtain ⟨own, later⟩ := List.cons.inj same
      obtain rfl := tells.1.injective (Prod.mk.inj own).2
      rw [ih tells.2 (List.nodup_cons.mp distinct).2 later]
  | optional name codec droppable rest ih =>
      obtain ⟨new, distinct⟩ := List.nodup_cons.mp distinct
      -- A member that has a value is not one of those behind it.
      have apart (value : List Char) (more : List Member) (a : _) :
          rest.present a ≠ (name, value) :: more :=
        fun same => new (name_of_mem_present (same ▸ List.mem_cons_self))
      rintro ⟨a, more⟩ ⟨b, more'⟩ same
      cases a with
      | none =>
          cases b with
          | none => rw [ih tells.2 distinct same]
          | some b => exact absurd same (apart _ _ _)
      | some a =>
          cases b with
          | none => exact absurd same.symm (apart _ _ _)
          | some b =>
              obtain ⟨own, later⟩ := List.cons.inj same
              obtain rfl := tells.1.injective (Prod.mk.inj own).2
              rw [ih tells.2 distinct later]

end Members

theorem Codec.tells_record {members : Members σ τ} (tells : members.Tells)
    (distinct : members.names.Nodup) : (record members).Tells where
  writes a := by
    change Written (object (members.write a))
    rw [members.write_eq]
    exact .object _ (tells.writes.present a)
  injective := by
    intro a b same
    change object (members.write a) = object (members.write b) at same
    rw [members.write_eq, members.write_eq] at same
    exact tells.present_injective distinct
      (object_injective (tells.writes.present a) (tells.writes.present b) same)

end CandleFeed.Json
