import CandleFeed.Proofs.Json.Written

namespace CandleFeed.Json
open Members

def readMemberText : Reader Member := fun cs => do
  let (name, rest) ← readQuoted cs
  let value := skipSpace (← colon rest)
  let behind ← skipValue value
  .ok ((name, value.take (value.length - behind.length)), behind)

def readMembers : (limit : Nat) → (first : Bool) → Reader (List Member)
  | 0, _, _ => .error .malformed
  | limit + 1, first, cs =>
      match skipSpace cs with
      | '}' :: rest => .ok ([], rest)
      | c :: rest =>
          if !first ∧ c ≠ ',' then .error .malformed
          else
            match readMemberText (if first then c :: rest else skipSpace rest) with
            | .error fault => .error fault
            | .ok (member, rest) =>
                (readMembers limit false rest).map fun (more, rest) => (member :: more, rest)
      | [] => .error .malformed

def members? (text : String) : Except Fault (List Member) :=
  match skipSpace text.toList with
  | '{' :: rest => do
      let (members, rest) ← readMembers (rest.length + 1) true rest
      if skipSpace rest = [] then .ok members else .error .malformed
  | _ => .error .malformed

def names? (text : String) : Except Fault (List String) :=
  (members? text).map (·.map Prod.fst)

def replaceMember (name : String) (value : List Char) (text : String) : Except Fault String :=
  (members? text).map fun members =>
    let replace (member : Member) : Member := if member.1 = name then (name, value) else member
    String.ofList (object ((members.map replace).map Member.text))

theorem readMemberText_written {member : Member} (written : Written member.2) {more : List Char}
    (ends : Ends more) : readMemberText (member.text ++ more) = .ok (member, more) := by
  obtain ⟨name, value⟩ := member
  obtain ⟨c, cs, shape, dark, -⟩ := written.starts
  have visible : skipSpace (value ++ more) = value ++ more := by
    dsimp only at shape
    rw [shape, List.cons_append, skipSpace_cons dark]
  have cut : (value ++ more).take ((value ++ more).length - more.length) = value := by
    rw [List.length_append, Nat.add_sub_cancel, List.take_left]
  unfold readMemberText Member.text writeMember
  rw [List.append_assoc, readQuoted_quote, List.cons_append]
  simp only [bind, Except.bind, colon_cons, visible, skipValue_written written ends, cut]

theorem readMembers_cons {c : Char} (dark : isSpace c = false) (open' : c ≠ '}') (limit : Nat)
    (first : Bool) (rest : List Char) :
    readMembers (limit + 1) first (c :: rest) =
      if !first ∧ c ≠ ',' then .error .malformed
      else
        match readMemberText (if first then c :: rest else skipSpace rest) with
        | .error fault => .error fault
        | .ok (member, rest) =>
            (readMembers limit false rest).map fun (more, rest) => (member :: more, rest) := by
  rw [readMembers, skipSpace_cons dark]
  split
  · rename_i shape
    exact absurd (List.cons.inj shape).1 open'
  · rename_i shape
    cases shape
    rfl
  · rename_i shape
    cases shape

theorem readMembers_next {member : Member} (written : Written member.2) {more : List Char}
    (ends : Ends more) (limit : Nat) (first : Bool) :
    readMembers (limit + 1) first ((if first then [] else [',']) ++ member.text ++ more) =
      (readMembers limit false more).map fun (members, rest) => (member :: members, rest) := by
  have read := readMemberText_written written ends
  have start : ∃ tail, member.text ++ more = '"' :: tail := ⟨_, rfl⟩
  obtain ⟨tail, start⟩ := start
  rw [start] at read
  rw [List.append_assoc, start]
  cases first with
  | true =>
      rw [if_pos rfl, List.nil_append, readMembers_cons rfl (by decide), if_neg (by decide),
        if_pos rfl, read]
  | false =>
      rw [if_neg (by decide), List.singleton_append, readMembers_cons rfl (by decide),
        if_neg (by decide), if_neg (by decide), skipSpace_cons rfl, read]

theorem readMembers_written {members : List Member} (written : ∀ member ∈ members, Written member.2)
    {limit : Nat} (enough : members.length < limit) (first : Bool) (rest : List Char) :
    readMembers limit first (separated first (members.map Member.text) ++ '}' :: rest) =
      .ok (members, rest) := by
  induction members generalizing limit first with
  | nil =>
      obtain ⟨limit, rfl⟩ := Nat.exists_eq_succ_of_ne_zero (Nat.ne_zero_of_lt enough)
      rfl
  | cons member members ih =>
      obtain ⟨limit, rfl⟩ := Nat.exists_eq_succ_of_ne_zero (Nat.ne_zero_of_lt enough)
      have own := written member List.mem_cons_self
      have others := ih (fun other mem => written other (List.mem_cons_of_mem _ mem))
        (Nat.lt_of_succ_lt_succ enough) false
      have next := readMembers_next own
        (ends_separated (members.map Member.text) rest) limit first
      rw [List.map_cons, separated, List.append_assoc _ _ ('}' :: rest)]
      rw [next, others]
      rfl

theorem length_members_le (members : List Member) (first : Bool) :
    members.length ≤ (separated first (members.map Member.text)).length := by
  have short := length_write_le (members.map Member.text) first (by
    intro text mem
    obtain ⟨member, -, rfl⟩ := List.mem_map.mp mem
    exact nofun)
  rwa [List.length_map] at short

theorem members?_object {members : List Member} (written : ∀ member ∈ members, Written member.2) :
    members? (String.ofList (object (members.map Member.text))) = .ok members := by
  have text : object (members.map Member.text) =
      '{' :: (separated true (members.map Member.text) ++ ['}']) := by
    rw [object, commaSeparated_eq, List.cons_append]
  have enough : members.length < (separated true (members.map Member.text) ++ ['}']).length + 1 := by
    have short := length_members_le members true
    rw [List.length_append]
    omega
  have read := readMembers_written written enough true []
  unfold members?
  rw [String.toList_ofList, text, skipSpace_cons rfl]
  simp only [bind, Except.bind, read]
  rfl

theorem names?_object {members : List Member} (written : ∀ member ∈ members, Written member.2) :
    names? (String.ofList (object (members.map Member.text))) = .ok (members.map Prod.fst) := by
  rw [names?, members?_object written]
  rfl

theorem members?_record {members : Members σ τ} (writes : members.Writes) (a : τ) :
    members? ((Codec.record members).encode a) = .ok (members.present a) := by
  show members? (String.ofList (object (members.write a))) = _
  rw [Members.write_eq]
  exact members?_object (writes.present a)

end CandleFeed.Json
