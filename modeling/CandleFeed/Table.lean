

namespace CandleFeed

/-- The entries with `key` mapped to `value`: in place if the key is there, else at the end. -/
def putEntry [DecidableEq κ] (key : κ) (value : α) : List (κ × α) → List (κ × α)
  | [] => [(key, value)]
  | entry :: rest =>
      if entry.1 = key then (key, value) :: rest else entry :: putEntry key value rest

theorem keys_putEntry [DecidableEq κ] (key : κ) (value : α) (entries : List (κ × α)) :
    (putEntry key value entries).map Prod.fst =
      if key ∈ entries.map Prod.fst then entries.map Prod.fst
      else entries.map Prod.fst ++ [key] := by
  induction entries with
  | nil => simp [putEntry]
  | cons entry rest ih =>
      by_cases same : entry.1 = key
      · simp [putEntry, same]
      · have other : key ≠ entry.1 := fun h => same h.symm
        simp only [putEntry, same, if_false, List.map_cons, ih, List.mem_cons, other, false_or]
        split <;> simp

theorem putEntry_putEntry [DecidableEq κ] (key : κ) (first second : α) (entries : List (κ × α)) :
    putEntry key second (putEntry key first entries) = putEntry key second entries := by
  induction entries with
  | nil => simp [putEntry]
  | cons entry rest ih => by_cases same : entry.1 = key <;> simp [putEntry, same, ih]

theorem putEntry_of_lookup [DecidableEq κ] {key : κ} {value : α} {entries : List (κ × α)}
    (found : entries.lookup key = some value) : putEntry key value entries = entries := by
  induction entries with
  | nil => cases found
  | cons entry rest ih =>
      obtain ⟨own, mine⟩ := entry
      by_cases same : own = key
      · subst same
        simp_all [putEntry]
      · rw [List.lookup_cons, beq_eq_false_iff_ne.mpr (Ne.symm same)] at found
        simp [putEntry, same, ih found]

structure Table (κ α : Type) where
  entries : List (κ × α)
  distinct : (entries.map Prod.fst).Nodup

namespace Table

variable {κ α : Type}

def empty : Table κ α := ⟨[], List.nodup_nil⟩

instance : Inhabited (Table κ α) := ⟨empty⟩

def keys (t : Table κ α) : List κ :=
  t.entries.map Prod.fst

def values (t : Table κ α) : List α :=
  t.entries.map Prod.snd

def size (t : Table κ α) : Nat :=
  t.entries.length

def filter (t : Table κ α) (test : κ → α → Bool) : Table κ α where
  entries := t.entries.filter fun entry => test entry.1 entry.2
  distinct := t.distinct.sublist (List.filter_sublist.map Prod.fst)

variable [DecidableEq κ]

def get? (t : Table κ α) (key : κ) : Option α :=
  t.entries.lookup key

def contains (t : Table κ α) (key : κ) : Bool :=
  (t.get? key).isSome

def insert (t : Table κ α) (key : κ) (value : α) : Table κ α where
  entries := putEntry key value t.entries
  distinct := by
    rw [keys_putEntry]
    split
    · exact t.distinct
    · rename_i new
      rw [List.nodup_append]
      refine ⟨t.distinct, by simp, ?_⟩
      intro k mem l single
      rintro rfl
      exact new (List.mem_singleton.mp single ▸ mem)

def erase (t : Table κ α) (key : κ) : Table κ α :=
  t.filter fun own _ => own ≠ key

def modify (t : Table κ α) (key : κ) (change : α → α) : Table κ α :=
  match t.get? key with
  | some value => t.insert key (change value)
  | none => t

theorem lookup_cons_ite (key own : κ) (mine : α) (rest : List (κ × α)) :
    ((own, mine) :: rest).lookup key = if key = own then some mine else rest.lookup key := by
  by_cases same : key = own
  · simp [same]
  · rw [List.lookup_cons, beq_eq_false_iff_ne.mpr same, if_neg same]

theorem lookup_putEntry (key other : κ) (value : α) (entries : List (κ × α)) :
    (putEntry key value entries).lookup other =
      if other = key then some value else entries.lookup other := by
  induction entries with
  | nil => simp [putEntry, lookup_cons_ite]
  | cons entry rest ih =>
      obtain ⟨own, mine⟩ := entry
      by_cases here : own = key
      · subst here
        by_cases same : other = own <;> simp [putEntry, lookup_cons_ite, same]
      · by_cases same : other = own
        · subst same
          simp [putEntry, here]
        · simp [putEntry, here, lookup_cons_ite, same, ih]

@[simp]
theorem get?_empty (key : κ) : (empty : Table κ α).get? key = none := rfl

theorem get?_insert (t : Table κ α) (key other : κ) (value : α) :
    (t.insert key value).get? other = if other = key then some value else t.get? other :=
  lookup_putEntry key other value t.entries

@[simp]
theorem get?_insert_self (t : Table κ α) (key : κ) (value : α) :
    (t.insert key value).get? key = some value := by
  simp [get?_insert]

theorem mem_of_lookup {key : κ} {value : α} {entries : List (κ × α)}
    (found : entries.lookup key = some value) : (key, value) ∈ entries := by
  induction entries with
  | nil => simp at found
  | cons entry rest ih =>
      obtain ⟨own, mine⟩ := entry
      by_cases same : key = own
      · subst same
        simp only [lookup_cons_ite, if_true, Option.some.injEq] at found
        simp [found]
      · rw [lookup_cons_ite, if_neg same] at found
        exact List.mem_cons_of_mem _ (ih found)

theorem lookup_of_mem {key : κ} {value : α} {entries : List (κ × α)}
    (distinct : (entries.map Prod.fst).Nodup) (mem : (key, value) ∈ entries) :
    entries.lookup key = some value := by
  induction entries with
  | nil => simp at mem
  | cons entry rest ih =>
      obtain ⟨own, mine⟩ := entry
      simp only [List.map_cons, List.nodup_cons] at distinct
      rcases List.mem_cons.mp mem with here | there
      · cases here
        simp
      · have other : key ≠ own := by
          rintro rfl
          exact distinct.1 (List.mem_map.mpr ⟨_, there, rfl⟩)
        simp [lookup_cons_ite, other, ih distinct.2 there]

theorem mem_iff_get? (t : Table κ α) (key : κ) (value : α) :
    (key, value) ∈ t.entries ↔ t.get? key = some value :=
  ⟨lookup_of_mem t.distinct, mem_of_lookup⟩

theorem mem_keys_iff (t : Table κ α) (key : κ) : key ∈ t.keys ↔ (t.get? key).isSome = true := by
  simp only [keys, List.mem_map, Option.isSome_iff_exists, ← mem_iff_get?]
  constructor
  · rintro ⟨entry, mem, rfl⟩
    exact ⟨entry.2, mem⟩
  · rintro ⟨value, mem⟩
    exact ⟨_, mem, rfl⟩

theorem mem_values_iff (t : Table κ α) (value : α) :
    value ∈ t.values ↔ ∃ key, t.get? key = some value := by
  simp only [values, List.mem_map, ← mem_iff_get?]
  constructor
  · rintro ⟨entry, mem, rfl⟩
    exact ⟨entry.1, mem⟩
  · rintro ⟨key, mem⟩
    exact ⟨_, mem, rfl⟩

theorem size_insert (t : Table κ α) (key : κ) (value : α) :
    (t.insert key value).size = if (t.get? key).isSome then t.size else t.size + 1 := by
  have keys : (t.insert key value).keys = if key ∈ t.keys then t.keys else t.keys ++ [key] :=
    keys_putEntry key value t.entries
  have sizes (t : Table κ α) : t.size = t.keys.length := (List.length_map _).symm
  rw [sizes, sizes, keys]
  simp only [mem_keys_iff]
  split <;> simp

theorem insert_insert (t : Table κ α) (key : κ) (first second : α) :
    (t.insert key first).insert key second = t.insert key second := by
  simp only [insert, putEntry_putEntry]

theorem insert_of_get? {t : Table κ α} {key : κ} {value : α} (found : t.get? key = some value) :
    t.insert key value = t := by
  simp only [insert, putEntry_of_lookup found]

theorem get?_size_of_numbered {t : Table Nat α}
    (numbered : ∀ n value, t.get? n = some value → n < t.size) : t.get? t.size = none := by
  cases found : t.get? t.size with
  | none => rfl
  | some value => exact absurd (numbered _ value found) (Nat.lt_irrefl _)

theorem numbered_insert_size {t : Table Nat α}
    (numbered : ∀ n value, t.get? n = some value → n < t.size) (value : α) {n : Nat} {other : α}
    (found : (t.insert t.size value).get? n = some other) : n < (t.insert t.size value).size := by
  rw [size_insert, get?_size_of_numbered numbered, if_neg (by simp)]
  rw [get?_insert] at found
  split at found
  · rename_i last
    rw [last]
    exact Nat.lt_succ_self _
  · exact Nat.lt_succ_of_lt (numbered n other found)

omit [DecidableEq κ] in
theorem eq_empty_of_size {t : Table κ α} (none : t.size = 0) : t = empty := by
  obtain ⟨entries, distinct⟩ := t
  obtain rfl := List.length_eq_zero_iff.mp none
  rfl

theorem get?_filter (t : Table κ α) (test : κ → α → Bool) (key : κ) :
    (t.filter test).get? key = (t.get? key).filter (test key) := by
  apply Option.ext
  intro value
  rw [Option.filter_eq_some_iff, ← mem_iff_get?, ← mem_iff_get?]
  simp [filter]

theorem get?_erase (t : Table κ α) (key other : κ) :
    (t.erase key).get? other = if other = key then none else t.get? other := by
  rw [erase, get?_filter]
  by_cases same : other = key
  · simp [same]
  · cases found : t.get? other <;> simp [same]

theorem get?_modify (t : Table κ α) (key other : κ) (change : α → α) :
    (t.modify key change).get? other =
      if other = key then (t.get? key).map change else t.get? other := by
  unfold modify
  split
  · rename_i value found
    simp [get?_insert, found]
  · rename_i missing
    by_cases same : other = key <;> simp [same, missing]

theorem modify_of_fixed {t : Table κ α} {key : κ} {value : α} {change : α → α}
    (found : t.get? key = some value) (fixed : change value = value) : t.modify key change = t := by
  unfold modify
  rw [found]
  dsimp only
  rw [fixed, insert_of_get? found]

@[simp]
theorem size_modify (t : Table κ α) (key : κ) (change : α → α) :
    (t.modify key change).size = t.size := by
  unfold modify
  split
  · rename_i value found
    rw [size_insert, found]
    rfl
  · rfl

end Table

end CandleFeed
