import CandleFeed.Proofs.Store.Tidy

namespace CandleFeed

namespace Uuid

theorem eq_of_serial_eq {m n : Nat} (low : m < Nat.pow 2 128) (high : n < Nat.pow 2 128)
    (same : serial m = serial n) : m = n := by
  have values := congrArg (fun id : Uuid => id.value.toNat) same
  simp only [serial, BitVec.toNat_ofNat] at values
  rw [Nat.pow_eq] at low high
  omega

end Uuid

namespace Candle

def identity (c : Candle) : Option Uuid × Option Instant :=
  (c.id, c.createdAt)

structure Stamped (c : Candle) : Prop where
  id : c.id.isSome = true
  createdAt : c.createdAt.isSome = true

theorem identity_asRead (c : Candle) : c.asRead.identity = c.identity := rfl

theorem Stamped.of_identity {c d : Candle} (stamped : c.Stamped) (same : d.identity = c.identity) :
    d.Stamped := by
  have id : d.id = c.id := congrArg Prod.fst same
  have createdAt : d.createdAt = c.createdAt := congrArg Prod.snd same
  exact ⟨id ▸ stamped.id, createdAt ▸ stamped.createdAt⟩

end Candle

namespace Rows

variable {r r' : Rows} {candle old row : Candle} {ids : Nat → Uuid}

theorem stamped_rowFor (r : Rows) (now : Instant) (candle : Candle) :
    (r.rowFor now candle).Stamped where
  id := rfl
  createdAt := rfl

theorem rowFor_of_missing (missing : r.get? candle.key = none) (now : Instant) :
    r.rowFor now candle =
      { candle with
        id := some (candle.id.getD (r.ids (r.issued + 1)))
        createdAt := some now
        updatedAt := some now } := by
  unfold rowFor
  rw [missing]
  rfl

theorem rowFor_of_row (found : r.get? candle.key = some old) (stamped : old.Stamped) (now : Instant) :
    r.rowFor now candle =
      { candle with id := old.id, createdAt := old.createdAt, updatedAt := some now } := by
  obtain ⟨id, named⟩ := Option.isSome_iff_exists.mp stamped.id
  obtain ⟨made, dated⟩ := Option.isSome_iff_exists.mp stamped.createdAt
  unfold rowFor
  dsimp only
  rw [found, Option.bind_some, Option.bind_some, named, dated]
  rfl

/-! ## Repeated upserts -/

theorem ids_run (ids : Nat → Uuid) (upserts : List Upsert) : (run ids upserts).ids = ids := by
  induction upserts using List.reverseRecOn with
  | nil => rfl
  | append_singleton upserts u ih =>
      rw [run_append]
      exact ih

def lastOf (first : Upsert) (later : List Upsert) : Upsert :=
  (later.reverse.find? fun u => u.candle.key = first.candle.key).getD first

theorem lastOf_append (first : Upsert) (later : List Upsert) (u : Upsert) :
    lastOf first (later ++ [u]) =
      if u.candle.key = first.candle.key then u else lastOf first later := by
  unfold lastOf
  rw [List.reverse_append, List.reverse_singleton, List.singleton_append, List.find?_cons]
  by_cases same : u.candle.key = first.candle.key <;> simp [same]

theorem get?_run_of_new {upserts : List Upsert} {key : CandleKey}
    (new : ∀ u ∈ upserts, u.candle.key ≠ key) : (run ids upserts).get? key = none := by
  have missing : last? upserts key = none := by
    unfold last?
    rw [Option.map_eq_none_iff, List.find?_eq_none]
    intro u mem
    simpa using new u (List.mem_reverse.mp mem)
  have shown : ((run ids upserts).get? key).map Candle.unstamped = _ := get?_run upserts key
  rw [missing] at shown
  exact Option.map_eq_none_iff.mp shown

/-- The first upsert of a key settles its id and the time when it was made. Everything else is that
of the last one. -/
theorem get?_run_append (before later : List Upsert) {first : Upsert}
    (new : ∀ u ∈ before, u.candle.key ≠ first.candle.key) :
    (run ids (before ++ first :: later)).get? first.candle.key =
      some { (lastOf first later).candle with
        id := some (first.candle.id.getD (ids ((run ids before).issued + 1)))
        createdAt := some first.now
        updatedAt := some (lastOf first later).now } := by
  induction later using List.reverseRecOn with
  | nil =>
      rw [run_append, get?_upsert, if_pos rfl, rowFor_of_missing (get?_run_of_new new), ids_run]
      rfl
  | append_singleton later u ih =>
      rw [← List.cons_append, ← List.append_assoc, run_append, get?_upsert, lastOf_append]
      by_cases same : u.candle.key = first.candle.key
      · rw [if_pos same.symm, if_pos same, rowFor_of_row (same ▸ ih) ⟨rfl, rfl⟩]
      · rw [if_neg (Ne.symm same), if_neg same]
        exact ih

/-! ## Ids of their own -/

structure Numbered (r : Rows) (number : CandleKey → Nat) : Prop where
  id : ∀ key row, r.get? key = some row → row.id = some (r.ids (number key))
  issued : ∀ key row, r.get? key = some row → number key ≤ r.issued
  apart : ∀ key row key' row', r.get? key = some row → r.get? key' = some row' →
    number key = number key' → key = key'

theorem numbered_empty : (empty ids).Numbered fun _ => 0 where
  id _ _ found := by cases found
  issued _ _ found := by cases found
  apart _ _ _ _ found := by cases found

variable {number : CandleKey → Nat}

theorem Numbered.upsert_old (numbered : r.Numbered number) (found : r.get? candle.key = some old)
    (stamped : old.Stamped) (now : Instant) : (r.upsert now candle).1.Numbered number := by
  have own := numbered.id candle.key old found
  have id : (r.rowFor now candle).id = old.id := by rw [rowFor_of_row found stamped]
  have issued : (r.upsert now candle).1.issued = r.issued := by
    unfold upsert needsId
    dsimp only
    rw [found, Option.bind_some, own]
    rfl
  -- whoever has a row had one before, with the same id
  have before {key : CandleKey} {row : Candle}
      (present : (r.upsert now candle).1.get? key = some row) :
      ∃ earlier, r.get? key = some earlier ∧ row.id = earlier.id := by
    rcases upsert_cases present with ⟨rfl, rfl⟩ | ⟨-, was⟩
    · exact ⟨old, found, id⟩
    · exact ⟨row, was, rfl⟩
  constructor
  case id =>
    intro key row present
    obtain ⟨earlier, was, same⟩ := before present
    exact same.trans (numbered.id key earlier was)
  case issued =>
    intro key row present
    obtain ⟨earlier, was, -⟩ := before present
    rw [issued]
    exact numbered.issued key earlier was
  case apart =>
    intro key row key' row' present present' same
    obtain ⟨earlier, was, -⟩ := before present
    obtain ⟨earlier', was', -⟩ := before present'
    exact numbered.apart key earlier key' earlier' was was' same

theorem Numbered.upsert_new (numbered : r.Numbered number) (missing : r.get? candle.key = none)
    (plain : candle.id = none) (now : Instant) :
    (r.upsert now candle).1.Numbered (Function.update number candle.key (r.issued + 1)) := by
  have id : (r.rowFor now candle).id = some (r.ids (r.issued + 1)) := by
    rw [rowFor_of_missing missing, plain]
    rfl
  have issued : (r.upsert now candle).1.issued = r.issued + 1 := by
    unfold upsert needsId
    dsimp only
    rw [missing, plain]
    rfl
  constructor
  case id =>
    intro key row present
    rcases upsert_cases present with ⟨rfl, rfl⟩ | ⟨other, was⟩
    · rw [Function.update_self, id]
      rfl
    · rw [Function.update_of_ne other]
      exact numbered.id key row was
  case issued =>
    intro key row present
    rw [issued]
    rcases upsert_cases present with ⟨rfl, rfl⟩ | ⟨other, was⟩
    · rw [Function.update_self]
    · rw [Function.update_of_ne other]
      exact Nat.le_succ_of_le (numbered.issued key row was)
  case apart =>
    intro key row key' row' present present' same
    rcases upsert_cases present with ⟨rfl, rfl⟩ | ⟨other, was⟩ <;>
      rcases upsert_cases present' with ⟨rfl, rfl⟩ | ⟨other', was'⟩
    · rfl
    · rw [Function.update_self, Function.update_of_ne other'] at same
      have := numbered.issued key' row' was'
      omega
    · rw [Function.update_self, Function.update_of_ne other] at same
      have := numbered.issued key row was
      omega
    · rw [Function.update_of_ne other, Function.update_of_ne other'] at same
      exact numbered.apart key row key' row' was was' same

theorem Numbered.ids_ne (numbered : r.Numbered number)
    (once : ∀ m ≤ r.issued, ∀ n ≤ r.issued, r.ids m = r.ids n → m = n)
    {key key' : CandleKey} {row' : Candle} (found : r.get? key = some row)
    (found' : r.get? key' = some row') (other : key ≠ key') : row.id ≠ row'.id := by
  rw [numbered.id key row found, numbered.id key' row' found']
  intro same
  have equal := once _ (numbered.issued key row found) _ (numbered.issued key' row' found')
    (Option.some.inj same)
  exact other (numbered.apart key row key' row' found found' equal)

/-! ## Identities -/

structure Keeps (r r' : Rows) : Prop where
  ids : r'.ids = r.ids
  identity : ∀ key row, r.get? key = some row → row.Stamped →
    ∃ row', r'.get? key = some row' ∧ row'.identity = row.identity

theorem Keeps.refl (r : Rows) : r.Keeps r :=
  ⟨rfl, fun _ row found _ => ⟨row, found, rfl⟩⟩

theorem Keeps.trans {r'' : Rows} (first : r.Keeps r') (second : r'.Keeps r'') : r.Keeps r'' where
  ids := second.ids.trans first.ids
  identity key row found stamped := by
    obtain ⟨row', found', same⟩ := first.identity key row found stamped
    obtain ⟨row'', found'', same'⟩ := second.identity key row' found' (stamped.of_identity same)
    exact ⟨row'', found'', same'.trans same⟩

theorem keeps_upsert (r : Rows) (now : Instant) (candle : Candle) :
    r.Keeps (r.upsert now candle).1 where
  ids := rfl
  identity key row found stamped := by
    rw [get?_upsert]
    split
    · rename_i here
      subst here
      refine ⟨_, rfl, ?_⟩
      rw [rowFor_of_row found stamped]
      rfl
    · exact ⟨row, found, rfl⟩

end Rows

namespace Store

/-- Every row has an identity, with an id of its own, and what the cache holds for a key has that of
its row. -/
structure Identified (s : Store) : Prop extends s.Tidy where
  stamped : ∀ key row, s.rows.get? key = some row → row.Stamped
  numbered : ∃ number, s.rows.Numbered number
  shared : ∀ key entry candle, s.cache.entries.get? key.cacheKey = some entry →
    Candle.codec.decode entry.text.toList = .ok candle →
    candle.key = key ∧ ∃ row, s.rows.get? key = some row ∧ candle.identity = row.identity

variable {s t : Store}

theorem identified_empty (now : Nat) (wall : Instant) (ids : Nat → Uuid) :
    (empty now wall ids).Identified where
  toTidy := tidy_empty now wall ids
  stamped _ _ found := by cases found
  numbered := ⟨_, Rows.numbered_empty⟩
  shared _ _ _ held := by cases held

theorem Identified.of_fewer (identified : s.Identified) (rows : t.rows = s.rows)
    (fewer : ∀ text entry, t.cache.entries.get? text = some entry →
      s.cache.entries.get? text = some entry) : t.Identified where
  toTidy := identified.toTidy.of_fewer rows fewer
  stamped := by
    rw [rows]
    exact identified.stamped
  numbered := by
    rw [rows]
    exact identified.numbered
  shared key entry candle held read := by
    rw [rows]
    exact identified.shared key entry candle (fewer _ entry held) read

theorem Identified.persist (identified : s.Identified) {after : Store} {candle row : Candle}
    {ttl : Lifetime}
    (storable : candle.Storable) (plain : s.rows.get? candle.key = none → candle.id = none)
    (ok : s.persist candle ttl = .ok (after, row)) : after.Identified := by
  obtain ⟨made, rows⟩ := rows_persist ok
  obtain ⟨-, -, -, -, cache⟩ := persist_parts ok
  have kept : s.rows.Keeps after.rows := by
    rw [rows]
    exact Rows.keeps_upsert s.rows s.wall candle
  have stored : row.Storable := by
    rw [made]
    exact { storable with }
  constructor
  case toTidy => exact identified.toTidy.persist storable ok
  case stamped =>
    rw [rows]
    exact Rows.forall_upsert identified.stamped (Rows.stamped_rowFor _ _ _)
  case numbered =>
    obtain ⟨number, numbered⟩ := identified.numbered
    rw [rows]
    cases present : s.rows.get? candle.key with
    | none => exact ⟨_, numbered.upsert_new present (plain present) s.wall⟩
    | some old => exact ⟨number, numbered.upsert_old present (identified.stamped _ old present) s.wall⟩
  case shared =>
    intro key entry read held decoded
    -- what was cached before still has the identity of its row
    have older (before : s.cache.entries.get? key.cacheKey = some entry) :
        read.key = key ∧ ∃ row, after.rows.get? key = some row ∧ read.identity = row.identity := by
      obtain ⟨own, earlier, was, same⟩ := identified.shared key entry read before decoded
      obtain ⟨later, is, same'⟩ := kept.identity key earlier was (identified.stamped key earlier was)
      exact ⟨own, later, is, same.trans same'.symm⟩
    rw [cache] at held
    split at held
    · exact older held
    · have held := get?_sweep held
      rw [Table.get?_insert] at held
      split at held
      · rename_i here
        cases held
        rw [(Candle.restores_codec stored).decode] at decoded
        cases decoded
        have own : row.key = key := (CandleKey.cacheKey_injective here).symm
        have keyed : candle.key = key := by rw [← own, made, Rows.key_rowFor]
        exact ⟨own, row, keyed ▸ get?_rows_persist ok, row.identity_asRead⟩
      · exact older held

/-! ## Looking up -/

theorem Identified.of_cached? (identified : s.Identified) {key : CandleKey} {candle : Candle}
    (found : s.cached? key = some candle) :
    candle.key = key ∧ ∃ row, s.rows.get? key = some row ∧ candle.identity = row.identity := by
  rw [cached?_eq] at found
  split at found
  · cases found
  · obtain ⟨entry, live, decoded⟩ := Option.bind_eq_some_iff.mp found
    have held := (Option.filter_eq_some_iff.mp live).1
    cases read : Candle.codec.decode entry.text.toList with
    | error cause =>
        rw [read] at decoded
        cases decoded
    | ok own =>
        rw [read] at decoded
        cases decoded
        exact identified.shared key entry candle held read

theorem Identified.cached?_of_missing (identified : s.Identified) {key : CandleKey}
    (missing : s.rows.get? key = none) : s.cached? key = none := by
  rw [Option.eq_none_iff_forall_ne_some]
  intro candle found
  obtain ⟨-, row, present, -⟩ := identified.of_cached? found
  cases missing.symm.trans present

theorem Identified.getOrCreate (identified : s.Identified) (symbol : Symbol) (interval : Interval)
    (bucket : Bucket) (seed : Decimal) :
    (s.getOrCreate symbol interval bucket seed).1.Identified := by
  rcases s.getOrCreate_cache symbol interval bucket seed with same | evicted
  · rw [same]
    exact identified
  · rw [evicted]
    exact identified.of_fewer rfl fun _ _ found => get?_evict found

theorem Identified.of_found (identified : s.Identified) {symbol : Symbol} {interval : Interval}
    {bucket : Bucket} {seed : Decimal} {candle row : Candle} {origin : Origin}
    (present : s.rows.get? ⟨symbol, interval, bucket.opening⟩ = some row)
    (found : (s.getOrCreate symbol interval bucket seed).2 = .ok (candle, origin)) :
    candle.key = ⟨symbol, interval, bucket.opening⟩ ∧ candle.identity = row.identity := by
  rcases s.getOrCreate_found symbol interval bucket seed with
    ⟨own, cached, answer⟩ | ⟨-, ⟨cause, -, answer⟩ | ⟨-, ⟨own, stored, answer⟩ | ⟨missing, -⟩⟩⟩
  · cases found.symm.trans answer
    obtain ⟨keyed, own, stored, same⟩ := identified.of_cached? cached
    obtain rfl := Option.some.inj (present.symm.trans stored)
    exact ⟨keyed, same⟩
  · cases found.symm.trans answer
  · cases found.symm.trans answer
    obtain rfl := Option.some.inj (present.symm.trans stored)
    exact ⟨identified.keyed _ _ present, rfl⟩
  · cases present.symm.trans missing

end Store

end CandleFeed
