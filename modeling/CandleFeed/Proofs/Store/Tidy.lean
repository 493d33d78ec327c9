import CandleFeed.Proofs.Store.Coherent
import CandleFeed.Proofs.Store.Failing
import CandleFeed.Proofs.Store.Series

/-!
# Stores whose parts fail

When parts of a store fail, its cache may hold older candles than its table. What it holds still are
candles, each under its own key, so whatever is found for a key is a candle of that key.
-/

namespace CandleFeed.Store

structure Tidy (s : Store) : Prop where
  keyed : ∀ key row, s.rows.get? key = some row → row.key = key
  storable : ∀ key row, s.rows.get? key = some row → row.Storable
  cached : ∀ text entry, s.cache.entries.get? text = some entry → ∃ candle : Candle,
    candle.Storable ∧ text = candle.key.cacheKey ∧ entry.text = Candle.codec.encode candle

variable {s t : Store}

theorem tidy_empty (now : Nat) (wall : Instant) (ids : Nat → Uuid) : (empty now wall ids).Tidy where
  keyed _ _ found := by cases found
  storable _ _ found := by cases found
  cached _ _ found := by cases found

theorem Coherent.tidy (coherent : s.Coherent) : s.Tidy where
  keyed := coherent.keyed
  storable := coherent.storable
  cached text entry found := by
    obtain ⟨key, row, same, present, written⟩ := coherent.cached text entry found
    exact ⟨row, coherent.storable key row present, by rw [same, coherent.keyed key row present], written⟩

theorem Tidy.filed (tidy : s.Tidy) : s.rows.Filed where
  keyed := tidy.keyed
  opens_low key row found := (tidy.storable key row found).opens_low
  opens_high key row found := (tidy.storable key row found).opens_high

theorem Tidy.of_fewer (tidy : s.Tidy) (rows : t.rows = s.rows)
    (fewer : ∀ text entry, t.cache.entries.get? text = some entry →
      s.cache.entries.get? text = some entry) : t.Tidy where
  keyed := by
    rw [rows]
    exact tidy.keyed
  storable := by
    rw [rows]
    exact tidy.storable
  cached text entry found := tidy.cached text entry (fewer text entry found)

theorem Tidy.persist (tidy : s.Tidy) {after : Store} {candle row : Candle} {ttl : Lifetime}
    (storable : candle.Storable) (ok : s.persist candle ttl = .ok (after, row)) : after.Tidy := by
  obtain ⟨made, rows⟩ := rows_persist ok
  obtain ⟨-, -, -, -, cache⟩ := persist_parts ok
  have stored : row.Storable := by
    rw [made]
    exact { storable with }
  constructor
  case keyed =>
    rw [rows]
    exact Rows.forall_upsert tidy.keyed (Rows.key_rowFor _ _ _)
  case storable =>
    rw [rows]
    exact Rows.forall_upsert tidy.storable { storable with }
  case cached =>
    intro text entry found
    rw [cache] at found
    split at found
    · exact tidy.cached text entry found
    · have found := get?_sweep found
      rw [Table.get?_insert] at found
      split at found
      · rename_i here
        cases found
        exact ⟨row, stored, here, rfl⟩
      · exact tidy.cached text entry found

def cached? (s : Store) (key : CandleKey) : Option Candle :=
  match (s.readCache key).2 with
  | .ok found => found
  | .error _ => none

theorem cached?_eq (s : Store) (key : CandleKey) :
    s.cached? key =
      if s.outage.cacheRead.isSome then none
      else (s.cache.live? s.now key.cacheKey).bind fun entry =>
        (Candle.codec.decode entry.text.toList).toOption := by
  unfold cached? readCache Cache.find
  cases s.outage.cacheRead with
  | some cause => rfl
  | none =>
      cases s.cache.live? s.now key.cacheKey with
      | none => rfl
      | some entry =>
          rw [Option.bind_some]
          dsimp only
          cases Candle.codec.decode entry.text.toList <;> rfl

theorem Tidy.of_cached? (tidy : s.Tidy) {key : CandleKey} {candle : Candle}
    (found : s.cached? key = some candle) : candle.key = key ∧ candle.Storable := by
  rw [cached?_eq] at found
  split at found
  · cases found
  · obtain ⟨entry, live, decoded⟩ := Option.bind_eq_some_iff.mp found
    have held := (Option.filter_eq_some_iff.mp live).1
    obtain ⟨own, storable, same, text⟩ := tidy.cached key.cacheKey entry held
    rw [text, (Candle.restores_codec storable).decode] at decoded
    cases decoded
    exact ⟨(CandleKey.cacheKey_injective same).symm, storable.asRead⟩

theorem getRow_cases (s : Store) (key : CandleKey) :
    (∃ cause, s.outage.rowRead key.interval = some cause ∧
        s.getRow key = .error (.durable cause)) ∨
      s.outage.rowRead key.interval = none ∧ s.getRow key = .ok (s.rows.get? key) := by
  unfold getRow query
  cases s.outage.rowRead key.interval with
  | some cause => exact .inl ⟨cause, rfl, rfl⟩
  | none => exact .inr ⟨rfl, rfl⟩

theorem get?_of_getRow {key : CandleKey} {row : Option Candle} (answered : s.getRow key = .ok row) :
    s.rows.get? key = row := by
  rcases s.getRow_cases key with ⟨cause, -, failed⟩ | ⟨-, asked⟩
  · cases failed.symm.trans answered
  · exact Except.ok.inj (asked.symm.trans answered)

theorem Coherent.cached?_cases (coherent : s.Coherent) (key : CandleKey) :
    s.cached? key = none ∨
      ∃ row, s.rows.get? key = some row ∧ s.cached? key = some row.asRead := by
  unfold cached? readCache
  rw [coherent.available]
  dsimp only
  rcases coherent.find key with missing | ⟨row, present, found⟩
  · exact .inl (by rw [missing])
  · exact .inr ⟨row, present, by rw [found]⟩

theorem Coherent.exists_row_of_read (coherent : s.Coherent) {key : CandleKey} {c : Candle}
    (read : (s.readCache key).2 = .ok (some c)) :
    ∃ row, s.rows.get? key = some row ∧ c = row.asRead := by
  have cached : s.cached? key = some c := by
    unfold cached?
    rw [read]
  rcases coherent.cached?_cases key with missing | ⟨row, present, found⟩
  · cases missing.symm.trans cached
  · exact ⟨row, present, Option.some.inj (cached.symm.trans found)⟩

/-- The cache is asked first, then the table, and a new candle is made if neither has one. A lookup
fails only if it gets to a table that does not answer. -/
theorem getOrCreate_found (s : Store) (symbol : Symbol) (interval : Interval) (bucket : Bucket)
    (seed : Decimal) :
    let key : CandleKey := ⟨symbol, interval, bucket.opening⟩
    let found := (s.getOrCreate symbol interval bucket seed).2
    (∃ candle, s.cached? key = some candle ∧ found = .ok (candle, .cache)) ∨
      s.cached? key = none ∧
        ((∃ cause, s.outage.rowRead interval = some cause ∧ found = .error (.durable cause)) ∨
          s.outage.rowRead interval = none ∧
            ((∃ row, s.rows.get? key = some row ∧ found = .ok (row, .durable)) ∨
              s.rows.get? key = none ∧
                found = .ok (.openBucket symbol interval bucket seed, .created))) := by
  let key : CandleKey := ⟨symbol, interval, bucket.opening⟩
  have table : (s.readCache key).1.getRow key = s.getRow key := by
    unfold readCache
    split <;> rfl
  have missed (missing : s.cached? key = none) :
      (s.getOrCreate symbol interval bucket seed).2 =
        (s.getRow key).map fun row =>
          (row.map (·, Origin.durable)).getD (.openBucket symbol interval bucket seed, .created) := by
    unfold cached? at missing
    unfold getOrCreate
    dsimp only
    generalize s.readCache key = answer at table missing
    obtain ⟨after, cause | _ | candle⟩ := answer
    · dsimp only
      rw [table]
      rcases s.getRow key with cause | _ | row <;> rfl
    · dsimp only
      rw [table]
      rcases s.getRow key with cause | _ | row <;> rfl
    · cases missing
  dsimp only
  cases found : s.cached? key with
  | some candle =>
      refine .inl ⟨candle, rfl, ?_⟩
      unfold cached? at found
      unfold getOrCreate
      dsimp only
      generalize s.readCache key = answer at found
      obtain ⟨after, cause | _ | own⟩ := answer <;> cases found
      rfl
  | none =>
      rw [missed found]
      rcases getRow_cases s key with ⟨cause, down, asked⟩ | ⟨answers, asked⟩
      · exact .inr ⟨rfl, .inl ⟨cause, down, by rw [asked]; rfl⟩⟩
      · refine .inr ⟨rfl, .inr ⟨answers, ?_⟩⟩
        rw [asked]
        cases s.rows.get? key with
        | none => exact .inr ⟨rfl, rfl⟩
        | some row => exact .inl ⟨row, rfl, rfl⟩

theorem Tidy.getOrCreate (tidy : s.Tidy) (symbol : Symbol) (interval : Interval) (bucket : Bucket)
    (seed : Decimal) : (s.getOrCreate symbol interval bucket seed).1.Tidy := by
  rcases s.getOrCreate_cache symbol interval bucket seed with same | evicted
  · rw [same]
    exact tidy
  · rw [evicted]
    exact tidy.of_fewer rfl fun _ _ found => get?_evict found

/-- Under the spared keys nothing is to be seen of what happened, now or later. -/
structure Spares (s t : Store) (spared : CandleKey → Prop) : Prop where
  outage : t.outage = s.outage
  now : t.now = s.now
  wall : t.wall = s.wall
  rows : ∀ key, spared key → t.rows.get? key = s.rows.get? key
  live : ∀ key, spared key → ∀ later, s.now ≤ later →
    t.cache.live? later key.cacheKey = s.cache.live? later key.cacheKey

theorem Spares.refl (s : Store) (spared : CandleKey → Prop) : s.Spares s spared :=
  ⟨rfl, rfl, rfl, fun _ _ => rfl, fun _ _ _ _ => rfl⟩

theorem Spares.trans {u : Store} {spared more less : CandleKey → Prop} (first : s.Spares t spared)
    (second : t.Spares u more) (both : ∀ key, less key → spared key ∧ more key) :
    s.Spares u less where
  outage := second.outage.trans first.outage
  now := second.now.trans first.now
  wall := second.wall.trans first.wall
  rows key mem := (second.rows key (both key mem).2).trans (first.rows key (both key mem).1)
  live key mem later order :=
    (second.live key (both key mem).2 later (first.now ▸ order)).trans
      (first.live key (both key mem).1 later order)

theorem Spares.find {spared : CandleKey → Prop} (spares : s.Spares t spared) {key : CandleKey}
    (mem : spared key) {later : Nat} (order : s.now ≤ later) :
    t.cache.find later key = s.cache.find later key := by
  unfold Cache.find
  rw [spares.live key mem later order]

theorem Spares.cached? {spared : CandleKey → Prop} (spares : s.Spares t spared) {key : CandleKey}
    (mem : spared key) : t.cached? key = s.cached? key := by
  rw [cached?_eq, cached?_eq, spares.outage, spares.now, spares.live key mem s.now (Nat.le_refl _)]

theorem spares_getOrCreate (s : Store) (symbol : Symbol) (interval : Interval) (bucket : Bucket)
    (seed : Decimal) : s.Spares (s.getOrCreate symbol interval bucket seed).1 fun _ => True := by
  rcases s.getOrCreate_cache symbol interval bucket seed with same | evicted
  · rw [same]
    exact .refl s _
  · rw [evicted]
    exact ⟨rfl, rfl, rfl, fun _ _ => rfl, fun key _ later order => Cache.live_evict _ order _ _⟩

theorem spares_persist {after : Store} {candle row : Candle} {ttl : Lifetime}
    (ok : s.persist candle ttl = .ok (after, row)) : s.Spares after fun key => key ≠ candle.key := by
  obtain ⟨made, rows⟩ := rows_persist ok
  obtain ⟨-, outage, now, wall, cache⟩ := persist_parts ok
  have own : row.key = candle.key := by rw [made, Rows.key_rowFor]
  refine ⟨outage, now, wall, ?_, ?_⟩
  · intro key other
    rw [rows, Rows.get?_upsert, if_neg other]
  · intro key other later order
    rw [cache]
    split
    · rfl
    · apply Cache.live_keep_other _ order
      intro same
      exact other ((CandleKey.cacheKey_injective same).trans own)

end CandleFeed.Store
