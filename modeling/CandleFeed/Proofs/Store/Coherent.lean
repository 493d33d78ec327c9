import CandleFeed.Proofs.Candle
import CandleFeed.Proofs.Store.Keys
import CandleFeed.Store

/-!
# The cache agrees with the table

While no part of the store fails, every text in the cache is the text of the row that the table has
for its key, expired or not. So a candle that is found is the row, up to what its text does not
keep.
-/

namespace CandleFeed.Store

structure Coherent (s : Store) : Prop where
  available : s.outage = {}
  keyed : ∀ key row, s.rows.get? key = some row → row.key = key
  storable : ∀ key row, s.rows.get? key = some row → row.Storable
  cached : ∀ text entry, s.cache.entries.get? text = some entry → ∃ key row,
    text = key.cacheKey ∧ s.rows.get? key = some row ∧ entry.text = Candle.codec.encode row

theorem coherent_empty (now : Nat) (wall : Instant) (ids : Nat → Uuid) :
    (empty now wall ids).Coherent where
  available := rfl
  keyed key row found := by cases found
  storable key row found := by cases found
  cached text entry found := by cases found

theorem Coherent.of_fewer {s t : Store} (coherent : s.Coherent) (outage : t.outage = s.outage)
    (rows : t.rows = s.rows) (fewer : ∀ text entry, t.cache.entries.get? text = some entry →
      s.cache.entries.get? text = some entry) : t.Coherent where
  available := outage.trans coherent.available
  keyed := by
    rw [rows]
    exact coherent.keyed
  storable := by
    rw [rows]
    exact coherent.storable
  cached text entry found := by
    rw [rows]
    exact coherent.cached text entry (fewer text entry found)

theorem get?_purge {c : Cache} {now : Nat} {text : String} {entry : CacheEntry}
    (found : (c.purge now).entries.get? text = some entry) : c.entries.get? text = some entry := by
  unfold Cache.purge at found
  rw [Table.get?_filter] at found
  exact (Option.filter_eq_some_iff.mp found).1

theorem get?_sweep {c : Cache} {now : Nat} {text : String} {entry : CacheEntry}
    (found : (c.sweep now).entries.get? text = some entry) : c.entries.get? text = some entry := by
  unfold Cache.sweep at found
  split at found
  · exact found
  · exact get?_purge found

theorem get?_evict {c : Cache} {now : Nat} {key : CandleKey} {text : String} {entry : CacheEntry}
    (found : (c.evict now key).entries.get? text = some entry) :
    c.entries.get? text = some entry := by
  unfold Cache.evict at found
  split at found
  · rw [Table.get?_erase] at found
    split at found
    · cases found
    · exact found
  · exact found

theorem Coherent.purge {s : Store} (coherent : s.Coherent) :
    Coherent { s with cache := s.cache.purge s.now } :=
  coherent.of_fewer rfl rfl fun _ _ found => get?_purge found

theorem Coherent.evict {s : Store} (coherent : s.Coherent) (key : CandleKey) :
    Coherent { s with cache := s.cache.evict s.now key } :=
  coherent.of_fewer rfl rfl fun _ _ found => get?_evict found

theorem Coherent.getRow {s : Store} (coherent : s.Coherent) (key : CandleKey) :
    s.getRow key = .ok (s.rows.get? key) := by
  unfold Store.getRow query
  rw [coherent.available]

theorem Coherent.persist {s : Store} (coherent : s.Coherent) {candle : Candle}
    (storable : candle.Storable) (ttl : Lifetime) :
    ∃ after row, s.persist candle ttl = .ok (after, row) ∧ after.Coherent ∧
      after.rows = (s.rows.upsert s.wall candle).1 := by
  have open' : s.outage.rowWrite candle.interval = none := by rw [coherent.available]
  obtain ⟨after, row, ok⟩ : ∃ after row, s.persist candle ttl = .ok (after, row) :=
    persist_eq_ok_iff.mpr open'
  obtain ⟨same, rows⟩ := rows_persist ok
  have lookup (key : CandleKey) : after.rows.get? key =
      if key = candle.key then some row else s.rows.get? key := by
    rw [rows, Rows.get?_upsert, same]
  obtain ⟨-, outage, -, -, cache⟩ := persist_parts ok
  rw [coherent.available] at cache
  have own : row.key = candle.key := by rw [same, Rows.key_rowFor]
  refine ⟨after, row, ok, ?_, rows⟩
  constructor
  case available => exact outage.trans coherent.available
  case keyed =>
    rw [rows]
    exact Rows.forall_upsert coherent.keyed (Rows.key_rowFor _ _ _)
  case storable =>
    rw [rows]
    exact Rows.forall_upsert coherent.storable { storable with }
  case cached =>
    intro text entry found
    rw [cache] at found
    have found := get?_sweep found
    rw [Table.get?_insert] at found
    split at found
    · rename_i here
      cases found
      exact ⟨row.key, row, here, by rw [lookup, if_pos own], rfl⟩
    · rename_i apart
      obtain ⟨key, old, rfl, present, text⟩ := coherent.cached text entry found
      have other : key ≠ candle.key := by
        rintro rfl
        exact apart (by rw [own])
      exact ⟨key, old, rfl, by rw [lookup, if_neg other, present], text⟩

theorem Coherent.find {s : Store} (coherent : s.Coherent) (key : CandleKey) :
    s.cache.find s.now key = .ok none ∨
      ∃ row, s.rows.get? key = some row ∧ s.cache.find s.now key = .ok (some row.asRead) := by
  unfold Cache.find
  cases live : s.cache.live? s.now key.cacheKey with
  | none => exact .inl rfl
  | some entry =>
      right
      have found := (Option.filter_eq_some_iff.mp live).1
      obtain ⟨own, row, same, present, text⟩ := coherent.cached key.cacheKey entry found
      obtain rfl := CandleKey.cacheKey_injective same
      refine ⟨row, present, ?_⟩
      dsimp only
      rw [text, (Candle.restores_codec (coherent.storable key row present)).decode]

theorem Coherent.getOrCreate {s : Store} (coherent : s.Coherent) (symbol : Symbol)
    (interval : Interval) (bucket : Bucket) (seed : Decimal) :
    ∃ after candle origin, s.getOrCreate symbol interval bucket seed = (after, .ok (candle, origin)) ∧
      after.Coherent ∧ after.rows = s.rows ∧
      Candle.Found (.openBucket symbol interval bucket seed)
        (s.rows.get? ⟨symbol, interval, bucket.opening⟩) candle := by
  let key : CandleKey := ⟨symbol, interval, bucket.opening⟩
  have kept := coherent.evict key
  have read : s.readCache key =
      ({ s with cache := s.cache.evict s.now key }, s.cache.find s.now key) := by
    unfold readCache
    rw [coherent.available]
  unfold Store.getOrCreate
  dsimp only
  rw [read]
  rcases coherent.find key with missing | ⟨row, present, found⟩
  · rw [missing]
    dsimp only
    rw [kept.getRow]
    change ∃ after candle origin, _ = _ ∧ _ ∧ _ ∧ Candle.Found _ (s.rows.get? key) candle
    cases present : s.rows.get? key with
    | none => exact ⟨_, _, _, rfl, kept, rfl, rfl⟩
    | some row => exact ⟨_, _, _, rfl, kept, rfl, .inl rfl⟩
  · rw [found, present]
    exact ⟨_, _, _, rfl, kept, rfl, .inr rfl⟩

end CandleFeed.Store
