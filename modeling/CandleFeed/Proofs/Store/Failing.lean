import CandleFeed.Proofs.Candle
import CandleFeed.Proofs.Store.Keys
import CandleFeed.Store
import Mathlib.Data.List.Induction

namespace CandleFeed

namespace Cache

theorem live_keep_other (c : Cache) {now later : Nat} (order : now ≤ later) {candle : Candle}
    {text : String} (other : text ≠ candle.key.cacheKey) (expires : Nat) :
    (c.keep now candle expires).live? later text = c.live? later text := by
  rw [keep, live_sweep _ order]
  unfold live?
  rw [Table.get?_insert, if_neg other]

theorem live_evict (c : Cache) {now later : Nat} (order : now ≤ later) (key : CandleKey)
    (text : String) : (c.evict now key).live? later text = c.live? later text := by
  unfold evict
  split
  · rename_i expired
    by_cases own : text = key.cacheKey
    · subst own
      have later_too : c.live? later key.cacheKey = none := by
        rw [← live_purge c order]
        unfold live? purge
        rw [Table.get?_filter]
        change ((c.live? now key.cacheKey).filter _) = none
        rw [expired]
        rfl
      rw [later_too]
      unfold live?
      rw [Table.get?_erase, if_pos rfl]
      rfl
    · unfold live?
      rw [Table.get?_erase, if_neg own]
  · rfl

end Cache

namespace Candle

def same (a b : Candle) : Bool :=
  a.id = b.id && a.key = b.key && a.closeTime = b.closeTime &&
    a.openPrice.same b.openPrice && a.highPrice.same b.highPrice && a.lowPrice.same b.lowPrice &&
    a.closePrice.same b.closePrice && a.volume.same b.volume &&
    a.quoteAmount.same b.quoteAmount && a.tradeCount = b.tradeCount &&
    a.completed = b.completed && a.createdAt = b.createdAt && a.updatedAt = b.updatedAt

theorem same_refl (c : Candle) : c.same c = true := by
  simp [same, Decimal.same]

theorem same_signedByValue (a b : Candle) : a.signedByValue.same b = a.same b := by
  have decimals (d e : Decimal) : d.signedByValue.same e = d.same e := by
    unfold Decimal.same
    rw [Decimal.units_signedByValue]
    rfl
  unfold same signedByValue
  dsimp only
  rw [decimals, decimals, decimals, decimals, decimals, decimals]
  rfl

end Candle

namespace Store

inductive Command
  | persist (candle : Candle) (fits : candle.Fits) (ttl : Lifetime) (fault : Option String)
  | getOrCreate (symbol : Symbol) (interval : Interval) (bucket : Bucket) (seed : Decimal)
      (fault : Option String)
  | advance (span : Nat) (wall : Instant)

structure Write where
  row : Candle
  expires : Option Nat

def failing (s : Store) (fault : Option String) : Store :=
  { s with outage := { cacheRead := fault, cacheWrite := fault } }

def step (s : Store) : Command → Store × List Write
  | .persist candle _ ttl fault =>
      match (s.failing fault).persist candle ttl with
      | .ok (after, row) =>
          (after, [⟨row, if fault.isSome then none else some (s.now + ttl.nanos)⟩])
      | .error _ => (s, [])
  | .getOrCreate symbol interval bucket seed fault =>
      (((s.failing fault).getOrCreate symbol interval bucket seed).1, [])
  | .advance span wall => ({ s.advance span with wall := wall }, [])

def run (s : Store) (commands : List Command) : Store × List Write :=
  commands.foldl (fun (s, log) command => ((s.step command).1, (s.step command).2 ++ log)) (s, [])

theorem run_concat (s : Store) (commands : List Command) (command : Command) :
    s.run (commands ++ [command]) =
      (((s.run commands).1.step command).1,
        ((s.run commands).1.step command).2 ++ (s.run commands).2) :=
  List.foldl_append

def lastWrite (log : List Write) (key : CandleKey) : Option Write :=
  log.find? fun write => write.row.key = key

def lastCached (log : List Write) (key : CandleKey) : Option Write :=
  log.find? fun write => write.row.key = key ∧ write.expires.isSome

def Write.isLive (write : Write) (now : Nat) : Bool :=
  write.expires.any fun expires => now < expires

/-! ## What is in the two tiers -/

def Write.entry? (write : Write) (now : Nat) : Option CacheEntry :=
  (write.expires.map fun expires => ⟨Candle.codec.encode write.row, expires⟩).filter fun entry =>
    entry.isLive now

structure Tracks (s : Store) (log : List Write) : Prop where
  fits : ∀ write ∈ log, write.row.Fits
  rows : ∀ key, s.rows.get? key = (lastWrite log key).map Write.row
  cached : ∀ later, s.now ≤ later → ∀ key : CandleKey,
    s.cache.live? later key.cacheKey = (lastCached log key).bind fun write => write.entry? later

theorem tracks_empty (now : Nat) (wall : Instant) (ids : Nat → Uuid) :
    (empty now wall ids).Tracks [] where
  fits _ mem := by cases mem
  rows _ := rfl
  cached later _ key := by simp [empty, Cache.empty, Cache.live?, lastCached]

variable {s : Store} {log : List Write}

theorem lastWrite_cons (write : Write) (log : List Write) (key : CandleKey) :
    lastWrite (write :: log) key = if key = write.row.key then some write else lastWrite log key := by
  unfold lastWrite
  by_cases own : key = write.row.key
  · rw [List.find?_cons_of_pos (by simp [own]), if_pos own]
  · rw [List.find?_cons_of_neg (by simpa using Ne.symm own), if_neg own]

theorem lastCached_cons (write : Write) (log : List Write) (key : CandleKey) :
    lastCached (write :: log) key =
      if key = write.row.key ∧ write.expires.isSome then some write else lastCached log key := by
  unfold lastCached
  by_cases own : key = write.row.key ∧ write.expires.isSome
  · rw [List.find?_cons_of_pos (by simpa [own.1] using own.2), if_pos own]
  · rw [List.find?_cons_of_neg, if_neg own]
    simpa [eq_comm (a := write.row.key)] using own

theorem Tracks.write (tracks : s.Tracks log) {t : Store} (write : Write) (fits : write.row.Fits)
    (now : t.now = s.now) (rows : ∀ key, t.rows.get? key =
      if key = write.row.key then some write.row else s.rows.get? key)
    (cached : ∀ later, s.now ≤ later → ∀ key : CandleKey, t.cache.live? later key.cacheKey =
      if key = write.row.key ∧ write.expires.isSome then write.entry? later
      else s.cache.live? later key.cacheKey) :
    t.Tracks (write :: log) where
  fits other mem := by
    rcases List.mem_cons.mp mem with rfl | old
    · exact fits
    · exact tracks.fits other old
  rows key := by
    rw [rows, lastWrite_cons, tracks.rows]
    split <;> rfl
  cached later order key := by
    rw [now] at order
    rw [cached later order, lastCached_cons, tracks.cached later order]
    split <;> rfl

theorem Tracks.persist (tracks : s.Tracks log) {candle : Candle} (fits : candle.Fits) (ttl : Lifetime)
    (fault : Option String) :
    (s.step (.persist candle fits ttl fault)).1.Tracks
      ((s.step (.persist candle fits ttl fault)).2 ++ log) := by
  let row := s.rows.rowFor s.wall candle
  have stored (key : CandleKey) : (s.rows.upsert s.wall candle).1.get? key =
      if key = row.key then some row else s.rows.get? key := Rows.get?_upsert ..
  have written : row.Fits := { fits with }
  cases fault with
  | some cause =>
      refine tracks.write ⟨row, none⟩ written rfl stored ?_
      intro later _ key
      exact (if_neg fun taken => Bool.noConfusion taken.2).symm
  | none =>
      let expires := s.now + ttl.nanos
      refine tracks.write ⟨row, some expires⟩ written rfl stored ?_
      intro later order key
      change (((s.failing none).writeCache row ttl).cache.live? later key.cacheKey) = _
      rw [writeCache_eq]
      change (s.cache.keep s.now row expires).live? later key.cacheKey = _
      by_cases own : key = row.key
      · rw [if_pos ⟨own, rfl⟩, own, Cache.live_keep_self _ order]
        by_cases alive : later < expires <;>
          simp [Write.entry?, CacheEntry.isLive, alive, Option.filter]
      · rw [if_neg fun both => own both.1]
        exact Cache.live_keep_other _ order
          (fun same => own (CandleKey.cacheKey_injective same)) expires

theorem Tracks.step (tracks : s.Tracks log) (command : Command) :
    (s.step command).1.Tracks ((s.step command).2 ++ log) := by
  cases command with
  | persist candle fits ttl fault => exact tracks.persist fits ttl fault
  | getOrCreate symbol interval bucket seed fault =>
      unfold Store.step
      dsimp only
      rcases (s.failing fault).getOrCreate_cache symbol interval bucket seed with same | evicted
      · rw [same]
        exact ⟨tracks.fits, tracks.rows, tracks.cached⟩
      · rw [evicted]
        refine ⟨tracks.fits, tracks.rows, ?_⟩
        intro later order key
        exact (Cache.live_evict _ order _ _).trans (tracks.cached later order key)
  | advance span wall =>
      refine ⟨tracks.fits, tracks.rows, ?_⟩
      intro later order key
      exact tracks.cached later (Nat.le_trans (s.now_le_advance span) order) key

theorem tracks_run (now : Nat) (wall : Instant) (ids : Nat → Uuid) (commands : List Command) :
    ((empty now wall ids).run commands).1.Tracks ((empty now wall ids).run commands).2 := by
  induction commands using List.reverseRecOn with
  | nil => exact tracks_empty now wall ids
  | append_singleton commands command ih =>
      rw [run_concat]
      exact ih.step command

/-! ## What is found -/

theorem Tracks.find (tracks : s.Tracks log) (key : CandleKey) :
    s.cache.find s.now key =
      .ok (((lastCached log key).filter fun write => write.isLive s.now).map
        fun write => write.row.signedByValue) := by
  unfold Cache.find
  rw [tracks.cached s.now (Nat.le_refl _)]
  cases found : lastCached log key with
  | none => rfl
  | some write =>
      have fits := tracks.fits write (List.mem_of_find?_eq_some found)
      obtain ⟨row, _ | expires⟩ := write
      · rfl
      · by_cases alive : s.now < expires
        · simp [Write.entry?, Write.isLive, CacheEntry.isLive, alive, Option.filter,
            (Candle.restores_fitting fits).decode]
        · simp [Write.entry?, Write.isLive, CacheEntry.isLive, alive, Option.filter]

def cachedAt (log : List Write) (now : Nat) (fault : Option String) (key : CandleKey) :
    Option Write :=
  if fault.isSome then none else (lastCached log key).filter fun write => write.isLive now

theorem Tracks.getOrCreate (tracks : s.Tracks log) {symbol : Symbol} {interval : Interval}
    {bucket : Bucket} {last : Write}
    (stored : lastWrite log ⟨symbol, interval, bucket.opening⟩ = some last) (seed : Decimal)
    (fault : Option String) :
    ((s.failing fault).getOrCreate symbol interval bucket seed).2 =
      .ok (match cachedAt log s.now fault ⟨symbol, interval, bucket.opening⟩ with
        | some cached => (cached.row.signedByValue, .cache)
        | none => (last.row, .durable)) := by
  have row := tracks.rows ⟨symbol, interval, bucket.opening⟩
  rw [stored] at row
  unfold Store.getOrCreate readCache failing getRow query cachedAt
  cases fault with
  | some cause =>
      dsimp only
      rw [row]
      rfl
  | none =>
      dsimp only
      rw [tracks.find, Option.isSome_none, if_neg Bool.false_ne_true]
      cases (lastCached log ⟨symbol, interval, bucket.opening⟩).filter
        fun write => write.isLive s.now with
      | none =>
          dsimp only [Option.map_none]
          rw [row]
          rfl
      | some cached => rfl

/-- A candle that was stored is found as it was stored last, unless the cache has a live text of
another candle. Only a write that the cache refused can leave such a text behind. -/
theorem found_current_iff (now : Nat) (wall : Instant) (ids : Nat → Uuid) (commands : List Command)
    (symbol : Symbol)
    (interval : Interval) (bucket : Bucket) (seed : Decimal) (fault : Option String) {last : Write}
    (stored : lastWrite ((empty now wall ids).run commands).2 ⟨symbol, interval, bucket.opening⟩ =
      some last) :
    let s := ((empty now wall ids).run commands).1
    let log := ((empty now wall ids).run commands).2
    ∃ candle origin,
      ((s.failing fault).getOrCreate symbol interval bucket seed).2 = .ok (candle, origin) ∧
        (candle.same last.row = true ↔ fault.isSome = true ∨ ∀ cached,
          lastCached log ⟨symbol, interval, bucket.opening⟩ = some cached →
            cached.isLive s.now = true → cached.row.same last.row = true) := by
  have tracks := tracks_run now wall ids commands
  dsimp only
  generalize (empty now wall ids).run commands = done at tracks stored
  have answer := tracks.getOrCreate stored seed fault
  refine ⟨_, _, answer, ?_⟩
  unfold cachedAt
  cases fault with
  | some cause => simp [Candle.same_refl]
  | none =>
      cases taken : lastCached done.2 ⟨symbol, interval, bucket.opening⟩ with
      | none => simp [Candle.same_refl]
      | some cached =>
          cases alive : cached.isLive done.1.now with
          | false => simp [alive, Option.filter, Candle.same_refl]
          | true => simp [alive, Option.filter, Candle.same_signedByValue]

def firstMinute (trades : Nat) : Candle :=
  { Candle.openBucket ⟨"BTC-USDT"⟩ .oneMinute ⟨0, 60⟩ .zero with tradeCount := trades }

theorem fits_firstMinute {trades : Nat} (few : trades ≤ Text.maxUInt64) :
    (firstMinute trades).Fits where
  opens_low := show Text.minInt64 ≤ 0 by decide
  opens_high := show 0 ≤ Text.maxInt64 by decide
  closes_low := show Text.minInt64 ≤ 60 by decide
  closes_high := show 60 ≤ Text.maxInt64 by decide
  count_le := few

def twoMinutes : Lifetime :=
  ⟨120 * Clock.second, by decide⟩

theorem exists_lost_write :
    ∃ (commands : List Command) (last : Write) (candle : Candle),
      let done := (empty 0 .epoch Uuid.serial).run commands
      lastWrite done.2 (firstMinute 0).key = some last ∧
        ((done.1.failing none).getOrCreate ⟨"BTC-USDT"⟩ .oneMinute ⟨0, 60⟩ .zero).2 =
          .ok (candle, .cache) ∧
        last.row.tradeCount = 2 ∧ candle.tradeCount = 1 := by
  let commands : List Command :=
    [.persist (firstMinute 1) (fits_firstMinute (by decide)) twoMinutes none,
      .persist (firstMinute 2) (fits_firstMinute (by decide)) twoMinutes (some "connection refused")]
  have tracks := tracks_run 0 .epoch Uuid.serial commands
  have stored : lastWrite ((empty 0 .epoch Uuid.serial).run commands).2
      ⟨⟨"BTC-USDT"⟩, .oneMinute, Bucket.opening ⟨0, 60⟩⟩ = some ⟨_, none⟩ := rfl
  have answer := tracks.getOrCreate stored .zero none
  exact ⟨commands, _, _, rfl, answer, rfl, rfl⟩

theorem expired_text_current :
    let commands : List Command :=
      [.persist (firstMinute 1) (fits_firstMinute (by decide)) twoMinutes none,
        .persist (firstMinute 2) (fits_firstMinute (by decide)) twoMinutes (some "connection refused"),
        .advance twoMinutes.nanos .epoch]
    let done := (empty 0 .epoch Uuid.serial).run commands
    ∃ last, lastWrite done.2 (firstMinute 0).key = some last ∧ last.row.tradeCount = 2 ∧
      ∃ candle origin,
        ((done.1.failing none).getOrCreate ⟨"BTC-USDT"⟩ .oneMinute ⟨0, 60⟩ .zero).2 =
          .ok (candle, origin) ∧ candle.same last.row = true := by
  intro commands done
  refine ⟨_, rfl, rfl, ?_⟩
  obtain ⟨candle, origin, found, current⟩ := found_current_iff 0 .epoch Uuid.serial commands ⟨"BTC-USDT"⟩
    .oneMinute ⟨0, 60⟩ .zero none rfl
  refine ⟨candle, origin, found, current.mpr (.inr ?_)⟩
  intro cached taken live
  cases taken
  exact absurd live (by decide)

end Store

end CandleFeed
