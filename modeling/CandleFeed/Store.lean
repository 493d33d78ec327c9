import CandleFeed.Store.Cache
import CandleFeed.Store.Rows

namespace CandleFeed

/-- The causes for which parts of the store do not answer at present. -/
structure Outage where
  cacheRead : Option String := none
  cacheWrite : Option String := none
  rowRead : Interval → Option String := fun _ => none
  rowWrite : Interval → Option String := fun _ => none

structure Store where
  cache : Cache
  rows : Rows
  outage : Outage
  now : Nat
  early : now ≤ Clock.half
  wall : Instant

inductive Origin
  | cache
  | durable
  | created
deriving DecidableEq, Repr

def Origin.name : Origin → String
  | cache => "cache"
  | durable => "durable"
  | created => "created"

namespace Store

def empty (now : Nat) (wall : Instant) (ids : Nat → Uuid) : Store where
  cache := .empty (Clock.reading now)
  rows := .empty ids
  outage := {}
  now := Clock.reading now
  early := Clock.reading_le now
  wall := wall

def advance (s : Store) (span : Nat) : Store :=
  { s with now := Clock.reading (s.now + span), early := Clock.reading_le _ }

def readCache (s : Store) (key : CandleKey) : Store × Except StoreError (Option Candle) :=
  match s.outage.cacheRead with
  | some cause => (s, .error (.cache cause))
  | none => ({ s with cache := s.cache.evict s.now key }, s.cache.find s.now key)

def query (s : Store) (interval : Interval) (run : Rows → α) : Except StoreError α :=
  match s.outage.rowRead interval with
  | some cause => .error (.durable cause)
  | none => .ok (run s.rows)

def getRow (s : Store) (key : CandleKey) : Except StoreError (Option Candle) :=
  s.query key.interval fun rows => rows.get? key

def range (s : Store) (symbol : Symbol) (interval : Interval) (start stop : Int) (limit : Nat) :
    Except StoreError (List Candle) :=
  s.query interval fun rows => rows.range symbol interval start stop limit

def latest (s : Store) (symbol : Symbol) (interval : Interval) (limit : Nat) :
    Except StoreError (List Candle) :=
  s.query interval fun rows => rows.latest symbol interval limit

def count (s : Store) (symbol : Symbol) (interval : Interval) : Except StoreError Nat :=
  s.query interval fun rows => rows.count symbol interval

def upsert (s : Store) (candle : Candle) : Except StoreError (Store × Candle) :=
  match s.outage.rowWrite candle.interval with
  | some cause => .error (.durable cause)
  | none =>
      let (rows, row) := s.rows.upsert s.wall candle
      .ok ({ s with rows := rows }, row)

theorem put_eq (s : Store) (candle : Candle) (ttl : Lifetime) :
    s.cache.put s.now candle ttl.nanos = some (s.cache.keep s.now candle (s.now + ttl.nanos)) :=
  Cache.put_eq_some_iff.mpr ⟨Clock.add_lt_limit s.early ttl.short, rfl⟩

theorem isSome_put (s : Store) (candle : Candle) (ttl : Lifetime) :
    (s.cache.put s.now candle ttl.nanos).isSome = true := by
  rw [put_eq, Option.isSome_some]

def writeCache (s : Store) (candle : Candle) (ttl : Lifetime) : Store :=
  if s.outage.cacheWrite.isSome then s
  else { s with cache := (s.cache.put s.now candle ttl.nanos).get (s.isSome_put candle ttl) }

def persist (s : Store) (candle : Candle) (ttl : Lifetime) : Except StoreError (Store × Candle) :=
  match s.upsert candle with
  | .error cause => .error cause
  | .ok (s, row) => .ok (s.writeCache row ttl, row)

/-- The candle of a bucket: from the cache, else from the table, else a new one that opens with the
price `seed`. -/
def getOrCreate (s : Store) (symbol : Symbol) (interval : Interval) (bucket : Bucket)
    (seed : Decimal) : Store × Except StoreError (Candle × Origin) :=
  let key : CandleKey := ⟨symbol, interval, bucket.opening⟩
  let (s, cached) := s.readCache key
  match cached with
  | .ok (some candle) => (s, .ok (candle, .cache))
  | .ok none | .error _ =>
      match s.getRow key with
      | .error cause => (s, .error cause)
      | .ok (some row) => (s, .ok (row, .durable))
      | .ok none => (s, .ok (.openBucket symbol interval bucket seed, .created))

theorem writeCache_eq (s : Store) (candle : Candle) (ttl : Lifetime) :
    s.writeCache candle ttl =
      if s.outage.cacheWrite.isSome then s
      else { s with cache := s.cache.keep s.now candle (s.now + ttl.nanos) } := by
  simp only [writeCache, put_eq, Option.get_some]

theorem now_le_advance (s : Store) (span : Nat) : s.now ≤ (s.advance span).now :=
  Nat.le_min.mpr ⟨Nat.le_add_right _ _, s.early⟩

theorem rows_writeCache (s : Store) (candle : Candle) (ttl : Lifetime) :
    (s.writeCache candle ttl).rows = s.rows := by
  unfold writeCache
  split <;> rfl

theorem persist_eq_ok_iff {s : Store} {candle : Candle} {ttl : Lifetime} :
    (∃ after row, s.persist candle ttl = .ok (after, row)) ↔
      s.outage.rowWrite candle.interval = none := by
  unfold persist upsert
  cases s.outage.rowWrite candle.interval <;> simp

theorem rows_persist {s after : Store} {candle row : Candle} {ttl : Lifetime}
    (ok : s.persist candle ttl = .ok (after, row)) :
    row = s.rows.rowFor s.wall candle ∧ after.rows = (s.rows.upsert s.wall candle).1 := by
  unfold persist upsert at ok
  cases blocked : s.outage.rowWrite candle.interval with
  | some cause => simp [blocked] at ok
  | none =>
      simp only [blocked, Except.ok.injEq, Prod.mk.injEq] at ok
      obtain ⟨rfl, rfl⟩ := ok
      exact ⟨rfl, rows_writeCache _ _ _⟩

theorem get?_rows_persist {s after : Store} {candle row : Candle} {ttl : Lifetime}
    (ok : s.persist candle ttl = .ok (after, row)) :
    after.rows.get? candle.key = some row := by
  obtain ⟨rfl, same⟩ := rows_persist ok
  rw [same, Rows.get?_upsert, if_pos rfl]

theorem persist_parts {s after : Store} {candle row : Candle} {ttl : Lifetime}
    (ok : s.persist candle ttl = .ok (after, row)) :
    s.outage.rowWrite candle.interval = none ∧ after.outage = s.outage ∧ after.now = s.now ∧
      after.wall = s.wall ∧
      after.cache =
        if s.outage.cacheWrite.isSome then s.cache
        else s.cache.keep s.now row (s.now + ttl.nanos) := by
  unfold persist upsert at ok
  cases blocked : s.outage.rowWrite candle.interval with
  | some cause => simp [blocked] at ok
  | none =>
      simp only [blocked, Except.ok.injEq, Prod.mk.injEq] at ok
      obtain ⟨rfl, rfl⟩ := ok
      rw [writeCache_eq]
      split <;> exact ⟨rfl, rfl, rfl, rfl, rfl⟩

theorem getOrCreate_cache (s : Store) (symbol : Symbol) (interval : Interval) (bucket : Bucket)
    (seed : Decimal) :
    let key : CandleKey := ⟨symbol, interval, bucket.opening⟩
    (s.getOrCreate symbol interval bucket seed).1 = s ∨
      (s.getOrCreate symbol interval bucket seed).1 = { s with cache := s.cache.evict s.now key } := by
  have looked (key : CandleKey) :
      (s.readCache key).1 = s ∨ (s.readCache key).1 = { s with cache := s.cache.evict s.now key } := by
    unfold readCache
    split
    · exact .inl rfl
    · exact .inr rfl
  unfold getOrCreate
  dsimp only
  split
  · exact looked _
  · split <;> exact looked _
  · split <;> exact looked _

end Store

end CandleFeed
