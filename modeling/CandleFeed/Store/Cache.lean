import CandleFeed.Candle
import CandleFeed.Clock
import CandleFeed.Store.Error
import CandleFeed.Table

/-!
# The candle cache

Candles as JSON text under the text of their key, each until it expires. An entry is expired from
the very instant of its expiry on. Expired entries go when they are looked up, when all are purged,
and once a minute when something is put.
-/

namespace CandleFeed

structure CacheEntry where
  text : String
  expires : Nat
deriving DecidableEq

def CacheEntry.isLive (entry : CacheEntry) (now : Nat) : Bool :=
  now < entry.expires

structure Cache where
  entries : Table String CacheEntry
  lastSweep : Nat

namespace Cache

def empty (now : Nat) : Cache :=
  ⟨.empty, now⟩

def sweepInterval : Nat := 60 * Clock.second

def size (c : Cache) : Nat :=
  c.entries.size

def live? (c : Cache) (now : Nat) (key : String) : Option CacheEntry :=
  (c.entries.get? key).filter fun entry => entry.isLive now

def purge (c : Cache) (now : Nat) : Cache :=
  { c with entries := c.entries.filter fun _ entry => entry.isLive now }

def sweep (c : Cache) (now : Nat) : Cache :=
  if now - c.lastSweep < sweepInterval then c else { c.purge now with lastSweep := now }

def keep (c : Cache) (now : Nat) (candle : Candle) (expires : Nat) : Cache :=
  let entry : CacheEntry := ⟨Candle.codec.encode candle, expires⟩
  { c with entries := c.entries.insert candle.key.cacheKey entry }.sweep now

/-- Puts a candle for so long. Where this leads to no instant, the call is broken off before
anything was changed. -/
def put (c : Cache) (now : Nat) (candle : Candle) (ttl : Nat) : Option Cache :=
  (Clock.after? now ttl).map (c.keep now candle)

def find (c : Cache) (now : Nat) (key : CandleKey) : Except StoreError (Option Candle) :=
  match c.live? now key.cacheKey with
  | none => .ok none
  | some entry =>
      match Candle.codec.decode entry.text.toList with
      | .ok candle => .ok (some candle)
      | .error _ => .error (.serialization "the text is not a candle")

def evict (c : Cache) (now : Nat) (key : CandleKey) : Cache :=
  match c.live? now key.cacheKey with
  | none => { c with entries := c.entries.erase key.cacheKey }
  | some _ => c

/-- How long the entry of a key has still to go; nothing if its expiry has passed. -/
def ttl? (c : Cache) (now : Nat) (key : CandleKey) : Option Nat :=
  match c.entries.get? key.cacheKey with
  | none => none
  | some entry => if now ≤ entry.expires then some (entry.expires - now) else none

theorem live_purge (c : Cache) {now later : Nat} (order : now ≤ later) (key : String) :
    (c.purge now).live? later key = c.live? later key := by
  simp only [live?, purge, Table.get?_filter]
  cases c.entries.get? key with
  | none => rfl
  | some entry =>
      by_cases alive : later < entry.expires
      · have before : now < entry.expires := by omega
        simp [Option.filter, CacheEntry.isLive, alive, before]
      · by_cases before : now < entry.expires <;>
          simp [Option.filter, CacheEntry.isLive, alive, before]

theorem live_sweep (c : Cache) {now later : Nat} (order : now ≤ later) (key : String) :
    (c.sweep now).live? later key = c.live? later key := by
  unfold sweep
  split
  · rfl
  · exact live_purge c order key

theorem put_eq_some_iff {c after : Cache} {now : Nat} {candle : Candle} {ttl : Nat} :
    c.put now candle ttl = some after ↔
      now + ttl < Clock.limit ∧ c.keep now candle (now + ttl) = after := by
  unfold put
  simp only [Option.map_eq_some_iff, Clock.after?_eq_some_iff]
  constructor
  · rintro ⟨expires, ⟨early, rfl⟩, same⟩
    exact ⟨early, same⟩
  · rintro ⟨early, same⟩
    exact ⟨now + ttl, ⟨early, rfl⟩, same⟩

theorem put_eq_none_iff {c : Cache} {now : Nat} {candle : Candle} {ttl : Nat} :
    c.put now candle ttl = none ↔ Clock.limit ≤ now + ttl := by
  rw [put, Option.map_eq_none_iff, Clock.after?_eq_none_iff]

theorem live_keep_self (c : Cache) {now later : Nat} (order : now ≤ later) (candle : Candle)
    (expires : Nat) :
    (c.keep now candle expires).live? later candle.key.cacheKey =
      if later < expires then some ⟨Candle.codec.encode candle, expires⟩ else none := by
  rw [keep, live_sweep _ order]
  simp only [live?, Table.get?_insert_self]
  by_cases alive : later < expires <;> simp [Option.filter, CacheEntry.isLive, alive]

end Cache

end CandleFeed
