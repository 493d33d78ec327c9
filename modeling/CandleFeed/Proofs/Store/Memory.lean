import CandleFeed.Proofs.Store.Failing

/-!
# A cache is a memory of the last candles

A memory knows for each key the candle that was put last, and until when it is to be found. A cache
answers as this memory does: what it removes, at whatever time, would not have been found any more.
-/

namespace CandleFeed

inductive Cache.Command
  | put (candle : Candle) (fits : candle.Fits) (ttl : Nat)
  | get (key : CandleKey)
  | ttl (key : CandleKey)
  | purge
  | advance (span : Nat)

structure TimedCache where
  cache : Cache
  now : Nat

namespace TimedCache

def create (start : Nat) : TimedCache :=
  ⟨.empty start, start⟩

def step (c : TimedCache) : Cache.Command → TimedCache
  | .put candle _ ttl => { c with cache := (c.cache.put c.now candle ttl).getD c.cache }
  | .get key => { c with cache := c.cache.evict c.now key }
  | .ttl _ => c
  | .purge => { c with cache := c.cache.purge c.now }
  | .advance span => { c with now := c.now + span }

def run (c : TimedCache) (commands : List Cache.Command) : TimedCache :=
  commands.foldl step c

def find (c : TimedCache) (key : CandleKey) : Except StoreError (Option Candle) :=
  c.cache.find c.now key

theorem step_put_of_late {c : TimedCache} {candle : Candle} {ttl : Nat}
    (late : Clock.limit ≤ c.now + ttl) (fits : candle.Fits) : c.step (.put candle fits ttl) = c := by
  unfold step
  dsimp only
  rw [Cache.put_eq_none_iff.mpr late]
  rfl

end TimedCache

structure Memento where
  candle : Candle
  expires : Nat

def Memento.entry (m : Memento) : CacheEntry :=
  ⟨Candle.codec.encode m.candle, m.expires⟩

structure Memory where
  last : CandleKey → Option Memento
  now : Nat

namespace Memory

def create (start : Nat) : Memory :=
  ⟨fun _ => none, start⟩

def step (m : Memory) : Cache.Command → Memory
  | .put candle _ ttl =>
      match Clock.after? m.now ttl with
      | none => m
      | some expires =>
          { m with last := fun key => if key = candle.key then some ⟨candle, expires⟩ else m.last key }
  | .advance span => { m with now := m.now + span }
  | .get _ | .ttl _ | .purge => m

def run (m : Memory) (commands : List Cache.Command) : Memory :=
  commands.foldl step m

theorem step_put_of_late {m : Memory} {candle : Candle} {ttl : Nat}
    (late : Clock.limit ≤ m.now + ttl) (fits : candle.Fits) : m.step (.put candle fits ttl) = m := by
  unfold step
  dsimp only
  rw [Clock.after?_eq_none_iff.mpr late]

def live? (m : Memory) (later : Nat) (key : CandleKey) : Option Memento :=
  (m.last key).filter fun memento => later < memento.expires

def remembered (m : Memory) (key : CandleKey) : Option Candle :=
  (m.live? m.now key).map Memento.candle

theorem live?_eq_some_iff {m : Memory} {later : Nat} {key : CandleKey} {memento : Memento} :
    m.live? later key = some memento ↔ m.last key = some memento ∧ later < memento.expires := by
  unfold live?
  rw [Option.filter_eq_some_iff, decide_eq_true_eq]

def keep (m : Memory) (candle : Candle) (expires : Nat) : Memory :=
  { m with last := fun key => if key = candle.key then some ⟨candle, expires⟩ else m.last key }

theorem live?_keep (m : Memory) (candle : Candle) (expires later : Nat) (key : CandleKey) :
    (m.keep candle expires).live? later key =
      if key = candle.key then if later < expires then some ⟨candle, expires⟩ else none
      else m.live? later key := by
  unfold keep live?
  by_cases own : key = candle.key
  · by_cases alive : later < expires <;> simp [own, alive, Option.filter]
  · simp [own]

end Memory

/-- Now and later, the cache has the texts of the live candles, each under the text of its key, and
no other live text. -/
structure Mirrors (c : TimedCache) (m : Memory) : Prop where
  now : c.now = m.now
  own : ∀ key memento, m.last key = some memento → memento.candle.key = key ∧ memento.candle.Fits
  live : ∀ later, m.now ≤ later → ∀ text entry, c.cache.live? later text = some entry ↔
    ∃ key memento, m.live? later key = some memento ∧ key.cacheKey = text ∧ memento.entry = entry

namespace Mirrors

variable {c : TimedCache} {m : Memory}

theorem create (start : Nat) : Mirrors (.create start) (.create start) where
  now := rfl
  own _ _ found := by cases found
  live later _ text entry := by
    constructor
    · intro found
      cases found
    · rintro ⟨key, memento, found, -⟩
      cases found

theorem keep (mirrors : Mirrors c m) {candle : Candle} (fits : candle.Fits) (expires : Nat) :
    Mirrors { c with cache := c.cache.keep c.now candle expires } (m.keep candle expires) where
  now := mirrors.now
  own key memento found := by
    unfold Memory.keep at found
    dsimp only at found
    split at found
    · rename_i own
      cases found
      exact ⟨own.symm, fits⟩
    · exact mirrors.own key memento found
  live later order text entry := by
    have order : m.now ≤ later := order
    change (c.cache.keep c.now candle expires).live? later text = _ ↔ _
    simp only [Memory.live?_keep]
    rw [mirrors.now]
    by_cases own : text = candle.key.cacheKey
    · rw [own, Cache.live_keep_self _ order]
      constructor
      · intro found
        split at found
        · rename_i alive
          cases found
          exact ⟨candle.key, ⟨candle, expires⟩, by rw [if_pos rfl, if_pos alive], rfl, rfl⟩
        · cases found
      · rintro ⟨key, memento, found, same, rfl⟩
        rw [if_pos (CandleKey.cacheKey_injective same)] at found
        split at found
        · rename_i alive
          cases found
          exact if_pos alive
        · cases found
    · rw [Cache.live_keep_other _ order own, mirrors.live later order]
      have apart {key : CandleKey} (same : key.cacheKey = text) : key ≠ candle.key := by
        rintro rfl
        exact own same.symm
      constructor
      · rintro ⟨key, memento, found, same, written⟩
        exact ⟨key, memento, by rw [if_neg (apart same), found], same, written⟩
      · rintro ⟨key, memento, found, same, written⟩
        rw [if_neg (apart same)] at found
        exact ⟨key, memento, found, same, written⟩

theorem put (mirrors : Mirrors c m) {candle : Candle} (fits : candle.Fits) (ttl : Nat) :
    Mirrors (c.step (.put candle fits ttl)) (m.step (.put candle fits ttl)) := by
  have same : Clock.after? c.now ttl = Clock.after? m.now ttl := by rw [mirrors.now]
  unfold TimedCache.step Memory.step Cache.put
  dsimp only
  rw [same]
  cases Clock.after? m.now ttl with
  | none => exact mirrors
  | some expires => exact mirrors.keep fits expires

theorem step (mirrors : Mirrors c m) (command : Cache.Command) :
    Mirrors (c.step command) (m.step command) := by
  cases command with
  | put candle fits ttl => exact mirrors.put fits ttl
  | get key =>
      refine ⟨mirrors.now, mirrors.own, ?_⟩
      intro later (order : m.now ≤ later) text entry
      change (c.cache.evict c.now key).live? later text = _ ↔ _
      rw [mirrors.now, Cache.live_evict _ order]
      exact mirrors.live later order text entry
  | ttl key => exact mirrors
  | purge =>
      refine ⟨mirrors.now, mirrors.own, ?_⟩
      intro later (order : m.now ≤ later) text entry
      change (c.cache.purge c.now).live? later text = _ ↔ _
      rw [mirrors.now, Cache.live_purge _ order]
      exact mirrors.live later order text entry
  | advance span =>
      -- `live` is about all the time to come, of which a part is over now
      refine ⟨congrArg (· + span) mirrors.now, mirrors.own, ?_⟩
      intro later order
      exact mirrors.live later (Nat.le_trans (Nat.le_add_right _ _) order)

theorem run (mirrors : Mirrors c m) (commands : List Cache.Command) :
    Mirrors (c.run commands) (m.run commands) := by
  induction commands generalizing c m with
  | nil => exact mirrors
  | cons command rest ih => exact ih (mirrors.step command)

theorem find (mirrors : Mirrors c m) (key : CandleKey) :
    c.find key = .ok ((m.remembered key).map Candle.signedByValue) := by
  have current := mirrors.live m.now (Nat.le_refl _) key.cacheKey
  unfold TimedCache.find Cache.find Memory.remembered
  rw [mirrors.now]
  cases remembered : m.live? m.now key with
  | none =>
      have missing : c.cache.live? m.now key.cacheKey = none := by
        rw [Option.eq_none_iff_forall_ne_some]
        intro entry found
        obtain ⟨other, memento, found, same, -⟩ := (current entry).mp found
        rw [CandleKey.cacheKey_injective same, remembered] at found
        cases found
      rw [missing]
      rfl
  | some memento =>
      obtain ⟨last, -⟩ := Memory.live?_eq_some_iff.mp remembered
      have restored := (Candle.restores_fitting (mirrors.own key memento last).2).decode
      rw [(current memento.entry).mpr ⟨key, memento, remembered, rfl, rfl⟩]
      dsimp only [Memento.entry]
      rw [restored]
      rfl

end Mirrors

def Cache.Command.evicts : Cache.Command → Bool
  | .get _ | .ttl _ | .purge => true
  | .put _ _ _ | .advance _ => false

theorem Memory.run_filter (m : Memory) (commands : List Cache.Command) :
    m.run (commands.filter fun command => !command.evicts) = m.run commands := by
  induction commands generalizing m with
  | nil => rfl
  | cons command rest ih => cases command <;> exact ih _

/-- Whatever is done to a cache, at whatever times: it finds the candle that was put last under a
key, up to the sign of a zero, and only while its time to live is not over. Its live entries are
those of these candles, and it would find the same had nothing been looked up or purged. A put that
would expire at no instant is broken off, and counts for nothing; every other one comes off. -/
theorem find_run_eq_remembered (start : Nat) (commands : List Cache.Command) :
    let c := (TimedCache.create start).run commands
    let m := (Memory.create start).run commands
    c.now = m.now ∧
    (∀ key, c.find key = .ok ((m.remembered key).map Candle.signedByValue)) ∧
    (∀ key candle, m.remembered key = some candle →
      candle.key = key ∧ candle.signedByValue.same candle = true) ∧
    (∀ text entry, c.cache.live? c.now text = some entry ↔ ∃ key memento,
      m.live? m.now key = some memento ∧ key.cacheKey = text ∧ memento.entry = entry) ∧
    (∀ candle fits ttl,
      (c.cache.put c.now candle ttl = none ↔ Clock.limit ≤ c.now + ttl) ∧
      (Clock.limit ≤ c.now + ttl →
        c.step (.put candle fits ttl) = c ∧ m.step (.put candle fits ttl) = m)) ∧
    ∀ key, c.find key =
      ((TimedCache.create start).run (commands.filter fun command => !command.evicts)).find key := by
  intro c m
  have mirrors : Mirrors c m := (Mirrors.create start).run commands
  have undisturbed := (Mirrors.create start).run (commands.filter fun command => !command.evicts)
  rw [Memory.run_filter] at undisturbed
  refine ⟨mirrors.now, mirrors.find, ?_, ?_, ?_, ?_⟩
  · intro key candle recalled
    obtain ⟨memento, live, rfl⟩ := Option.map_eq_some_iff.mp recalled
    obtain ⟨own, -⟩ := mirrors.own key memento (Memory.live?_eq_some_iff.mp live).1
    exact ⟨own, by rw [Candle.same_signedByValue, Candle.same_refl]⟩
  · rw [mirrors.now]
    exact mirrors.live m.now (Nat.le_refl _)
  · intro candle fits ttl
    refine ⟨Cache.put_eq_none_iff, fun late => ⟨?_, ?_⟩⟩
    · exact TimedCache.step_put_of_late late fits
    · exact Memory.step_put_of_late (mirrors.now ▸ late) fits
  · intro key
    rw [mirrors.find, undisturbed.find]

end CandleFeed
