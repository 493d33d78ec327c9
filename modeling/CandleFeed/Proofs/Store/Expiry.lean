import CandleFeed.Proofs.Store.Coherent
import CandleFeed.Proofs.Store.Memory

/-!
# How long an entry lasts

The time to live that is told of a key is the time for which its candle is still found. It is told
in the very instant of the expiry too, when nothing is found any more, as long as the entry has not
been removed. Removed it is by the first candle that is put a minute after its expiry, if not
before.
-/

namespace CandleFeed

def Cache.Command.puts (key : CandleKey) : Cache.Command → Bool
  | .put candle _ _ => candle.key = key
  | .get _ | .ttl _ | .purge | .advance _ => false

namespace TimedCache

def entry? (c : TimedCache) (key : CandleKey) : Option CacheEntry :=
  c.cache.entries.get? key.cacheKey

def ttl? (c : TimedCache) (key : CandleKey) : Option Nat :=
  c.cache.ttl? c.now key

def Finds (c : TimedCache) (key : CandleKey) : Prop :=
  ∃ candle, c.find key = .ok (some candle)

/-- The candle of a key is found until so much time has passed, and not any more then. Whatever else
is done in between, as long as nothing is put under the key. -/
def Lasts (c : TimedCache) (key : CandleKey) (remaining : Nat) : Prop :=
  ∀ later : List Cache.Command, (∀ command ∈ later, command.puts key = false) →
    ((c.run later).Finds key ↔ (c.run later).now < c.now + remaining)

def Expiring (c : TimedCache) (key : CandleKey) : Prop :=
  ∃ entry, c.entry? key = some entry ∧ entry.expires = c.now

variable {c : TimedCache} {m : Memory} {key : CandleKey}

/-! ## The time to live -/

theorem ttl?_eq_some_iff {remaining : Nat} :
    c.ttl? key = some remaining ↔
      ∃ entry, c.entry? key = some entry ∧ entry.expires = c.now + remaining := by
  unfold ttl? Cache.ttl? entry?
  cases c.cache.entries.get? key.cacheKey with
  | none => simp
  | some entry =>
      simp only [Option.ite_none_right_eq_some, Option.some.injEq, exists_eq_left']
      omega

end TimedCache

theorem Memory.last_run {m : Memory} {key : CandleKey} {later : List Cache.Command}
    (spared : ∀ command ∈ later, command.puts key = false) : (m.run later).last key = m.last key := by
  induction later generalizing m with
  | nil => rfl
  | cons command rest ih =>
      have first := spared command List.mem_cons_self
      refine (ih fun other mem => spared other (List.mem_cons_of_mem _ mem)).trans ?_
      cases command with
      | put candle fits ttl =>
          have other : candle.key ≠ key := of_decide_eq_false first
          unfold Memory.step
          dsimp only
          split
          · rfl
          · exact if_neg (Ne.symm other)
      | _ => rfl

namespace Mirrors

variable {c : TimedCache} {m : Memory} {key : CandleKey}

theorem finds_iff (mirrors : Mirrors c m) :
    c.Finds key ↔ ∃ memento, m.last key = some memento ∧ m.now < memento.expires := by
  unfold TimedCache.Finds
  rw [mirrors.find]
  unfold Memory.remembered
  simp only [Except.ok.injEq, Option.map_eq_some_iff]
  constructor
  · rintro ⟨-, -, ⟨memento, live, -⟩, -⟩
    exact ⟨memento, Memory.live?_eq_some_iff.mp live⟩
  · rintro ⟨memento, live⟩
    exact ⟨_, _, ⟨memento, Memory.live?_eq_some_iff.mpr live, rfl⟩, rfl⟩

theorem last_of_entry (mirrors : Mirrors c m) {entry : CacheEntry} (held : c.entry? key = some entry)
    (alive : c.now < entry.expires) :
    ∃ memento, m.last key = some memento ∧ memento.expires = entry.expires := by
  have live : c.cache.live? m.now key.cacheKey = some entry := by
    rw [← mirrors.now]
    exact Option.filter_eq_some_iff.mpr ⟨held, decide_eq_true alive⟩
  obtain ⟨own, memento, remembered, same, rfl⟩ :=
    (mirrors.live m.now (Nat.le_refl _) key.cacheKey entry).mp live
  rw [CandleKey.cacheKey_injective same] at remembered
  exact ⟨memento, (Memory.live?_eq_some_iff.mp remembered).1, rfl⟩

theorem exists_entry_of_finds (mirrors : Mirrors c m) (found : c.Finds key) :
    ∃ entry, c.entry? key = some entry ∧ c.now < entry.expires := by
  obtain ⟨memento, last, alive⟩ := mirrors.finds_iff.mp found
  have live := (mirrors.live m.now (Nat.le_refl _) key.cacheKey memento.entry).mpr
    ⟨key, memento, Memory.live?_eq_some_iff.mpr ⟨last, alive⟩, rfl, rfl⟩
  rw [mirrors.now]
  exact ⟨memento.entry, (Option.filter_eq_some_iff.mp live).1, alive⟩

theorem lasts (mirrors : Mirrors c m) {entry : CacheEntry} {remaining : Nat}
    (held : c.entry? key = some entry) (expires : entry.expires = c.now + remaining)
    (positive : 0 < remaining) : c.Lasts key remaining := by
  obtain ⟨memento, last, same⟩ := mirrors.last_of_entry held (by omega)
  intro later spared
  have after := mirrors.run later
  rw [after.finds_iff, Memory.last_run spared, last, after.now, ← expires, ← same]
  simp

theorem ttl?_eq_some_iff_lasts (mirrors : Mirrors c m) {remaining : Nat} (positive : 0 < remaining) :
    c.ttl? key = some remaining ↔ c.Lasts key remaining := by
  rw [TimedCache.ttl?_eq_some_iff]
  constructor
  · rintro ⟨entry, held, expires⟩
    exact mirrors.lasts held expires positive
  · intro lasts
    have found : c.Finds key := (lasts [] (List.forall_mem_nil _)).mpr (Nat.lt_add_of_pos_right positive)
    obtain ⟨entry, held, alive⟩ := mirrors.exists_entry_of_finds found
    refine ⟨entry, held, ?_⟩
    -- two times for which the candle lasts are the same: nothing is done, and time passes
    have own : c.Lasts key (entry.expires - c.now) := mirrors.lasts held (by omega) (by omega)
    have both (span : Nat) : c.now + span < c.now + remaining ↔
        c.now + span < c.now + (entry.expires - c.now) :=
      (lasts [.advance span] (by simp [Cache.Command.puts])).symm.trans
        (own [.advance span] (by simp [Cache.Command.puts]))
    have first := both remaining
    have second := both (entry.expires - c.now)
    omega

end Mirrors

/-- Whatever is done to a cache: a key has some time to live exactly if its candle is found, and it
is found for exactly this time. Only when its entry expires this very instant, and is in the cache
yet, the time to live is told of a key that is not found; it is zero then. -/
theorem ttl?_iff_lasts (start : Nat) (commands : List Cache.Command) (key : CandleKey) :
    let c := (TimedCache.create start).run commands
    (∀ remaining, 0 < remaining → (c.ttl? key = some remaining ↔ c.Lasts key remaining)) ∧
    (c.Finds key ↔ ∃ remaining, 0 < remaining ∧ c.ttl? key = some remaining) ∧
    (c.ttl? key = some 0 ↔ c.Expiring key) ∧
    (((c.ttl? key).isSome = true ↔ c.Finds key) ↔ ¬ c.Expiring key) := by
  intro c
  have mirrors : Mirrors c ((Memory.create start).run commands) := (Mirrors.create start).run commands
  have found_iff : c.Finds key ↔ ∃ remaining, 0 < remaining ∧ c.ttl? key = some remaining := by
    constructor
    · intro found
      obtain ⟨entry, held, alive⟩ := mirrors.exists_entry_of_finds found
      exact ⟨entry.expires - c.now, by omega,
        TimedCache.ttl?_eq_some_iff.mpr ⟨entry, held, by omega⟩⟩
    · rintro ⟨remaining, positive, told⟩
      have lasts := (mirrors.ttl?_eq_some_iff_lasts positive).mp told
      exact (lasts [] (List.forall_mem_nil _)).mpr (Nat.lt_add_of_pos_right positive)
  have zero_iff : c.ttl? key = some 0 ↔ c.Expiring key := TimedCache.ttl?_eq_some_iff
  refine ⟨fun remaining positive => mirrors.ttl?_eq_some_iff_lasts positive, found_iff, zero_iff, ?_⟩
  rw [← zero_iff, found_iff]
  cases c.ttl? key with
  | none => simp
  | some remaining =>
      cases remaining with
      | zero => simp
      | succ less => simp

theorem exists_ttl_of_expired :
    ∃ (commands : List Cache.Command) (key : CandleKey),
      let c := (TimedCache.create 0).run commands
      (c.ttl? key).isSome = true ∧ c.find key = .ok none := by
  let commands : List Cache.Command :=
    [.put (Store.firstMinute 1) (Store.fits_firstMinute (by decide)) 1000, .advance 1000]
  refine ⟨commands, (Store.firstMinute 1).key, ?_⟩
  have told : ((TimedCache.create 0).run commands).ttl? (Store.firstMinute 1).key = some 0 :=
    TimedCache.ttl?_eq_some_iff.mpr ⟨_, rfl, rfl⟩
  refine ⟨Option.isSome_of_eq_some told, ?_⟩
  rw [((Mirrors.create 0).run commands).find]
  rfl

/-! ## Sweeps -/

namespace TimedCache

def SweepDue (c : TimedCache) : Prop :=
  c.cache.lastSweep + Cache.sweepInterval ≤ c.now

def Sweeps (c : TimedCache) (command : Cache.Command) : Prop :=
  (c.step command).cache.lastSweep ≠ c.cache.lastSweep

instance (c : TimedCache) (command : Cache.Command) : Decidable (c.Sweeps command) :=
  inferInstanceAs (Decidable (_ ≠ _))

def sweepTimes (c : TimedCache) : List Cache.Command → List Nat
  | [] => []
  | command :: rest =>
      if c.Sweeps command then c.now :: (c.step command).sweepTimes rest
      else (c.step command).sweepTimes rest

variable {c : TimedCache}

theorem keep_of_sweepDue (due : c.SweepDue) (candle : Candle) (expires : Nat) :
    c.cache.keep c.now candle expires =
      ⟨(c.cache.entries.insert candle.key.cacheKey
        ⟨Candle.codec.encode candle, expires⟩).filter fun _ entry => entry.isLive c.now, c.now⟩ := by
  have long : ¬ c.now - c.cache.lastSweep < Cache.sweepInterval := by
    unfold SweepDue Cache.sweepInterval Clock.second at *
    omega
  exact if_neg long

theorem keep_of_not_sweepDue (recent : ¬ c.SweepDue) (candle : Candle) (expires : Nat) :
    c.cache.keep c.now candle expires =
      ⟨c.cache.entries.insert candle.key.cacheKey ⟨Candle.codec.encode candle, expires⟩,
        c.cache.lastSweep⟩ := by
  have short : c.now - c.cache.lastSweep < Cache.sweepInterval := by
    unfold SweepDue Cache.sweepInterval Clock.second at *
    omega
  exact if_pos short

theorem step_put (c : TimedCache) (candle : Candle) (fits : candle.Fits) (ttl : Nat) :
    c.step (.put candle fits ttl) =
      if c.now + ttl < Clock.limit then { c with cache := c.cache.keep c.now candle (c.now + ttl) }
      else c := by
  unfold step
  dsimp only
  split
  · rename_i early
    rw [Cache.put_eq_some_iff.mpr ⟨early, rfl⟩, Option.getD_some]
  · rename_i late
    rw [Cache.put_eq_none_iff.mpr (Nat.le_of_not_lt late), Option.getD_none]

theorem lastSweep_evict (c : Cache) (now : Nat) (key : CandleKey) :
    (c.evict now key).lastSweep = c.lastSweep := by
  unfold Cache.evict
  split <;> rfl

theorem sweeps_iff {command : Cache.Command} :
    c.Sweeps command ↔
      (∃ candle fits ttl, command = .put candle fits ttl ∧ c.now + ttl < Clock.limit) ∧ c.SweepDue := by
  cases command with
  | put candle fits ttl =>
      unfold Sweeps
      rw [step_put]
      by_cases early : c.now + ttl < Clock.limit
      · rw [if_pos early]
        by_cases due : c.SweepDue
        · have later : c.now ≠ c.cache.lastSweep := by
            unfold SweepDue Cache.sweepInterval Clock.second at due
            omega
          rw [keep_of_sweepDue due]
          exact ⟨fun _ => ⟨⟨candle, fits, ttl, rfl, early⟩, due⟩, fun _ => later⟩
        · rw [keep_of_not_sweepDue due]
          exact ⟨fun sweeps => absurd rfl sweeps, fun both => absurd both.2 due⟩
      · rw [if_neg early]
        refine ⟨fun sweeps => absurd rfl sweeps, ?_⟩
        rintro ⟨⟨_, _, _, same, early'⟩, -⟩
        cases same
        exact absurd early' early
  | get key => simp [Sweeps, step, lastSweep_evict]
  | ttl key => simp [Sweeps, step]
  | purge => simp [Sweeps, step, Cache.purge]
  | advance span => simp [Sweeps, step]

theorem lastSweep_of_sweeps {command : Cache.Command} (sweeps : c.Sweeps command) :
    (c.step command).cache.lastSweep = c.now := by
  obtain ⟨⟨candle, fits, ttl, rfl, early⟩, due⟩ := sweeps_iff.mp sweeps
  rw [step_put, if_pos early, keep_of_sweepDue due]

theorem sweepTimes_apart (c : TimedCache) (commands : List Cache.Command) :
    (c.cache.lastSweep :: c.sweepTimes commands).Pairwise fun earlier later =>
      earlier + Cache.sweepInterval ≤ later := by
  induction commands generalizing c with
  | nil => exact List.pairwise_singleton _ _
  | cons command rest ih =>
      -- to the rest, a command that sweeps is the last sweep, and to any other the last one stays
      have after := ih (c.step command)
      unfold sweepTimes
      split
      · rename_i sweeps
        rw [lastSweep_of_sweeps sweeps] at after
        have due : c.cache.lastSweep + Cache.sweepInterval ≤ c.now := (sweeps_iff.mp sweeps).2
        refine List.pairwise_cons.mpr ⟨?_, after⟩
        intro time mem
        rcases List.mem_cons.mp mem with rfl | mem
        · exact due
        · have apart := List.rel_of_pairwise_cons after mem
          omega
      · rename_i spared
        rwa [Decidable.not_not.mp spared] at after

end TimedCache

structure Swept (c : TimedCache) : Prop where
  past : c.cache.lastSweep ≤ c.now
  kept : ∀ text entry, c.cache.entries.get? text = some entry → c.cache.lastSweep ≤ entry.expires

namespace Swept

variable {c : TimedCache}

theorem create (start : Nat) : Swept (.create start) where
  past := Nat.le_refl start
  kept _ _ found := by cases found

theorem of_keep (swept : Swept c) {candle : Candle} {expires : Nat} (alive : c.now ≤ expires)
    {text : String} {entry : CacheEntry}
    (found : (c.cache.keep c.now candle expires).entries.get? text = some entry) :
    c.now < entry.expires + Cache.sweepInterval := by
  have minute : 0 < Cache.sweepInterval := by decide
  by_cases due : c.SweepDue
  · rw [TimedCache.keep_of_sweepDue due, Table.get?_filter, Option.filter_eq_some_iff] at found
    have alive : c.now < entry.expires := of_decide_eq_true found.2
    omega
  · rw [TimedCache.keep_of_not_sweepDue due, Table.get?_insert] at found
    -- nothing is swept, but what expired before the last sweep had gone then
    have recent : c.now < c.cache.lastSweep + Cache.sweepInterval := Nat.lt_of_not_le due
    split at found
    · cases found
      dsimp only
      omega
    · have kept := swept.kept text entry found
      omega

theorem put (swept : Swept c) {candle : Candle} {ttl : Nat} {after : Cache}
    (done : c.cache.put c.now candle ttl = some after) {text : String} {entry : CacheEntry}
    (found : after.entries.get? text = some entry) :
    c.now < entry.expires + Cache.sweepInterval := by
  obtain ⟨-, rfl⟩ := Cache.put_eq_some_iff.mp done
  exact swept.of_keep (Nat.le_add_right _ _) found

theorem of_fewer {d : TimedCache} (swept : Swept c) (sweep : d.cache.lastSweep = c.cache.lastSweep)
    (order : c.now ≤ d.now) (fewer : ∀ text entry, d.cache.entries.get? text = some entry →
      c.cache.entries.get? text = some entry) : Swept d where
  past := by
    rw [sweep]
    exact Nat.le_trans swept.past order
  kept text entry found := by
    rw [sweep]
    exact swept.kept text entry (fewer text entry found)

theorem keep (swept : Swept c) (candle : Candle) {expires : Nat} (alive : c.now ≤ expires) :
    Swept { c with cache := c.cache.keep c.now candle expires } := by
  by_cases due : c.SweepDue
  · rw [TimedCache.keep_of_sweepDue due]
    refine ⟨Nat.le_refl c.now, ?_⟩
    intro text entry found
    rw [Table.get?_filter, Option.filter_eq_some_iff] at found
    exact Nat.le_of_lt (of_decide_eq_true found.2)
  · rw [TimedCache.keep_of_not_sweepDue due]
    refine ⟨swept.past, ?_⟩
    intro text entry found
    rw [Table.get?_insert] at found
    split at found
    · cases found
      exact Nat.le_trans swept.past alive
    · exact swept.kept text entry found

theorem step (swept : Swept c) (command : Cache.Command) : Swept (c.step command) := by
  cases command with
  | put candle fits ttl =>
      rw [TimedCache.step_put]
      split
      · exact swept.keep candle (Nat.le_add_right _ _)
      · exact swept
  | get key =>
      exact swept.of_fewer (TimedCache.lastSweep_evict _ _ _) (Nat.le_refl _) fun _ _ =>
        Store.get?_evict
  | ttl key => exact swept
  | purge => exact swept.of_fewer rfl (Nat.le_refl _) fun _ _ => Store.get?_purge
  | advance millis => exact swept.of_fewer rfl (Nat.le_add_right _ _) fun _ _ found => found

theorem run (swept : Swept c) (commands : List Cache.Command) : Swept (c.run commands) := by
  induction commands generalizing c with
  | nil => exact swept
  | cons command rest ih => exact ih (swept.step command)

end Swept

theorem TimedCache.stays_of_live {c : TimedCache} {text : String} {entry : CacheEntry}
    (held : c.cache.entries.get? text = some entry) (alive : c.now < entry.expires)
    (command : Cache.Command)
    (other : ∀ candle fits ttl, command = .put candle fits ttl → text ≠ candle.key.cacheKey) :
    (c.step command).cache.entries.get? text = some entry := by
  have live : c.cache.live? c.now text = some entry :=
    Option.filter_eq_some_iff.mpr ⟨held, decide_eq_true alive⟩
  have order := Nat.le_refl c.now
  suffices after : (c.step command).cache.live? c.now text = some entry from
    (Option.filter_eq_some_iff.mp after).1
  rw [← live]
  cases command with
  | put candle fits ttl =>
      rw [step_put]
      split
      · exact Cache.live_keep_other _ order (other candle fits ttl rfl) _
      · rfl
  | get key => exact Cache.live_evict _ order key text
  | ttl key => rfl
  | purge => exact Cache.live_purge _ order text
  | advance millis => rfl

/-- Whatever is done to a cache, and whatever times to live are asked for: when something was put,
no entry is in the cache that expired a minute ago, so none stays that had expired a minute before.
A put is broken off, and changes nothing, only if it would expire at no instant. The cache is swept
by puts only, never twice in a minute, and what is live stays until it is replaced. -/
theorem swept_run (start : Nat) (commands : List Cache.Command) :
    let c := (TimedCache.create start).run commands
    (∀ candle ttl after, c.cache.put c.now candle ttl = some after →
      (∀ text entry, after.entries.get? text = some entry →
        c.now < entry.expires + 60 * Clock.second) ∧
      ∀ text entry, c.cache.entries.get? text = some entry →
        entry.expires + 60 * Clock.second ≤ c.now → after.entries.get? text ≠ some entry) ∧
    (∀ candle fits ttl,
      (c.cache.put c.now candle ttl = none ↔ Clock.limit ≤ c.now + ttl) ∧
      (∀ after, c.cache.put c.now candle ttl = some after →
        c.step (.put candle fits ttl) = { c with cache := after }) ∧
      (Clock.limit ≤ c.now + ttl → c.step (.put candle fits ttl) = c)) ∧
    (∀ command, c.Sweeps command ↔
      (∃ candle fits ttl, command = .put candle fits ttl ∧ c.now + ttl < Clock.limit) ∧
        c.cache.lastSweep + 60 * Clock.second ≤ c.now) ∧
    (start :: (TimedCache.create start).sweepTimes commands).Pairwise (fun earlier later =>
      earlier + 60 * Clock.second ≤ later) ∧
    ∀ text entry, c.cache.entries.get? text = some entry → c.now < entry.expires → ∀ command,
      (∀ candle fits ttl, command = .put candle fits ttl → text ≠ candle.key.cacheKey) →
      (c.step command).cache.entries.get? text = some entry := by
  intro c
  have swept : Swept c := (Swept.create start).run commands
  refine ⟨?_, ?_, ?_, ?_, ?_⟩
  · intro candle ttl after done
    refine ⟨fun text entry => swept.put done, ?_⟩
    intro text entry _ long found
    exact Nat.not_lt.mpr long (swept.put done found)
  · intro candle fits ttl
    refine ⟨Cache.put_eq_none_iff, ?_, fun late => TimedCache.step_put_of_late late fits⟩
    intro after done
    unfold TimedCache.step
    dsimp only
    rw [done, Option.getD_some]
  · intro command
    exact TimedCache.sweeps_iff
  · exact TimedCache.sweepTimes_apart (.create start) commands
  · intro text entry held alive command other
    exact TimedCache.stays_of_live held alive command other

end CandleFeed
