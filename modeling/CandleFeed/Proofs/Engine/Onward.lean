import CandleFeed.Proofs.Decimal.Value
import CandleFeed.Proofs.Engine.Refinement
import CandleFeed.Proofs.Engine.Stepwise

namespace CandleFeed

namespace Candle

/-- `later` is `earlier` after some commands, in a run of so many. The count of trades is a word of
64 bits, so that it goes on as long as the commands can be counted in such a word. -/
structure Onward (commands : Nat) (earlier later : Candle) : Prop where
  id : later.id = earlier.id
  key : later.key = earlier.key
  openPrice : later.openPrice = earlier.openPrice
  closeTime : later.closeTime = earlier.closeTime
  high : earlier.highPrice ≤ later.highPrice
  low : later.lowPrice ≤ earlier.lowPrice
  volume : earlier.volume ≤ later.volume
  quoteAmount : earlier.quoteAmount ≤ later.quoteAmount
  count : commands < UInt64.size → earlier.tradeCount ≤ later.tradeCount
  completed : earlier.completed = true → later.completed = true

theorem Onward.refl (commands : Nat) (c : Candle) : c.Onward commands c where
  id := rfl
  key := rfl
  openPrice := rfl
  closeTime := rfl
  high := Decimal.le_refl _
  low := Decimal.le_refl _
  volume := Decimal.le_refl _
  quoteAmount := Decimal.le_refl _
  count _ := Nat.le_refl _
  completed done := done

theorem Onward.trans {commands more : Nat} {a b c : Candle} (first : a.Onward commands b)
    (second : b.Onward more c) (few : commands ≤ more) : a.Onward more c where
  id := second.id.trans first.id
  key := second.key.trans first.key
  openPrice := second.openPrice.trans first.openPrice
  closeTime := second.closeTime.trans first.closeTime
  high := Decimal.le_trans first.high second.high
  low := Decimal.le_trans second.low first.low
  volume := Decimal.le_trans first.volume second.volume
  quoteAmount := Decimal.le_trans first.quoteAmount second.quoteAmount
  count counted := (first.count (few.trans_lt counted)).trans (second.count counted)
  completed := second.completed ∘ first.completed

theorem Onward.mono {commands more : Nat} {a b : Candle} (onward : a.Onward commands b)
    (few : commands ≤ more) : a.Onward more b :=
  onward.trans (Onward.refl more b) few

structure Grown (commands : Nat) (c : Candle) : Prop where
  volume : .zero ≤ c.volume
  quoteAmount : .zero ≤ c.quoteAmount
  count : commands < UInt64.size → c.tradeCount ≤ commands

theorem Grown.mono {commands more : Nat} {c : Candle} (grown : c.Grown commands)
    (few : commands ≤ more) : c.Grown more where
  volume := grown.volume
  quoteAmount := grown.quoteAmount
  count counted := (grown.count (few.trans_lt counted)).trans few

theorem grown_openBucket (symbol : Symbol) (interval : Interval) (bucket : Bucket)
    (price : Decimal) (commands : Nat) :
    (openBucket symbol interval bucket price).Grown commands where
  volume := Decimal.le_refl _
  quoteAmount := Decimal.le_refl _
  count _ := Nat.zero_le _

variable {commands : Nat} {c d : Candle} {tick : Tick}

theorem onward_applyTrade (grown : c.Grown commands) (valid : tick.validate = .ok ())
    (ok : c.applyTrade tick.price tick.quantity = .ok d) :
    c.Onward (commands + 1) d ∧ d.Grown (commands + 1) := by
  obtain ⟨cheap, short⟩ := Tick.validate_eq_ok_iff.mp valid
  have price : .zero ≤ tick.price := Decimal.le_of_not_le cheap
  have quantity : .zero ≤ tick.quantity := Decimal.le_of_not_lt short
  obtain ⟨volume, amount, quoteAmount, sum, product, total, rfl⟩ := applyTrade_eq_ok ok
  have more : c.volume ≤ volume := Decimal.le_add_left sum grown.volume quantity
  have worth : c.quoteAmount ≤ quoteAmount :=
    Decimal.le_add_left total grown.quoteAmount (Decimal.zero_le_mul product price quantity)
  have counts (counted : commands + 1 < UInt64.size) :
      (c.tradeCount + 1) % UInt64.size = c.tradeCount + 1 := by
    have := grown.count (by omega)
    exact Nat.mod_eq_of_lt (by omega)
  constructor
  · refine ⟨rfl, rfl, rfl, rfl, ?_, ?_, more, worth, ?_, fun done => done⟩
    · dsimp only
      split
      · rename_i above
        exact Decimal.le_of_lt above
      · exact Decimal.le_refl _
    · dsimp only
      split
      · rename_i below
        exact Decimal.le_of_lt below
      · exact Decimal.le_refl _
    · intro counted
      dsimp only
      rw [counts counted]
      exact Nat.le_succ _
  · refine ⟨Decimal.le_trans grown.volume more, Decimal.le_trans grown.quoteAmount worth, ?_⟩
    intro counted
    dsimp only
    rw [counts counted]
    exact Nat.succ_le_succ (grown.count (by omega))

end Candle

namespace Rows

structure KeepsIds (r r' : Rows) : Prop where
  kept : ∀ key row, r.get? key = some row → row.id.isSome = true →
    ∃ row', r'.get? key = some row' ∧ row'.id = row.id
  given : ∀ key row', r'.get? key = some row' → row'.id.isSome = true ∨ r.get? key = some row'

theorem KeepsIds.refl (r : Rows) : r.KeepsIds r where
  kept _ row found _ := ⟨row, found, rfl⟩
  given _ _ found := .inr found

theorem KeepsIds.trans {r r' r'' : Rows} (first : r.KeepsIds r') (second : r'.KeepsIds r'') :
    r.KeepsIds r'' where
  kept key row found named := by
    obtain ⟨row', found', same⟩ := first.kept key row found named
    obtain ⟨row'', found'', same'⟩ := second.kept key row' found' (same ▸ named)
    exact ⟨row'', found'', same'.trans same⟩
  given key row found := by
    rcases second.given key row found with named | before
    · exact .inl named
    · exact first.given key row before

theorem keepsIds_upsert (r : Rows) (now : Instant) (candle : Candle) :
    r.KeepsIds (r.upsert now candle).1 where
  kept key row found named := by
    rw [get?_upsert]
    split
    · rename_i here
      refine ⟨_, rfl, ?_⟩
      obtain ⟨id, own⟩ := Option.isSome_iff_exists.mp named
      rw [rowFor, ← here, found, Option.bind_some, own]
      rfl
    · exact ⟨row, found, rfl⟩
  given key row found := by
    rcases upsert_cases found with ⟨-, rfl⟩ | ⟨-, old⟩
    · exact .inl rfl
    · exact .inr old

end Rows

theorem stepwise_keepsIds : Stepwise fun s after => s.rows.KeepsIds after.rows where
  refl s := Rows.KeepsIds.refl s.rows
  trans := Rows.KeepsIds.trans
  lookup s symbol interval bucket seed := by
    rcases s.getOrCreate_cache symbol interval bucket seed with same | evicted
    · rw [same]
      exact Rows.KeepsIds.refl s.rows
    · rw [evicted]
      exact Rows.KeepsIds.refl s.rows
  write ok := by
    rw [(Store.rows_persist ok).2]
    exact Rows.keepsIds_upsert ..

structure Store.Grown (commands : Nat) (s : Store) : Prop where
  coherent : s.Coherent
  named : ∀ key row, s.rows.get? key = some row → row.id.isSome = true
  grown : ∀ key row, s.rows.get? key = some row → row.Grown commands

theorem Store.grown_empty (now : Nat) (wall : Instant) (ids : Nat → Uuid) :
    (empty now wall ids).Grown 0 where
  coherent := coherent_empty now wall ids
  named _ _ found := by cases found
  grown _ _ found := by cases found

theorem Store.Grown.mono {commands more : Nat} {s : Store} (grown : s.Grown commands)
    (few : commands ≤ more) : s.Grown more where
  coherent := grown.coherent
  named := grown.named
  grown key row found := (grown.grown key row found).mono few

def Store.Onward (commands : Nat) (s t : Store) : Prop :=
  ∀ key row, s.rows.get? key = some row →
    ∃ row', t.rows.get? key = some row' ∧ row.Onward commands row'

theorem Store.Onward.refl (commands : Nat) (s : Store) : s.Onward commands s :=
  fun _ row found => ⟨row, found, .refl _ row⟩

namespace Engine

theorem keepsIds_step (e : Engine) (command : Command) :
    e.store.rows.KeepsIds (e.step command).store.rows := by
  cases command with
  | ingest tick nanos => exact stepwise_keepsIds.ingest e tick nanos
  | complete key => exact stepwise_keepsIds.markCompleted e key
  | advance span wall => exact Rows.KeepsIds.refl e.store.rows
  | purge => exact Rows.KeepsIds.refl e.store.rows

variable {commands : Nat} {key : CandleKey}

theorem grown_base {row : Option Candle} (old : ∀ c, row = some c → c.Grown commands)
    (tick : Tick) : (Candle.base key tick row).Grown commands := by
  cases row with
  | none => exact Candle.grown_openBucket _ _ _ _ _
  | some c => exact old c rfl

theorem change_onward {c : Candle} (grown : c.Grown commands) (command : Command)
    (key : CandleKey) :
    ∃ d, command.change key (some c) = some d ∧ c.Onward (commands + 1) d := by
  rcases change_cases command key (some c) with
    same | ⟨tick, traded, valid, ok, made⟩ | ⟨own, same, made⟩
  · exact ⟨c, same, .refl _ c⟩
  · exact ⟨traded, made, (Candle.onward_applyTrade grown valid ok).1⟩
  · cases same
    exact ⟨_, made, { Candle.Onward.refl (commands + 1) c with completed := fun _ => rfl }⟩

theorem change_grown {row : Option Candle} (old : ∀ c, row = some c → c.Grown commands)
    {command : Command} {d : Candle} (made : command.change key row = some d) :
    d.Grown (commands + 1) := by
  rcases change_cases command key row with
    same | ⟨tick, traded, valid, ok, after⟩ | ⟨own, rfl, after⟩
  · exact (old d (same.symm.trans made)).mono (Nat.le_succ _)
  · cases made.symm.trans after
    exact (Candle.onward_applyTrade (grown_base old tick) valid ok).2
  · cases made.symm.trans after
    exact { (old own rfl).mono (Nat.le_succ _) with }

theorem step_onward {e : Engine} (grown : e.store.Grown commands) (command : Command) :
    (e.step command).store.Grown (commands + 1) ∧
      e.store.Onward (commands + 1) (e.step command).store := by
  have follows := step_spec grown.coherent command
  have ids := e.keepsIds_step command
  have shown (s : Store) {key : CandleKey} {row : Candle} (found : s.rows.get? key = some row) :
      s.view key = some row.unstamped := by
    rw [Store.view, found]
    rfl
  have plain (key : CandleKey) (c : Candle) (found : e.store.view key = some c) :
      c.Grown commands := by
    obtain ⟨row, stored, rfl⟩ := Option.map_eq_some_iff.mp found
    exact { grown.grown key row stored with }
  constructor
  · refine ⟨follows.coherent, ?_, ?_⟩
    · intro key row found
      rcases ids.given key row found with named | before
      · exact named
      · exact grown.named key row before
    · intro key row found
      have became := follows.view key
      rw [shown _ found] at became
      exact { change_grown (plain key) became.symm with }
  · intro key row found
    obtain ⟨row', found', same⟩ := ids.kept key row found (grown.named key row found)
    obtain ⟨d, changed, onward⟩ := change_onward (plain key _ (shown _ found)) command key
    have became := follows.view key
    rw [shown _ found', shown _ found, changed] at became
    obtain rfl := Option.some.inj became
    exact ⟨row', found', { onward with id := same }⟩

end Engine

end CandleFeed
