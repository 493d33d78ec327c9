import CandleFeed.Proofs.Service.Counters

namespace CandleFeed

namespace EventOutcome

def isAccepted : EventOutcome → Bool
  | accepted _ => true
  | rejected _ | duplicate => false

def isDuplicate : EventOutcome → Bool
  | duplicate => true
  | rejected _ | accepted _ => false

def isRejected : EventOutcome → Bool
  | rejected _ => true
  | duplicate | accepted _ => false

def intervals : EventOutcome → List Interval
  | accepted candles => candles.map Candle.interval
  | rejected _ | duplicate => []

def failures : EventOutcome → Nat
  | accepted candles => 9 - candles.length
  | rejected _ | duplicate => 0

end EventOutcome

/-- What there is to count after some events and completions, if the table has so many rows. -/
def Books.of (rows : Nat) (events : List EventOutcome) (completed : List Candle) : Books Nat where
  ingested := events.countP EventOutcome.isAccepted
  duplicate := events.countP EventOutcome.isDuplicate
  rejected := events.countP EventOutcome.isRejected
  failed := (events.map EventOutcome.failures).sum
  created := rows
  updated := (events.map fun event => event.intervals.length).sum - rows
  completed := completed.length

structure Books.Fits (b : Books Nat) : Prop where
  ingested : b.ingested < UInt64.size
  duplicate : b.duplicate < UInt64.size
  rejected : b.rejected < UInt64.size
  failed : b.failed < UInt64.size
  created : b.created < UInt64.size
  updated : b.updated < UInt64.size
  completed : b.completed < UInt64.size

theorem Books.toNat_map {b : Books Nat} (fits : b.Fits) :
    (b.map UInt64.ofNat).map UInt64.toNat = b := by
  obtain ⟨ingested, duplicate, rejected, failed, created, updated, completed⟩ := b
  obtain ⟨_, _, _, _, _, _, _⟩ := fits
  simp_all [Books.map, Nat.mod_eq_of_lt]

namespace Service
open Engine

variable {s : Service} {events : List EventOutcome} {completed : List Candle}

/-! ## What a run answers -/

def outcomesBy (s : Service) : Command → List EventOutcome
  | .news (.event event nanos) => [(s.ingestEvent event nanos).2]
  | .news _ | .act _ _ => []

def outcomes (s : Service) : List Command → List EventOutcome
  | [] => []
  | command :: rest => s.outcomesBy command ++ (s.step command).outcomes rest

def returned : Except AggregationError (Option Candle) → List Candle
  | .ok (some row) => [row]
  | .ok none | .error _ => []

def completedBy (s : Service) : Command → List Candle
  | .news (.complete key) => returned (s.complete key).2
  | .news _ | .act _ _ => []

def completedRows (s : Service) : List Command → List Candle
  | [] => []
  | command :: rest => s.completedBy command ++ (s.step command).completedRows rest

def Command.isEvent : Command → Bool
  | .news (.event _ _) => true
  | .news _ | .act _ _ => false

theorem length_outcomes (s : Service) (commands : List Command) :
    (s.outcomes commands).length = commands.countP Command.isEvent := by
  induction commands generalizing s with
  | nil => rfl
  | cons command rest ih =>
      have one : (s.outcomesBy command).length = if command.isEvent then 1 else 0 := by
        cases command with
        | act id act => rfl
        | news news => cases news <;> rfl
      rw [outcomes, List.length_append, ih, one, List.countP_cons, Nat.add_comm]

/-! ## Accounts -/

structure Accounts (s : Service) (events : List EventOutcome) (completed : List Candle) : Prop where
  coherent : s.store.Coherent
  counters : s.metrics.books = (Books.of s.store.rows.table.size events completed).map UInt64.ofNat
  rows_le : s.store.rows.table.size ≤ (events.map fun event => event.intervals.length).sum
  all : 9 * events.countP EventOutcome.isAccepted =
    (events.map fun event => event.intervals.length).sum + (events.map EventOutcome.failures).sum
  told : ∀ i, Grown 0 (events.countP fun event => i ∈ event.intervals) (s.store.rows.told i)

theorem accounts_create (settings : Settings) (now : Nat) (wall : Instant) (ids : Nat → Uuid) :
    Accounts (Gateway.create settings (.empty now wall ids)).service [] [] where
  coherent := Store.coherent_empty now wall ids
  counters := rfl
  rows_le := Nat.le_refl _
  all := rfl
  told _ := .refl 0

theorem Accounts.of_same {t : Service} (accounts : Accounts s events completed)
    (coherent : t.store.Coherent) (rows : t.store.rows = s.store.rows)
    (books : t.metrics.books = s.metrics.books) : Accounts t events completed where
  coherent := coherent
  counters := by
    rw [books, rows]
    exact accounts.counters
  rows_le := rows ▸ accounts.rows_le
  all := accounts.all
  told := rows ▸ accounts.told

theorem Accounts.turned {t : Service} {outcome : EventOutcome}
    (accounts : Accounts s events completed) (turned : outcome.isAccepted = false)
    (store : t.store = s.store)
    (books : t.metrics.books = { s.metrics.books with
      duplicate := s.metrics.books.duplicate + .ofNat (if outcome.isDuplicate then 1 else 0)
      rejected := s.metrics.books.rejected + .ofNat (if outcome.isRejected then 1 else 0) }) :
    Accounts t (events ++ [outcome]) completed := by
  obtain ⟨coherent, counters, rows_le, all, told⟩ := accounts
  have intervals : outcome.intervals = [] := by cases outcome <;> trivial
  have failures : outcome.failures = 0 := by cases outcome <;> trivial
  rw [← store] at coherent counters rows_le told
  constructor
  case coherent => exact coherent
  case counters =>
    rw [books, counters]
    simp [Books.map, Books.of, turned, intervals, failures]
  case rows_le => simpa [intervals] using rows_le
  case all => simpa [turned, intervals, failures] using all
  case told => simpa [intervals] using told

theorem Accounts.accepted {t : Service} {e : Engine} {state : Engine × List Candle} {nanos : Nat}
    (accounts : Accounts s events completed) (store : e.store = s.store)
    (pushed : s.metrics.Sent e.metrics) (balanced : Balanced e Interval.all state)
    (store' : t.store = state.1.store)
    (pushed' : (state.1.metrics.tradeIngested nanos).Sent t.metrics) :
    Accounts t (events ++ [.accepted state.2]) completed := by
  obtain ⟨-, counters, rows_le, all, told⟩ := accounts
  obtain ⟨created, updated, failed, written, both, size, metrics⟩ := balanced.counted
  have nine : Interval.all.length = 9 := rfl
  have intervals : (EventOutcome.accepted state.2).intervals = state.2.map Candle.interval := rfl
  have failures : (EventOutcome.accepted state.2).failures = failed := by
    change 9 - state.2.length = failed
    omega
  have accepted : (EventOutcome.accepted state.2).isAccepted = true := rfl
  have duplicate : (EventOutcome.accepted state.2).isDuplicate = false := rfl
  have rejected : (EventOutcome.accepted state.2).isRejected = false := rfl
  rw [store, ← store'] at size
  constructor
  case coherent => exact store' ▸ balanced.coherent
  case counters =>
    have before := pushed.books.trans counters
    have more : (Books.of t.store.rows.table.size (events ++ [.accepted state.2]) completed).updated =
        (Books.of s.store.rows.table.size events completed).updated + updated := by
      simp [Books.of, intervals]
      omega
    rw [pushed'.books, metrics]
    simp only [Metrics.books, Books.map, Books.mk.injEq] at before
    simp only [Metrics.books, Books.map, Books.mk.injEq, Metrics.tradeIngested, more]
    simp [Books.of, before, accepted, duplicate, rejected, failures, size, UInt64.ofNat_add]
  case rows_le =>
    simp [intervals]
    omega
  case all =>
    simp [accepted, intervals, failures]
    omega
  case told =>
    intro i
    have grown := balanced.told i
    rw [(balanced.inOrder.nodup Interval.nodup_all).count, store] at grown
    have more : (events ++ [EventOutcome.accepted state.2]).countP (fun event => i ∈ event.intervals) =
        events.countP (fun event => i ∈ event.intervals) +
          if i ∈ state.2.map Candle.interval then 1 else 0 := by
      rw [List.countP_append, List.countP_singleton, intervals]
      simp only [decide_eq_true_eq]
    rw [more, store']
    exact (told i).trans grown

theorem Accounts.event {t : Service} {outcome : EventOutcome} (accounts : Accounts s events completed)
    (books : EventBooks s t outcome) : Accounts t (events ++ [outcome]) completed := by
  cases books with
  | rejected cause store metrics =>
      refine accounts.turned rfl store ?_
      rw [metrics]
      simp [Metrics.books, Metrics.rejectedTrade, EventOutcome.isDuplicate, EventOutcome.isRejected]
  | duplicate store metrics =>
      refine accounts.turned rfl store ?_
      rw [metrics]
      simp [Metrics.books, Metrics.duplicateTrade, EventOutcome.isDuplicate, EventOutcome.isRejected]
  | accepted e state nanos store pushed balanced store' pushed' =>
      exact accounts.accepted store pushed balanced store' pushed'

theorem Accounts.complete {t : Service} {outcome : Except AggregationError (Option Candle)}
    (accounts : Accounts s events completed) (books : CompletionBooks s t outcome) :
    Accounts t events (completed ++ returned outcome) := by
  obtain ⟨coherent, counters, rows_le, all, told⟩ := accounts
  obtain ⟨kept, size, told', answer⟩ := books
  constructor
  case coherent => exact kept
  case counters =>
    rw [size]
    rcases answer with ⟨rfl, same⟩ | ⟨row, rfl, counted⟩
    · rw [same, counters, returned, List.append_nil]
    · rw [counted.books]
      simp only [Metrics.books, Books.map, Books.mk.injEq, Metrics.candleCompleted] at counters ⊢
      simp [counters, Books.of, returned, UInt64.ofNat_add]
  case rows_le => rw [size]; exact rows_le
  case all => exact all
  case told =>
    intro i
    rw [told']
    exact told i

theorem Accounts.step (accounts : Accounts s events completed) (command : Command) :
    Accounts (s.step command) (events ++ s.outcomesBy command) (completed ++ s.completedBy command) := by
  have noEvent : events ++ [] = events := List.append_nil _
  have noRow : completed ++ [] = completed := List.append_nil _
  cases command with
  | act id act =>
      change Accounts (s.act id act).1 (events ++ []) (completed ++ [])
      rw [noEvent, noRow]
      have store := store_act s id act
      exact accounts.of_same (store ▸ accounts.coherent) (congrArg Store.rows store)
        (books_act s id act)
  | news news =>
      cases news with
      | event event nanos =>
          change Accounts _ _ (completed ++ [])
          rw [noRow]
          exact accounts.event (ingestEvent_books accounts.coherent event nanos)
      | complete key =>
          change Accounts _ (events ++ []) _
          rw [noEvent]
          exact accounts.complete (complete_books accounts.coherent key)
      | publish topic payload =>
          change Accounts (s.publishOn topic payload).1 (events ++ []) (completed ++ [])
          rw [noEvent, noRow]
          have store := store_publishOn s topic payload
          exact accounts.of_same (store ▸ accounts.coherent) (congrArg Store.rows store)
            (metrics_publishOn s topic payload).books
      | advance span wall =>
          change Accounts _ (events ++ []) (completed ++ [])
          rw [noEvent, noRow]
          exact accounts.of_same (accounts.coherent.of_fewer rfl rfl fun _ _ found => found) rfl rfl

theorem Accounts.run (accounts : Accounts s events completed) (commands : List Command) :
    Accounts (s.run commands) (events ++ s.outcomes commands)
      (completed ++ s.completedRows commands) := by
  induction commands generalizing s events completed with
  | nil =>
      rw [outcomes, completedRows, List.append_nil, List.append_nil]
      exact accounts
  | cons command rest ih =>
      rw [outcomes, completedRows, ← List.append_assoc, ← List.append_assoc]
      exact ih (accounts.step command)

theorem length_eq_countP (events : List EventOutcome) :
    events.length = events.countP EventOutcome.isAccepted + events.countP EventOutcome.isDuplicate +
      events.countP EventOutcome.isRejected := by
  induction events with
  | nil => rfl
  | cons event rest ih =>
      rw [List.length_cons, ih, List.countP_cons, List.countP_cons, List.countP_cons]
      cases event <;>
        simp [EventOutcome.isAccepted, EventOutcome.isDuplicate, EventOutcome.isRejected] <;> omega

/-- The equations between what the counters say, what the table holds and what a run has
answered. -/
structure Balances (m : Metrics) (r : Rows) (calls : Nat) (events : List EventOutcome)
    (completed : List Candle) : Prop where
  calls : calls = m.tradesIngested.toNat + m.tradesDuplicate.toNat + m.tradesRejected.toNat
  intervals : 9 * m.tradesIngested.toNat =
    m.candlesCreated.toNat + m.candlesUpdated.toNat + m.intervalFailures.toNat
  created : m.candlesCreated.toNat = r.table.size
  completed : m.candlesCompleted.toNat = completed.length
  told : ∀ i, r.told i = events.countP fun event => i ∈ event.intervals

theorem Accounts.balances {commands : List Command} (accounts : Accounts s events completed)
    (calls : events.length = commands.countP Command.isEvent)
    (fits : (Books.of s.store.rows.table.size events completed).Fits) :
    Balances s.metrics s.store.rows (commands.countP Command.isEvent) events completed := by
  have exact' := (congrArg (Books.map UInt64.toNat) accounts.counters).trans (Books.toNat_map fits)
  simp only [Books.map, Books.of, Metrics.books, Books.mk.injEq] at exact'
  obtain ⟨ingested, duplicate, rejected, failed, created, updated, complete⟩ := exact'
  have rows_le := accounts.rows_le
  have all := accounts.all
  constructor
  case calls => rw [ingested, duplicate, rejected, ← calls, length_eq_countP events]
  case intervals => omega
  case created => exact created
  case completed => exact complete
  case told =>
    intro i
    have few : (events.countP fun event => i ∈ event.intervals) ≤
        events.countP EventOutcome.isAccepted := by
      apply List.countP_mono_left
      intro event _ member
      cases event with
      | accepted candles => rfl
      | _ => simp [EventOutcome.intervals] at member
    exact (accounts.told i).eq_of_lt (few.trans_lt fits.ingested)

theorem market_accounted (settings : Settings) (now : Nat) (wall : Instant) (ids : Nat → Uuid)
    (commands : List Command) :
    let start := (Gateway.create settings (.empty now wall ids)).service
    let s := start.run commands
    let events := start.outcomes commands
    let completed := start.completedRows commands
    let counts := Books.of s.store.rows.table.size events completed
    s.metrics.books = counts.map UInt64.ofNat ∧
      (counts.Fits →
        Balances s.metrics s.store.rows (commands.countP Command.isEvent) events completed) := by
  intro start s events completed counts
  have accounts : Accounts s ([] ++ events) ([] ++ completed) :=
    (accounts_create settings now wall ids).run commands
  rw [List.nil_append, List.nil_append] at accounts
  exact ⟨accounts.counters, accounts.balances (length_outcomes start commands)⟩

def repeatedTrade : List Command :=
  let event : TradeEvent :=
    ⟨"1", "TRADE_EXECUTED", none, .epoch, none, none,
      ⟨"1", "BTC/USDT", "2", "1", none, none, none, none, none, none, none, none⟩⟩
  [.news (.event event 0), .news (.event event 0),
    .news (.complete ⟨⟨"BTC-USDT"⟩, .oneMinute, 0⟩)]

theorem repeated_trade_accounted :
    let start := (Gateway.create .standard (.empty 0 .epoch Uuid.serial)).service
    let s := start.run repeatedTrade
    let events := start.outcomes repeatedTrade
    let completed := start.completedRows repeatedTrade
    (Books.of s.store.rows.table.size events completed).Fits ∧
      Balances s.metrics s.store.rows (repeatedTrade.countP Command.isEvent) events completed := by
  have fits : (Books.of
      ((Gateway.create .standard (.empty 0 .epoch Uuid.serial)).service.run
        repeatedTrade).store.rows.table.size
      ((Gateway.create .standard (.empty 0 .epoch Uuid.serial)).service.outcomes repeatedTrade)
      ((Gateway.create .standard (.empty 0 .epoch Uuid.serial)).service.completedRows
        repeatedTrade)).Fits := by
    constructor <;> decide +kernel
  exact ⟨fits, (market_accounted .standard 0 .epoch Uuid.serial repeatedTrade).2 fits⟩

end Service

end CandleFeed
