import CandleFeed.Proofs.Service.Admission
import CandleFeed.Proofs.Service.Trials
import Mathlib.Data.List.Dedup

/-!
# Completing candles that are not there

A candle that is not in the table is not completed: rows, cache, counters and outboxes stay as they
are. But its series is noted as one that was worked on. The notes are never cleared, so they grow
with every new series that is asked for.
-/

namespace CandleFeed

def CandleKey.series (key : CandleKey) : Series :=
  ⟨key.symbol, key.interval⟩

namespace Series

def ofSymbol (symbol : Symbol) : List Series :=
  Interval.all.map fun i => ⟨symbol, i⟩

structure Notes (before more after : List Series) : Prop where
  distinct : before.Nodup → after.Nodup
  mem_iff : ∀ own, own ∈ after ↔ own ∈ before ∨ own ∈ more

namespace Notes

variable {before more other after last : List Series}

theorem refl (before : List Series) : Notes before [] before where
  distinct := id
  mem_iff own := by simp

theorem trans (first : Notes before more after) (second : Notes after other last) :
    Notes before (more ++ other) last where
  distinct nodup := second.distinct (first.distinct nodup)
  mem_iff own := by rw [second.mem_iff, first.mem_iff, List.mem_append, or_assoc]

theorem insert (before : List Series) (own : Series) : Notes before [own] (before.insert own) where
  distinct := List.Nodup.insert
  mem_iff other := by rw [List.mem_insert_iff, List.mem_singleton, or_comm]

theorem foldl (before : List Series) (more : List Series) :
    Notes before more (more.foldl (fun noted own => noted.insert own) before) := by
  induction more generalizing before with
  | nil => exact .refl before
  | cons own rest ih => exact (Notes.insert before own).trans (ih _)

theorem perm_dedup (notes : Notes [] more after) : after.Perm more.dedup := by
  refine (List.perm_ext_iff_of_nodup (notes.distinct List.nodup_nil) (List.nodup_dedup more)).mpr ?_
  intro own
  rw [notes.mem_iff, List.mem_dedup]
  simp

theorem length_eq_iff (notes : Notes before more after) (nodup : before.Nodup) :
    after.length = before.length ↔ ∀ own ∈ more, own ∈ before := by
  have kept : before ⊆ after := fun own mem => (notes.mem_iff own).mpr (.inl mem)
  constructor
  · intro same own mem
    have all := (nodup.subperm kept).perm_of_length_le (Nat.le_of_eq same)
    exact all.mem_iff.mpr ((notes.mem_iff own).mpr (.inr mem))
  · intro known
    refine ((List.perm_ext_iff_of_nodup (notes.distinct nodup) nodup).mpr fun own => ?_).length_eq
    rw [notes.mem_iff]
    exact ⟨fun either => either.elim id (known own), .inl⟩

theorem length_of_new (notes : Notes before more after) (nodup : before.Nodup)
    (apart : more.Nodup) (new : ∀ own ∈ more, own ∉ before) :
    after.length = before.length + more.length := by
  have all : (before ++ more).Nodup :=
    List.nodup_append.mpr ⟨nodup, apart, fun own mem _ mem' same => new own (same ▸ mem') mem⟩
  have perm : after.Perm (before ++ more) :=
    (List.perm_ext_iff_of_nodup (notes.distinct nodup) all).mpr fun own => by
      rw [notes.mem_iff, List.mem_append]
  rw [perm.length_eq, List.length_append]

end Notes

end Series

open Series

/-! ## What an engine notes -/

namespace Engine

theorem series_aggregate (e : Engine) (tick : Tick) (i : Interval) :
    (e.aggregate tick i).1.series = e.series.insert ⟨tick.symbol, i⟩ := by
  rcases opened : e.store.getOrCreate tick.symbol i (i.bucket tick.time) tick.price with
    ⟨store, cause | ⟨candle, origin⟩⟩
  · rw [aggregate_of_error opened]
    rfl
  · rw [aggregate_of_ok opened]
    split
    · rfl
    · rename_i ok
      obtain ⟨traded, store, -, -, rfl⟩ := store?_parts ok
      rfl

theorem notes_ingest (e : Engine) {tick : Tick} (valid : tick.validate = .ok ()) (nanos : Nat) :
    Notes e.series (ofSymbol tick.symbol) (e.ingest tick nanos).1.series := by
  have all (intervals : List Interval) (state : Engine × List Candle) :
      Notes state.1.series (intervals.map fun i => ⟨tick.symbol, i⟩)
        (intervals.foldl (aggregateNext tick) state).1.series := by
    induction intervals generalizing state with
    | nil => exact .refl _
    | cons i rest ih =>
        have first : (aggregateNext tick state i).1.series =
            state.1.series.insert ⟨tick.symbol, i⟩ := by
          rw [← series_aggregate]
          unfold aggregateNext
          rcases state.1.aggregate tick i with ⟨after, cause | row⟩ <;> rfl
        exact (first ▸ Notes.insert _ _).trans (ih _)
  have notes := all Interval.all (e, [])
  unfold ingest
  rw [valid]
  generalize Interval.all.foldl (aggregateNext tick) (e, []) = done at notes
  exact notes

theorem series_markCompleted (e : Engine) (key : CandleKey) :
    (e.markCompleted key).1.series = e.series.insert key.series := by
  unfold markCompleted
  dsimp only
  split
  · rfl
  · rfl
  · split <;> rfl

def missingAnswer (e : Engine) (key : CandleKey) : Except AggregationError (Option Candle) :=
  match e.store.outage.rowRead key.interval with
  | none => .ok none
  | some cause => .error (.store (.durable cause))

theorem markCompleted_missing {e : Engine} {key : CandleKey}
    (missing : e.store.rows.get? key = none) :
    e.markCompleted key = ({ e with series := e.series.insert key.series }, e.missingAnswer key) := by
  have row : e.store.getRow key =
      match e.store.outage.rowRead key.interval with
      | none => .ok none
      | some cause => .error (.durable cause) := by
    unfold Store.getRow Store.query
    split <;> simp_all
  unfold markCompleted missingAnswer
  dsimp only [touch]
  rw [row]
  cases e.store.outage.rowRead key.interval <;> rfl

end Engine

/-! ## What an ingester notes -/

namespace Ingester

def worked (i : Ingester) (event : TradeEvent) : List Series :=
  match (i.screen event).2 with
  | .admitted tick => ofSymbol tick.symbol
  | .rejected _ | .duplicate => []

theorem series_screen (i : Ingester) (event : TradeEvent) : (i.screen event).1.series = i.series := by
  unfold screen
  split
  · rfl
  · split <;> rfl

theorem notes_ingestEvent (i : Ingester) (event : TradeEvent) (nanos : Nat) :
    Notes i.series (i.worked event) (i.ingestEvent event nanos).1.series := by
  have kept := i.series_screen event
  unfold worked
  rcases screened : i.screen event with ⟨after, cause | _ | tick⟩
  · rw [screened] at kept
    rw [ingestEvent_rejected screened]
    exact kept ▸ .refl _
  · rw [screened] at kept
    rw [ingestEvent_duplicate screened]
    exact kept ▸ .refl _
  · obtain ⟨read, window, rfl⟩ := screen_admitted screened
    rw [ingestEvent_admitted screened]
    exact Engine.notes_ingest _ (TradeEvent.validate_of_toTick read) nanos

end Ingester

/-! ## What a service notes -/

namespace Service

variable {s : Service}

/-- The series that a trial works on: those of a trade that passes its check, or that of a candle
that is completed, whether it is there or not. -/
def worked (s : Service) : Trial → List Series
  | .command (.news (.event event _)) => s.toIngester.worked event
  | .command (.news (.complete key)) => [key.series]
  | .ingest tick _ => if tick.validate.isOk then ofSymbol tick.symbol else []
  | .command (.news (.publish _ _)) | .command (.news (.advance _ _)) | .command (.act _ _)
  | .purge | .outage _ => []

def workedAll (s : Service) : List Trial → List Series
  | [] => []
  | trial :: rest => s.worked trial ++ (s.undergo trial).workedAll rest

theorem series_hear (s : Service) (news : News) :
    (s.hear news).series = (s.toIngester.hear news).series := by
  obtain ⟨m, heard⟩ := s.hear_eq news
  rw [heard]
  rfl

theorem notes_undergo (s : Service) (trial : Trial) :
    Notes s.series (s.worked trial) (s.undergo trial).series := by
  cases trial with
  | command command =>
      cases command with
      | act id act =>
          obtain ⟨m, same⟩ := s.ingester_act id act
          change Notes s.series [] (s.act id act).1.toIngester.series
          rw [same]
          exact .refl s.series
      | news news =>
          change Notes s.series _ (s.hear news).series
          rw [series_hear]
          cases news with
          | event event nanos => exact s.toIngester.notes_ingestEvent event nanos
          | complete key =>
              change Notes s.series _ (s.toEngine.markCompleted key).1.series
              rw [Engine.series_markCompleted]
              exact .insert _ _
          | publish topic payload => exact .refl _
          | advance span wall => exact .refl _
  | ingest tick nanos =>
      obtain ⟨m, ingested⟩ := s.ingest_eq tick nanos
      change Notes s.series (if _ then _ else _) (s.ingest tick nanos).1.series
      rw [ingested]
      change Notes s.series _ (s.toEngine.ingest tick nanos).1.series
      cases valid : tick.validate with
      | error cause =>
          rw [Engine.ingest_of_invalid valid]
          exact .refl _
      | ok => exact Engine.notes_ingest _ valid nanos
  | purge => exact .refl _
  | outage outage => exact .refl _

theorem notes_endure (s : Service) (trials : List Trial) :
    Notes s.series (s.workedAll trials) (s.endure trials).series := by
  induction trials generalizing s with
  | nil => exact .refl _
  | cons trial rest ih => exact (s.notes_undergo trial).trans (ih _)

/-! ## Completions -/

def completeAll (s : Service) :
    List CandleKey → Service × List (Except AggregationError (Option Candle))
  | [] => (s, [])
  | key :: rest =>
      let (next, answer) := s.complete key
      let (last, answers) := next.completeAll rest
      (last, answer :: answers)

theorem complete_missing {key : CandleKey} (missing : s.store.rows.get? key = none) :
    s.complete key = ({ s with series := s.series.insert key.series }, s.toEngine.missingAnswer key) := by
  unfold complete
  rw [Engine.markCompleted_missing missing]
  unfold Engine.missingAnswer
  cases s.store.outage.rowRead key.interval <;> rfl

theorem completeAll_missing {keys : List CandleKey}
    (missing : ∀ key ∈ keys, s.store.rows.get? key = none) :
    s.completeAll keys =
      ({ s with
          series := (keys.map CandleKey.series).foldl (fun noted own => noted.insert own) s.series },
        keys.map s.toEngine.missingAnswer) := by
  induction keys generalizing s with
  | nil => rfl
  | cons key rest ih =>
      have first := complete_missing (missing key List.mem_cons_self)
      let next : Service := { s with series := s.series.insert key.series }
      have others := ih (s := next) fun own mem => missing own (List.mem_cons_of_mem _ mem)
      unfold completeAll
      rw [first]
      dsimp only
      rw [others]
      rfl

theorem missing_completed (settings : Settings) (now : Nat) (wall : Instant) (ids : Nat → Uuid)
    (trials : List Trial) (keys : List CandleKey)
    (missing : ∀ key ∈ keys, ((Gateway.create settings (.empty now wall ids)).service.endure
      trials).store.rows.get? key = none) :
    let start := (Gateway.create settings (.empty now wall ids)).service
    let s := start.endure trials
    let t := (s.completeAll keys).1
    t = { s with series := t.series } ∧
    (s.completeAll keys).2 = keys.map (fun key =>
      match s.store.outage.rowRead key.interval with
      | none => .ok none
      | some cause => .error (.store (.durable cause))) ∧
    s.series.length = (start.workedAll trials).dedup.length ∧
    t.series.length = (start.workedAll trials ++ keys.map CandleKey.series).dedup.length ∧
    (t.series.length = s.series.length ↔ ∀ key ∈ keys, key.series ∈ start.workedAll trials) ∧
    ((keys.map CandleKey.series).Nodup → (∀ key ∈ keys, key.series ∉ start.workedAll trials) →
      t.series.length = s.series.length + keys.length) := by
  intro start s t
  have completed := completeAll_missing missing
  have answers : (s.completeAll keys).2 = keys.map s.toEngine.missingAnswer := congrArg Prod.snd completed
  have noted : Notes [] (start.workedAll trials) s.series := start.notes_endure trials
  have more : Notes s.series (keys.map CandleKey.series) t.series := by
    have same : t.series =
        (keys.map CandleKey.series).foldl (fun noted own => noted.insert own) s.series :=
      congrArg (fun done => done.1.series) completed
    rw [same]
    exact .foldl _ _
  have nodup : s.series.Nodup := noted.distinct List.nodup_nil
  have known (own : Series) : own ∈ s.series ↔ own ∈ start.workedAll trials := by
    rw [noted.mem_iff]
    simp
  refine ⟨?_, answers, noted.perm_dedup.length_eq, (noted.trans more).perm_dedup.length_eq, ?_, ?_⟩
  · have left : t = { s with series := _ } := congrArg Prod.fst completed
    rw [left]
  · rw [more.length_eq_iff nodup, List.forall_mem_map]
    simp only [known]
  · intro apart new
    have grown := more.length_of_new nodup apart (List.forall_mem_map.mpr fun key mem => by
      rw [known]
      exact new key mem)
    rw [grown, List.length_map]

theorem untraded_minutes_completed :
    let one : Decimal := ⟨false, 1, 0, by decide, by decide⟩
    let trials : List Trial := [.ingest ⟨⟨"BTC-USDT"⟩, one, one, .epoch⟩ 0]
    let keys : List CandleKey :=
      [⟨⟨"BTC-USDT"⟩, .oneMinute, 60⟩, ⟨⟨"ETH-USDT"⟩, .oneMinute, 0⟩, ⟨⟨"ETH-USDT"⟩, .oneMinute, 60⟩]
    let s := (Gateway.create .standard (.empty 0 .epoch Uuid.serial)).service.endure trials
    (s.completeAll keys).1.metrics = s.metrics ∧
      (s.completeAll keys).2 = [.ok none, .ok none, .ok none] ∧
      s.series.length = 9 ∧ (s.completeAll keys).1.series.length = 10 := by
  intro one trials keys s
  have missing : ∀ key ∈ keys, ((Gateway.create .standard (.empty 0 .epoch Uuid.serial)).service.endure
      trials).store.rows.get? key = none := by decide +kernel
  have ⟨same, answers, before, after, _⟩ :=
    missing_completed .standard 0 .epoch Uuid.serial trials keys missing
  refine ⟨?_, ?_, ?_, ?_⟩
  · rw [same]
  · rw [answers]
    decide +kernel
  · rw [before]
    decide +kernel
  · rw [after]
    decide +kernel

theorem exists_noted_missing :
    ∃ key : CandleKey,
      let s := (Gateway.create .standard (.empty 0 .epoch Uuid.serial)).service
      s.store.getRow key = .ok none ∧ (s.complete key).2 = .ok none ∧
        s.series.length = 0 ∧ (s.complete key).1.series.length = 1 :=
  ⟨⟨⟨"BTC-USDT"⟩, .oneMinute, 0⟩, rfl, rfl, rfl, rfl⟩

end Service

end CandleFeed
