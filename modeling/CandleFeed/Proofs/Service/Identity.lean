import CandleFeed.Proofs.Engine.Identity
import CandleFeed.Proofs.Service.Containment
import CandleFeed.Proofs.Service.Onward

namespace CandleFeed

namespace Rows.Filed

variable {r : Rows} {symbol : Symbol} {interval : Interval} {start stop : Int} {limit : Nat} {c : Candle}

theorem stored_of_range (filed : r.Filed) (mem : c ∈ r.range symbol interval start stop limit) :
    r.get? c.key = some c := by
  have answers := filed.answers symbol interval
  rw [answers.range] at mem
  exact ((answers.mem_iff c).mp (List.mem_filter.mp (List.mem_of_mem_take mem)).1).1

theorem stored_of_latest (filed : r.Filed) (mem : c ∈ r.latest symbol interval limit) :
    r.get? c.key = some c := by
  have answers := filed.answers symbol interval
  rw [answers.latest] at mem
  exact ((answers.mem_iff c).mp (List.mem_reverse.mp (List.mem_of_mem_take mem))).1

end Rows.Filed

namespace Service
open Engine Store

def answers (s : Service) : Trial → List Candle
  | .command (.news (.event event nanos)) =>
      match (s.ingestEvent event nanos).2 with
      | .accepted written => written
      | .rejected _ | .duplicate => []
  | .command (.news (.complete key)) =>
      match (s.complete key).2 with
      | .ok row => row.toList
      | .error _ => []
  | .ingest tick nanos => (s.ingest tick nanos).2
  | _ => []

def pushed (s : Service) : Trial → List Push
  | .command (.news news) =>
      if Command.forges (.news news) then [] else s.toIngester.pushes s.publicTrades news
  | .ingest tick nanos => (s.ingest tick nanos).2.map fun row => s.toIngester.push (.kline row)
  | _ => []

/-- A candle of a key is to be seen, now or in what the next trial brings. -/
inductive Exhibits (s : Service) (key : CandleKey) (c : Candle) : Prop
  | row (stored : s.store.rows.get? key = some c)
  | cached (entry : CacheEntry) (held : s.store.cache.entries.get? key.cacheKey = some entry)
      (read : Candle.codec.decode entry.text.toList = .ok c)
  | looked (bucket : Bucket) (seed : Decimal) (origin : Origin) (opens : bucket.opening = key.openTime)
      (found : (s.store.getOrCreate key.symbol key.interval bucket seed).2 = .ok (c, origin))
  | range (start stop : Int) (limit : Nat) (rows : List Candle)
      (listed : s.store.range key.symbol key.interval start stop limit = .ok rows) (mem : c ∈ rows)
      (own : c.key = key)
  | latest (limit : Nat) (rows : List Candle)
      (listed : s.store.latest key.symbol key.interval limit = .ok rows) (mem : c ∈ rows)
      (own : c.key = key)
  | answer (trial : Trial) (mem : c ∈ s.answers trial) (own : c.key = key)
  | push (trial : Trial) (push : Push) (mem : push ∈ s.pushed trial)
      (shown : push.frame.candle? key = some c)

variable {s : Service} {key : CandleKey} {c row : Candle}

theorem keeps_undergo (s : Service) (trial : Trial) :
    s.store.rows.Keeps (s.undergo trial).store.rows := by
  rcases s.store_undergo trial with ⟨command, stepped⟩ | ⟨outage, failing⟩
  · rw [stepped]
    exact keeps_step s.toEngine command
  · rw [failing]
    exact Rows.Keeps.refl s.store.rows

theorem keeps_endure (s : Service) (trials : List Trial) :
    s.store.rows.Keeps (s.endure trials).store.rows :=
  endure_induction (motive := fun t => s.store.rows.Keeps t.store.rows)
    (fun trial kept => kept.trans (keeps_undergo _ trial)) (Rows.Keeps.refl s.store.rows) trials

theorem identified_undergo (identified : s.store.Identified) (trial : Trial) :
    (s.undergo trial).store.Identified := by
  rcases s.store_undergo trial with ⟨command, stepped⟩ | ⟨outage, failing⟩
  · exact stepped ▸ identified_step identified command
  · exact failing ▸ identified.of_fewer rfl fun _ _ found => found

theorem identified_endure (identified : s.store.Identified) (trials : List Trial) :
    (s.endure trials).store.Identified :=
  endure_induction (motive := fun s => s.store.Identified)
    (fun trial identified => identified_undergo identified trial) identified trials

theorem answers_stored (tidy : s.store.Tidy) {trial : Trial} (mem : c ∈ s.answers trial) :
    (s.undergo trial).store.rows.get? c.key = some c := by
  cases trial with
  | command command =>
      cases command with
      | act id act => cases mem
      | news news =>
          change (s.hear news).store.rows.get? c.key = some c
          rw [store_hear]
          cases news with
          | event event nanos =>
              unfold answers at mem
              dsimp only at mem
              rw [(s.ingestEvent_eq event nanos).1] at mem
              split at mem
              · rename_i written accepted
                obtain ⟨tick, -, rfl, engine⟩ := Ingester.ingestEvent_accepted accepted
                change (s.toIngester.ingestEvent event nanos).1.store.rows.get? c.key = some c
                rw [engine]
                exact (ingest_stored tidy mem).2
              · cases mem
              · cases mem
          | complete own =>
              unfold answers at mem
              dsimp only at mem
              rw [complete_outcome] at mem
              split at mem
              · rename_i row completed
                obtain rfl := Option.mem_toList.mp mem
                exact markCompleted_stored completed
              · cases mem
          | publish topic payload => cases mem
          | advance span wall => cases mem
  | ingest tick nanos =>
      obtain ⟨m, ingested⟩ := s.ingest_eq tick nanos
      have written : c ∈ (s.toEngine.ingest tick nanos).2 := (congrArg Prod.snd ingested) ▸ mem
      change (s.ingest tick nanos).1.store.rows.get? c.key = some c
      rw [store_ingest]
      exact (ingest_stored tidy written).2
  | purge => cases mem
  | outage outage => cases mem

theorem pushed_stored (tidy : s.store.Tidy) {trial : Trial} {push : Push}
    (mem : push ∈ s.pushed trial) (shown : push.frame.candle? key = some c) :
    (s.undergo trial).store.rows.get? key = some c := by
  cases trial with
  | command command =>
      cases command with
      | act id act => cases mem
      | news news =>
          change (s.hear news).store.rows.get? key = some c
          unfold pushed at mem
          dsimp only at mem
          split at mem
          · cases mem
          · rename_i genuine
            rw [store_hear]
            exact pushes_stored tidy (Bool.eq_false_iff.mpr genuine) mem shown
  | ingest tick nanos =>
      obtain ⟨written, answered, rfl⟩ := List.mem_map.mp mem
      obtain ⟨same, own⟩ := Frame.candle?_push shown
      cases same
      have mem : c ∈ s.answers (.ingest tick nanos) := answered
      exact own ▸ answers_stored tidy mem
  | purge => cases mem
  | outage outage => cases mem

theorem identity_of_stored (identified : s.store.Identified)
    (present : s.store.rows.get? key = some row)
    {trial : Trial} (stored : (s.undergo trial).store.rows.get? key = some c) :
    c.key = key ∧ c.identity = row.identity := by
  have next := identified_undergo identified trial
  obtain ⟨row', present', same⟩ :=
    (s.keeps_undergo trial).identity key row present (identified.stamped key row present)
  obtain rfl := Option.some.inj (stored.symm.trans present')
  exact ⟨next.keyed key c stored, same⟩

theorem Exhibits.identity (exhibits : s.Exhibits key c) (identified : s.store.Identified)
    (present : s.store.rows.get? key = some row) : c.key = key ∧ c.identity = row.identity := by
  have same_of_row (stored : s.store.rows.get? key = some c) :
      c.key = key ∧ c.identity = row.identity := by
    obtain rfl := Option.some.inj (stored.symm.trans present)
    exact ⟨identified.keyed key c stored, rfl⟩
  have answered {run : Rows → List Candle} {rows : List Candle}
      (listed : s.store.query key.interval run = .ok rows) : run s.store.rows = rows := by
    unfold query at listed
    split at listed
    · cases listed
    · exact Except.ok.inj listed
  cases exhibits with
  | row stored => exact same_of_row stored
  | cached entry held read =>
      obtain ⟨own, row', present', same⟩ := identified.shared key entry c held read
      obtain rfl := Option.some.inj (present.symm.trans present')
      exact ⟨own, same⟩
  | looked bucket seed origin opens found =>
      obtain ⟨symbol, interval, openTime⟩ := key
      obtain rfl := opens
      exact identified.of_found present found
  | range start stop limit rows listed mem own =>
      obtain rfl := answered listed
      exact same_of_row (own ▸ identified.filed.stored_of_range mem)
  | latest limit rows listed mem own =>
      obtain rfl := answered listed
      exact same_of_row (own ▸ identified.filed.stored_of_latest mem)
  | answer trial mem own =>
      exact identity_of_stored identified present (own ▸ answers_stored identified.toTidy mem)
  | push trial push mem shown =>
      exact identity_of_stored identified present (pushed_stored identified.toTidy mem shown)

/-- Once a key has a row, it has one for good, and every candle of the key that is to be seen later
has the id and the time of creation of this row. Rows of different keys have different ids, as long
as no id was handed out twice. In the table alone, the first upsert of a key settles its id and its
time of creation, whatever comes later, and the last one settles everything else. -/
theorem row_identity (settings : Settings) (now : Nat) (wall : Instant) (ids : Nat → Uuid)
    (before later : List Trial) :
    let s := (Gateway.create settings (.empty now wall ids)).service.endure before
    let t := s.endure later
    (∀ key row, s.store.rows.get? key = some row →
      row.Stamped ∧ (∃ row', t.store.rows.get? key = some row') ∧
        ∀ c, t.Exhibits key c → c.key = key ∧ c.id = row.id ∧ c.createdAt = row.createdAt) ∧
    ((∀ m ≤ t.store.rows.issued, ∀ n ≤ t.store.rows.issued, ids m = ids n → m = n) →
      ∀ key row key' row', t.store.rows.get? key = some row → t.store.rows.get? key' = some row' →
        key ≠ key' → row.id ≠ row'.id) ∧
    ∀ (upserts further : List Upsert) (first : Upsert),
      (∀ u ∈ upserts, u.candle.key ≠ first.candle.key) →
      (Rows.run ids (upserts ++ first :: further)).get? first.candle.key =
        some { (Rows.lastOf first further).candle with
          id := some (first.candle.id.getD (ids ((Rows.run ids upserts).issued + 1)))
          createdAt := some first.now
          updatedAt := some (Rows.lastOf first further).now } := by
  intro s t
  have early : s.store.Identified := identified_endure (identified_empty now wall ids) before
  have late : t.store.Identified := identified_endure early later
  refine ⟨?_, ?_, fun upserts further first new => Rows.get?_run_append upserts further new⟩
  · intro key row found
    have stamped := early.stamped key row found
    obtain ⟨row', found', same⟩ := (s.keeps_endure later).identity key row found stamped
    refine ⟨stamped, ⟨row', found'⟩, ?_⟩
    intro c exhibits
    obtain ⟨own, same'⟩ := exhibits.identity late found'
    have identity := same'.trans same
    exact ⟨own, congrArg Prod.fst identity, congrArg Prod.snd identity⟩
  · intro once key row key' row' found found' other
    obtain ⟨number, numbered⟩ := late.numbered
    have source : t.store.rows.ids = ids := (s.keeps_endure later).ids.trans (keeps_endure _ before).ids
    rw [← source] at once
    exact numbered.ids_ne once found found' other

theorem late_minute_identity :
    let one : Decimal := ⟨false, 1, 0, by decide, by decide⟩
    let hour : Instant := ⟨3600, 0, by decide, by decide, by decide⟩
    let minute : CandleKey := ⟨⟨"BTC-USDT"⟩, .oneMinute, 0⟩
    let day : CandleKey := ⟨⟨"BTC-USDT"⟩, .oneDay, 0⟩
    let trade : Trial := .ingest ⟨minute.symbol, one, one, .epoch⟩ 0
    let late : List Trial :=
      [.command (.news (.complete minute)), .command (.news (.advance 1000000000000000000 hour)), trade]
    let s := (Gateway.create .standard (.empty 0 .epoch Uuid.serial)).service.endure [trade]
    let t := s.endure late
    let candle := Candle.openBucket minute.symbol .oneMinute ⟨0, 60⟩ one
    let first : Upsert := ⟨candle, ⟨by decide, by decide, by decide, by decide, by decide⟩, .epoch⟩
    let second : Upsert :=
      ⟨{ candle with id := some (.serial 9), createdAt := some hour, completed := true },
        ⟨by decide, by decide, by decide, by decide, by decide⟩, hour⟩
    (∃ row row' whole, s.store.rows.get? minute = some row ∧ t.store.rows.get? minute = some row' ∧
      t.store.rows.get? day = some whole ∧ row'.id = row.id ∧ row'.createdAt = row.createdAt ∧
      row'.updatedAt = some hour ∧ row'.id ≠ whole.id) ∧
    (Rows.run Uuid.serial [first, second]).get? minute =
      some { second.candle with
        id := some (.serial 1), createdAt := some .epoch, updatedAt := some hour } := by
  intro one hour minute day trade late s t candle first second
  have present : (s.store.rows.get? minute).isSome = true := by decide +kernel
  have dated : (t.store.rows.get? minute).map Candle.updatedAt = some (some hour) := by decide +kernel
  have daily : (t.store.rows.get? day).isSome = true := by decide +kernel
  have few : t.store.rows.issued = 9 := by decide +kernel
  have small : t.store.rows.issued < Nat.pow 2 128 := few.trans_lt (by decide)
  have last : Rows.lastOf first [second] = second :=
    (Rows.lastOf_append first [] second).trans (if_pos rfl)
  obtain ⟨row, found⟩ := Option.isSome_iff_exists.mp present
  obtain ⟨row', found', updated⟩ := Option.map_eq_some_iff.mp dated
  obtain ⟨whole, found''⟩ := Option.isSome_iff_exists.mp daily
  -- put for the names, so that nothing is evaluated to see that the theorem speaks of these services
  dsimp only [s, t] at found found' found'' small ⊢
  obtain ⟨kept, apart, upserted⟩ := row_identity .standard 0 .epoch Uuid.serial [trade] late
  obtain ⟨-, id, createdAt⟩ := (kept minute row found).2.2 row' (.row found')
  have other := apart
    (fun m low n high => Uuid.eq_of_serial_eq (low.trans_lt small) (high.trans_lt small))
    minute row' day whole found' found'' (by decide)
  have settled := upserted [] [second] first (List.forall_mem_nil _)
  rw [last] at settled
  exact ⟨⟨row, row', whole, found, found', found'', id, createdAt, updated, other⟩, settled⟩

end Service

end CandleFeed
