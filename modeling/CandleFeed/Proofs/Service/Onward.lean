import CandleFeed.Proofs.Engine.Onward
import CandleFeed.Proofs.Engine.Written
import CandleFeed.Proofs.Service.News

/-!
# No reader sees a candle go back

A reader gets the frames of its outbox in the order in which they were offered, with gaps where the
queue was full. Each frame of a candle shows the row as it was then, so that the frames of one key
show the row going on.
-/

namespace CandleFeed

def Frame.candle? (key : CandleKey) (frame : Frame) : Option Candle :=
  match frame.message with
  | .push (.kline candle) => if candle.key = key then some candle else none
  | _ => none

def Frame.candles (key : CandleKey) (frames : List Frame) : List Candle :=
  frames.filterMap (Frame.candle? key)

def Effect.frames : Effect → List Frame
  | .received (.frame frame) => [frame]
  | _ => []

namespace Service

def receivedBy (s : Service) (id : ConnectionId) : Command → List Frame
  | .act own act => if own = id then (s.act own act).2.frames else []
  | .news _ => []

def received (s : Service) (id : ConnectionId) : List Command → List Frame
  | [] => []
  | command :: rest => s.receivedBy id command ++ (s.step command).received id rest

def waiting (s : Service) (id : ConnectionId) : List Frame :=
  ((s.outbox? id).map Outbox.frames).getD []

def Command.forges : Command → Bool
  | .news (.publish _ (.kline _)) => true
  | _ => false

end Service

namespace Frame

variable {key : CandleKey} {c : Candle}

theorem candles_append (key : CandleKey) (first second : List Frame) :
    candles key (first ++ second) = candles key first ++ candles key second :=
  List.filterMap_append

theorem candle?_push {payload : Payload} {now : Int}
    (shown : candle? key ⟨.push payload, now⟩ = some c) : payload = .kline c ∧ c.key = key := by
  unfold candle? at shown
  cases payload with
  | kline candle =>
      dsimp only at shown
      split at shown
      · rename_i own
        cases shown
        exact ⟨rfl, own⟩
      · cases shown
  | _ => cases shown

end Frame

/-! ## Acts -/

namespace Seat

variable {key : CandleKey}

theorem message_answer (topics : List Topic) (limit : Nat) (text : String) (payload : Payload) :
    (answer topics limit text).message ≠ .push payload := by
  rcases answer_cases topics limit text with
    ⟨cause, refused⟩ | ⟨request, after, message, -, performed, answered⟩
  · rw [refused]
    exact nofun
  · rw [answered, (performed_of_eq_ok performed).2]
    cases request <;> exact nofun

theorem candles_send (o : Outbox Frame) {frame : Frame} (plain : frame.candle? key = none) :
    Frame.candles key (o.send frame).1.frames = Frame.candles key o.frames := by
  rw [Outbox.frames_send]
  split
  · rw [Frame.candles_append]
    simp [Frame.candles, plain]
  · rfl

theorem frames_receive (o : Outbox Frame) :
    (Effect.received o.receive.2).frames ++ o.receive.1.frames = o.frames := by
  unfold Outbox.receive
  split
  · cases waits : o.frames with
    | nil => cases o.owned <;> exact waits
    | cons frame rest => rfl
  · rfl

theorem candles_act (seat : Seat) (limit : Nat) (now : Int) (act : Act) (key : CandleKey) :
    (Frame.candles key ((seat.act limit now act).2.frames ++
      (seat.act limit now act).1.outbox.frames)).Sublist (Frame.candles key seat.outbox.frames) := by
  have owner {done : Seat × Effect} (quiet : done.2.frames = [])
      (same : Frame.candles key done.1.outbox.frames = Frame.candles key seat.outbox.frames) :
      (Frame.candles key ((seat.asOwner done).2.frames ++ (seat.asOwner done).1.outbox.frames)).Sublist
        (Frame.candles key seat.outbox.frames) := by
    unfold asOwner
    split
    · rw [quiet, List.nil_append, same]
    · exact List.Sublist.refl _
  cases act with
  | start capacity policy => exact List.Sublist.refl _
  | text text =>
      refine owner rfl (candles_send seat.outbox ?_)
      unfold Frame.candle?
      dsimp only
      split
      · rename_i message
        exact absurd message (message_answer _ _ _ _)
      · rfl
  | receive =>
      unfold Seat.act
      dsimp only
      rw [frames_receive]
  | requestClose => exact owner rfl rfl
  | close reason => exact owner rfl rfl
  | drop => exact owner rfl rfl
  | abandon => exact List.nil_sublist _

end Seat

namespace Service

variable {s t : Service} {id : ConnectionId} {key : CandleKey}

theorem waiting_eq (s : Service) (id : ConnectionId) :
    s.waiting id = ((s.seat? id).map fun seat => seat.outbox.frames).getD [] := by
  rw [waiting, ← seat?_outbox, Option.map_map]
  rfl

theorem Sound.candles_act (sound : s.Sound) (id own : ConnectionId) (act : Act) (key : CandleKey) :
    (Frame.candles key (s.receivedBy id (.act own act) ++ (s.act own act).1.waiting id)).Sublist
      (Frame.candles key (s.waiting id)) := by
  obtain ⟨reseats, effect⟩ := sound.act own act
  dsimp only [receivedBy]
  rw [waiting_eq, waiting_eq]
  split
  · rename_i mine
    subst mine
    rw [reseats.own, effect]
    cases s.seat? own with
    | none => cases act <;> exact List.nil_sublist _
    | some seat => exact seat.candles_act s.registry.limit s.store.wall.millis act key
  · rename_i apart
    rw [reseats.others id (Ne.symm apart)]
    exact List.Sublist.refl _

/-! ## News -/

theorem kline_of_published {publicTrades : Bool} {event : TradeEvent} {outcome : EventOutcome}
    {c : Candle} (mem : .kline c ∈ outcome.published publicTrades event) :
    ∃ candles, outcome = .accepted candles ∧ c ∈ candles := by
  cases outcome with
  | rejected cause => cases mem
  | duplicate => cases mem
  | accepted candles =>
      rcases List.mem_append.mp mem with report | candle
      · -- the public trade shows no candle
        unfold TradeEvent.report at report
        split at report
        · split at report
          · cases report
          · split at report
            · cases List.mem_singleton.mp report
            · cases report
        · cases report
      · obtain ⟨row, changed, same⟩ := List.mem_map.mp candle
        cases same
        exact ⟨candles, rfl, changed⟩

theorem pushes_stored {i : Ingester} (tidy : i.store.Tidy) {publicTrades : Bool}
    {news : News} (genuine : Command.forges (.news news) = false) {push : Push} {c : Candle}
    (mem : push ∈ i.pushes publicTrades news) (shown : push.frame.candle? key = some c) :
    (i.hear news).store.rows.get? key = some c := by
  cases news with
  | event event nanos =>
      change (i.ingestEvent event nanos).1.store.rows.get? key = some c
      obtain ⟨payload, published, rfl⟩ := List.mem_map.mp mem
      obtain ⟨rfl, own⟩ := Frame.candle?_push shown
      obtain ⟨candles, outcome, changed⟩ := kline_of_published published
      obtain ⟨tick, -, rfl, engine⟩ := Ingester.ingestEvent_accepted outcome
      rw [engine, ← own]
      exact (Engine.ingest_stored tidy changed).2
  | complete own =>
      change (i.toEngine.markCompleted own).1.store.rows.get? key = some c
      unfold Ingester.pushes at mem
      dsimp only at mem
      split at mem
      · rename_i row completed
        obtain rfl := List.mem_singleton.mp mem
        obtain ⟨same, own⟩ := Frame.candle?_push shown
        cases same
        rw [← own]
        exact Engine.markCompleted_stored completed
      · cases mem
      · cases mem
  | publish topic payload =>
      obtain rfl := List.mem_singleton.mp mem
      obtain ⟨rfl, -⟩ := Frame.candle?_push shown
      cases genuine
  | advance span wall => cases mem

/-! ## Runs -/

/-- The candles of a key that a reader has got or will get, after so many commands: they go on, up
to the row of the table. -/
structure Shows (commands : Nat) (key : CandleKey) (s : Service) (candles : List Candle) : Prop where
  grown : s.store.Grown commands
  ordered : candles.Pairwise (Candle.Onward commands)
  current : ∀ c ∈ candles, ∃ row, s.store.rows.get? key = some row ∧ c.Onward commands row

variable {commands : Nat} {candles more : List Candle}

theorem Shows.sublist (shows : Shows commands key s candles) (fewer : more.Sublist candles) :
    Shows commands key s more where
  grown := shows.grown
  ordered := shows.ordered.sublist fewer
  current c mem := shows.current c (fewer.subset mem)

theorem Shows.news (shows : Shows commands key s candles)
    (grown : t.store.Grown (commands + 1)) (onward : s.store.Onward (commands + 1) t.store)
    (new : ∀ c ∈ more, t.store.rows.get? key = some c) :
    Shows (commands + 1) key t (candles ++ more) := by
  have old (c : Candle) (mem : c ∈ candles) :
      ∃ row, t.store.rows.get? key = some row ∧ c.Onward (commands + 1) row := by
    obtain ⟨row, found, reached⟩ := shows.current c mem
    obtain ⟨row', found', further⟩ := onward key row found
    exact ⟨row', found', reached.trans further (Nat.le_succ _)⟩
  have latest (c : Candle) (mem : c ∈ candles) (d : Candle) (fresh : d ∈ more) :
      c.Onward (commands + 1) d := by
    obtain ⟨row, found, reached⟩ := old c mem
    obtain rfl := Option.some.inj (found.symm.trans (new d fresh))
    exact reached
  constructor
  case grown => exact grown
  case ordered =>
    refine List.pairwise_append.mpr ⟨shows.ordered.imp fun onward => onward.mono (Nat.le_succ _), ?_, latest⟩
    -- all of the new candles are the one row
    refine List.pairwise_of_forall_mem_list ?_
    intro c fresh d fresh'
    obtain rfl := Option.some.inj ((new c fresh).symm.trans (new d fresh'))
    exact .refl _ c
  case current =>
    intro c mem
    rcases List.mem_append.mp mem with before | fresh
    · exact old c before
    · exact ⟨c, new c fresh, .refl _ c⟩

theorem hear_onward {i : Ingester} (grown : i.store.Grown commands) (news : News) :
    (i.hear news).store.Grown (commands + 1) ∧
      i.store.Onward (commands + 1) (i.hear news).store := by
  rcases hear_store i news with same | ⟨command, same, -⟩
  · rw [same]
    exact ⟨grown.mono (Nat.le_succ _), .refl _ _⟩
  · rw [same]
    exact Engine.step_onward grown command

theorem Sound.waiting_hear (sound : s.Sound) (news : News) (id : ConnectionId) :
    ∃ fresh, (s.hear news).waiting id = s.waiting id ++ fresh ∧
      fresh.Sublist (s.offered news id) := by
  unfold waiting
  rw [(sound.hear news).outboxes]
  cases s.outbox? id with
  | none => exact ⟨[], rfl, List.nil_sublist _⟩
  | some outbox => exact ⟨_, Outbox.frames_offer outbox _, List.take_sublist _ _⟩

theorem Sound.offered_stored (sound : s.Sound) {news : News}
    (genuine : Command.forges (.news news) = false) {c : Candle}
    (mem : c ∈ Frame.candles key (s.offered news id)) :
    (s.toIngester.hear news).store.rows.get? key = some c := by
  obtain ⟨frame, wanted, shown⟩ := List.mem_filterMap.mp mem
  rw [sound.offered_eq] at wanted
  obtain ⟨push, pushed, rfl⟩ := List.mem_map.mp wanted
  exact pushes_stored sound.coherent.tidy genuine (List.mem_filter.mp pushed).1 shown

theorem Sound.shows_step (sound : s.Sound) {before : List Frame} {command : Command}
    (genuine : command.forges = false)
    (shows : Shows commands key s (Frame.candles key (before ++ s.waiting id))) :
    Shows (commands + 1) key (s.step command)
      (Frame.candles key ((before ++ s.receivedBy id command) ++ (s.step command).waiting id)) := by
  cases command with
  | act own act =>
      obtain ⟨m, same⟩ := (sound.act own act).1.ingester
      have store : (s.act own act).1.store = s.store := by
        rw [same]
        rfl
      -- what is received was waiting, and keeps its place ahead of what waits still
      have fewer := sound.candles_act id own act key
      have shows : Shows (commands + 1) key (s.act own act).1
          (Frame.candles key (before ++ s.waiting id) ++ []) := by
        refine shows.news ?_ ?_ (List.forall_mem_nil _)
        · rw [store]
          exact shows.grown.mono (Nat.le_succ _)
        · rw [store]
          exact .refl _ _
      refine shows.sublist ?_
      rw [List.append_assoc, List.append_nil, Frame.candles_append,
        Frame.candles_append key before (s.waiting id)]
      exact fewer.append_left _
  | news news =>
      obtain ⟨m, same⟩ := (sound.hear news).ingester
      have store : (s.hear news).store = (s.toIngester.hear news).store := by
        rw [same]
        rfl
      obtain ⟨fresh, waits, offered⟩ := sound.waiting_hear news id
      obtain ⟨grown, onward⟩ := hear_onward shows.grown news
      change Shows (commands + 1) key (s.hear news)
        (Frame.candles key ((before ++ []) ++ (s.hear news).waiting id))
      rw [waits, List.append_nil, ← List.append_assoc, Frame.candles_append]
      refine shows.news (store ▸ grown) (store ▸ onward) ?_
      rw [store]
      exact fun c mem => sound.offered_stored genuine ((offered.filterMap _).subset mem)

theorem Sound.shows_run (sound : s.Sound) {before : List Frame} {later : List Command}
    (genuine : ∀ command ∈ later, command.forges = false)
    (shows : Shows commands key s (Frame.candles key (before ++ s.waiting id))) :
    Shows (commands + later.length) key (s.run later)
      (Frame.candles key ((before ++ s.received id later) ++ (s.run later).waiting id)) := by
  induction later generalizing s before commands with
  | nil =>
      rw [received, List.append_nil]
      exact shows
  | cons command rest ih =>
      have first := sound.shows_step (genuine command List.mem_cons_self) shows
      have all := ih (sound.step command)
        (fun other mem => genuine other (List.mem_cons_of_mem _ mem)) first
      rw [received, ← List.append_assoc, List.length_cons, Nat.add_comm rest.length, ← Nat.add_assoc]
      exact all

/-- The frames of one candle that a reader gets show it going on, whatever is done to the service
and whatever frames are lost. -/
theorem received_onward (settings : Settings) (now : Nat) (wall : Instant) (ids : Nat → Uuid)
    {commands : List Command} (genuine : ∀ command ∈ commands, command.forges = false)
    (id : ConnectionId) (key : CandleKey) :
    let s := (Gateway.create settings (.empty now wall ids)).service
    (Frame.candles key (s.received id commands)).Pairwise (Candle.Onward commands.length) := by
  intro s
  have sound := sound_create settings now wall ids
  have start : Shows 0 key s (Frame.candles key ([] ++ s.waiting id)) :=
    ⟨Store.grown_empty now wall ids, List.Pairwise.nil, List.forall_mem_nil _⟩
  have all := (sound.shows_run genuine start).ordered
  rw [List.nil_append, Nat.zero_add, Frame.candles_append] at all
  exact (List.pairwise_append.mp all).1

def oneTrade : TradeEvent where
  eventId := "1"
  eventType := "TRADE_EXECUTED"
  eventVersion := none
  timestamp := .epoch
  sourceService := none
  correlationId := none
  payload := ⟨"1", "BTC/USDT", "2", "1", none, none, none, none, none, none, none, none⟩

theorem completed_minute_onward :
    let minute : CandleKey := ⟨⟨"BTC-USDT"⟩, .oneMinute, 0⟩
    let text :=
      "\x7b\"type\":\"subscribe\",\"channel\":\"kline\",\"symbol\":\"BTC-USDT\",\"interval\":\"1m\"\x7d"
    let commands : List Command :=
      [.act ⟨1⟩ (.start 4 .disconnect), .act ⟨1⟩ (.text text), .news (.event oneTrade 0),
        .act ⟨1⟩ .receive, .act ⟨1⟩ .receive, .news (.complete minute), .act ⟨1⟩ .receive]
    let candles := Frame.candles minute
      ((Gateway.create .standard (.empty 0 .epoch Uuid.serial)).service.received ⟨1⟩ commands)
    (∀ command ∈ commands, command.forges = false) ∧
      candles.map Candle.completed = [false, true] ∧
      candles.Pairwise (Candle.Onward commands.length) := by
  refine ⟨by decide, by decide +kernel, ?_⟩
  exact received_onward .standard 0 .epoch Uuid.serial (by decide) ⟨1⟩ ⟨⟨"BTC-USDT"⟩, .oneMinute, 0⟩

end Service

end CandleFeed
