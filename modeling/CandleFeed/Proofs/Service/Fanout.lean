import CandleFeed.Proofs.Gateway.Moves
import CandleFeed.Proofs.Service.Wiring

/-!
# One frame for many outboxes

A publication goes through the subscribers of its topic one by one, in whatever order they are
listed. Each of them has an outbox of its own, so that none of them sees what became of the others.
A frame is taken, finds the queue full, or comes to an outbox that takes nothing any more.
-/

namespace CandleFeed

namespace Outbox

variable {φ : Type}

def isOpen (o : Outbox φ) : Bool :=
  o.owned && o.read && !o.closing

def hasRoom (o : Outbox φ) : Bool :=
  o.isOpen && !o.isFull

def isClogged (o : Outbox φ) : Bool :=
  o.isOpen && o.isFull

theorem enqueue_eq (o : Outbox φ) (frame : φ) :
    o.enqueue frame =
      if o.hasRoom then ({ o with frames := o.frames ++ [frame] }, none)
      else if o.isClogged then (o.overflow, some (.full o.capacity))
      else (o, some .closed) := by
  unfold enqueue send hasRoom isClogged isOpen
  cases o.owned <;> cases o.read <;> cases o.closing <;> cases o.isFull <;> rfl

theorem enqueue_hasRoom {o : Outbox φ} (room : o.hasRoom = true) (frame : φ) :
    o.enqueue frame = ({ o with frames := o.frames ++ [frame] }, none) := by
  rw [enqueue_eq, if_pos room]

theorem enqueue_clogged {o : Outbox φ} (clogged : o.isClogged = true) (frame : φ) :
    o.enqueue frame = ({ o with
      dropped := (o.dropped + 1) % UInt64.size
      closing := o.policy = .disconnect }, some (.full o.capacity)) := by
  obtain ⟨opened, full⟩ := (Bool.and_eq_true _ _).mp clogged
  have running : o.closing = false := by
    rw [isOpen, Bool.and_eq_true, Bool.not_eq_true'] at opened
    exact opened.2
  have stuffed : ¬ o.hasRoom = true := by
    rw [hasRoom, full, Bool.not_true, Bool.and_false]
    exact Bool.false_ne_true
  rw [enqueue_eq, if_neg stuffed, if_pos clogged, overflow_eq, running, Bool.false_or]

theorem enqueue_not_open {o : Outbox φ} (shut : o.isOpen = false) (frame : φ) :
    o.enqueue frame = (o, some .closed) := by
  rw [enqueue_eq, hasRoom, isClogged, shut, Bool.false_and, Bool.false_and, if_neg Bool.false_ne_true,
    if_neg Bool.false_ne_true]

end Outbox

namespace Metrics

def dropping (m : Metrics) (count : Nat) : Metrics :=
  { m with framesDropped := m.framesDropped + .ofNat count }

theorem dropping_zero (m : Metrics) : m.dropping 0 = m := by
  unfold dropping
  rw [show UInt64.ofNat 0 = 0 from rfl, UInt64.add_zero]

theorem dropping_dropping (m : Metrics) (first second : Nat) :
    (m.dropping first).dropping second = m.dropping (first + second) := by
  unfold dropping
  rw [UInt64.ofNat_add, UInt64.add_assoc]

def fannedOut (m : Metrics) (published taken dropped : Nat) : Metrics :=
  { m with
    framesPublished := m.framesPublished + .ofNat published
    framesEnqueued := m.framesEnqueued + .ofNat taken
    framesDropped := m.framesDropped + .ofNat dropped }

theorem fannedOut_zero (m : Metrics) : m.fannedOut 0 0 0 = m := by
  unfold fannedOut
  rw [show UInt64.ofNat 0 = 0 from rfl, UInt64.add_zero, UInt64.add_zero, UInt64.add_zero]

end Metrics

namespace Service

/-! ## One subscriber -/

def behind (s : Service) (test : Outbox Frame → Bool) (handle : Handle) : Bool :=
  (s.outboxes.get? handle.outbox).any test

inductive Answered (s : Service) (handle : Handle) : Option Refusal → Prop
  | taken (room : s.behind Outbox.hasRoom handle = true)
      (clear : s.behind Outbox.isClogged handle = false) : Answered s handle none
  | full (capacity : Nat) (stuffed : s.behind Outbox.hasRoom handle = false)
      (clogged : s.behind Outbox.isClogged handle = true) : Answered s handle (some (.full capacity))
  | closed (stuffed : s.behind Outbox.hasRoom handle = false)
      (clear : s.behind Outbox.isClogged handle = false) : Answered s handle (some .closed)

theorem answered_offer (s : Service) (handle : Handle) (frame : Frame) :
    s.Answered handle (s.offer handle frame).2 := by
  have behind (test : Outbox Frame → Bool) :
      s.behind test handle = (s.outboxes.get? handle.outbox).any test := rfl
  unfold offer
  cases found : s.outboxes.get? handle.outbox with
  | none =>
      rw [found] at behind
      exact .closed (behind _) (behind _)
  | some o =>
      rw [found] at behind
      have room : s.behind Outbox.hasRoom handle = o.hasRoom := behind _
      have clogged : s.behind Outbox.isClogged handle = o.isClogged := behind _
      dsimp only
      rw [Outbox.enqueue_eq]
      split
      · rename_i taken
        have clear : o.isClogged = false := by
          rw [Outbox.hasRoom, Bool.and_eq_true, Bool.not_eq_true'] at taken
          rw [Outbox.isClogged, taken.2, Bool.and_false]
        exact .taken (room.trans taken) (clogged.trans clear)
      · rename_i stuffed
        split
        · rename_i full
          exact .full o.capacity (room.trans (Bool.eq_false_iff.mpr stuffed)) (clogged.trans full)
        · rename_i clear
          exact .closed (room.trans (Bool.eq_false_iff.mpr stuffed))
            (clogged.trans (Bool.eq_false_iff.mpr clear))

theorem deliver_eq_sending (frame : Frame) (state : Service × Report) (handle : Handle) :
    deliver frame state handle =
      (state.1.sending [(handle, frame)]
          (state.1.metrics.dropping (if state.1.behind Outbox.isClogged handle then 1 else 0)),
        if state.1.behind Outbox.hasRoom handle then
          { state.2 with delivered := state.2.delivered + 1 }
        else { state.2 with failed := state.2.failed + 1 }) := by
  have answered := answered_offer state.1 handle frame
  have offered := offer_eq state.1 handle frame
  unfold deliver
  generalize state.1.offer handle frame = answer at answered offered
  obtain ⟨after, refusal⟩ := answer
  obtain rfl : after = _ := offered
  cases answered with
  | taken room clear =>
      rw [room, clear, if_neg Bool.false_ne_true, if_pos rfl, Metrics.dropping_zero]
  | full capacity stuffed clogged =>
      rw [stuffed, clogged, if_neg Bool.false_ne_true, if_pos rfl]
      rfl
  | closed stuffed clear =>
      rw [stuffed, clear, if_neg Bool.false_ne_true, if_neg Bool.false_ne_true, Metrics.dropping_zero]

/-! ## A round of subscribers -/

variable {s : Service} {handle : Handle} {order : List Handle}

theorem behind_sending (test : Outbox Frame → Bool) (frame : Frame) (m : Metrics) {other : Handle}
    (apart : other.outbox ≠ handle.outbox) :
    (s.sending [(handle, frame)] m).behind test other = s.behind test other := by
  unfold behind sending
  dsimp only
  rw [List.foldl_cons, List.foldl_nil, offerTo, Table.get?_modify, if_neg apart]

theorem countP_sending (test : Outbox Frame → Bool) (frame : Frame) (m : Metrics)
    (apart : ∀ other ∈ order, other.outbox ≠ handle.outbox) :
    order.countP ((s.sending [(handle, frame)] m).behind test) = order.countP (s.behind test) := by
  apply List.countP_congr
  intro other mem
  rw [behind_sending test frame m (apart other mem)]

theorem foldl_deliver_eq_sending (frame : Frame) (distinct : (order.map Handle.outbox).Nodup)
    (state : Service × Report) :
    order.foldl (deliver frame) state =
      (state.1.sending (order.map fun handle => (handle, frame))
          (state.1.metrics.dropping (order.countP (state.1.behind Outbox.isClogged))),
        { state.2 with
          delivered := state.2.delivered + order.countP (state.1.behind Outbox.hasRoom)
          failed := state.2.failed +
            (order.length - order.countP (state.1.behind Outbox.hasRoom)) }) := by
  induction order generalizing state with
  | nil =>
      rw [List.foldl_nil, List.countP_nil, List.countP_nil, Metrics.dropping_zero]
      rfl
  | cons handle rest ih =>
      rw [List.map_cons, List.nodup_cons] at distinct
      -- the first offer leaves the outboxes of the rest alone, so these count as they did before it
      have apart : ∀ other ∈ rest, other.outbox ≠ handle.outbox := by
        intro other mem same
        exact distinct.1 (List.mem_map.mpr ⟨other, mem, same⟩)
      have few : rest.countP (state.1.behind Outbox.hasRoom) ≤ rest.length := List.countP_le_length
      rw [List.foldl_cons, ih distinct.2, deliver_eq_sending]
      dsimp only
      rw [countP_sending _ _ _ apart, countP_sending _ _ _ apart, sending_sending, List.countP_cons,
        List.countP_cons, List.length_cons]
      congr 1
      · unfold sending
        dsimp only
        rw [Metrics.dropping_dropping, Nat.add_comm]
        rfl
      · split
        · rw [Report.mk.injEq]
          dsimp only
          omega
        · rw [Report.mk.injEq]
          dsimp only
          omega

theorem framesAt_round (frame : Frame) (distinct : (order.map Handle.outbox).Nodup) (number : Nat) :
    framesAt number (order.map fun handle => (handle, frame)) =
      if number ∈ order.map Handle.outbox then [frame] else [] := by
  have frames : framesAt number (order.map fun handle => (handle, frame)) =
      (order.filter fun handle => handle.outbox = number).map fun _ => frame := by
    unfold framesAt
    rw [List.filter_map, List.map_map]
    rfl
  rw [frames, map_filter_const_of_nodup distinct]

def publishOver (s : Service) (order : List Handle) (payload : Payload) : Service × Report :=
  if order = [] then (s, ⟨0, 0, 0⟩)
  else
    let frame := s.frame (.push payload)
    let (s, report) := order.foldl (deliver frame) (s, ⟨order.length, 0, 0⟩)
    (s.setMetrics fun m => m.published (.ofNat report.delivered), report)

theorem publishOn_eq_publishOver (s : Service) (topic : Topic) (payload : Payload) :
    s.publishOn topic payload = s.publishOver (s.registry.subscribers topic) payload := rfl

/-! ## The outboxes that listen -/

/-- Whether an outbox is the one that its connection registered, and the connection wants a
topic. -/
def listens (s : Service) (topic : Topic) (number : Nat) (o : Outbox Frame) : Bool :=
  s.registry.isSubscribed o.connection topic &&
    s.registry.handle? o.connection = some ⟨o.connection, number⟩

variable {topic : Topic}

theorem Wired.listens_iff (wired : s.Wired) {number : Nat} {o : Outbox Frame}
    (found : s.outboxes.get? number = some o) :
    s.listens topic number o = true ↔
      ∃ handle ∈ s.registry.subscribers topic, handle.outbox = number := by
  unfold listens
  rw [Bool.and_eq_true, decide_eq_true_eq]
  constructor
  · intro listens
    exact ⟨⟨o.connection, number⟩, wired.mem_subscribers_iff.mpr listens, rfl⟩
  · rintro ⟨handle, mem, rfl⟩
    obtain ⟨subscribed, known⟩ := wired.mem_subscribers_iff.mp mem
    obtain ⟨-, own, found', connection⟩ := wired.placed _ handle known
    rw [found] at found'
    cases found'
    rw [connection]
    exact ⟨subscribed, known⟩

theorem Wired.exists_listens (wired : s.Wired) {id : ConnectionId}
    (subscribed : s.registry.isSubscribed id topic = true) :
    ∃ n o, s.outboxes.get? n = some o ∧ o.connection = id ∧ s.listens topic n o = true := by
  obtain ⟨entry, known, -⟩ := (Option.any_eq_true _ _).mp subscribed
  have known := Registry.handle?_of_get? known
  obtain ⟨owner, o, found, connection⟩ := wired.placed id entry.handle known
  refine ⟨entry.handle.outbox, o, found, connection, (wired.listens_iff found).mpr ?_⟩
  refine ⟨entry.handle, wired.mem_subscribers_iff.mpr ?_, rfl⟩
  rw [owner]
  exact ⟨subscribed, known⟩

def listening (s : Service) (topic : Topic) (test : Outbox Frame → Bool) : Nat :=
  s.outboxes.entries.countP fun entry => s.listens topic entry.1 entry.2 && test entry.2

theorem Wired.listening_eq (wired : s.Wired) (topic : Topic) (test : Outbox Frame → Bool) :
    s.listening topic test = (s.registry.subscribers topic).countP (s.behind test) := by
  -- both are counted by the numbers of the outboxes, which are distinct on either side
  let heard := s.outboxes.entries.filter fun entry => s.listens topic entry.1 entry.2 && test entry.2
  let named := (s.registry.subscribers topic).filter (s.behind test)
  have distinct : (heard.map Prod.fst).Nodup :=
    s.outboxes.distinct.sublist (List.filter_sublist.map Prod.fst)
  have distinct' : (named.map Handle.outbox).Nodup :=
    (wired.nodup_outboxes topic).sublist (List.filter_sublist.map Handle.outbox)
  have same : ∀ n, n ∈ heard.map Prod.fst ↔ n ∈ named.map Handle.outbox := by
    intro n
    simp only [heard, named, List.mem_map, List.mem_filter, Bool.and_eq_true]
    constructor
    · rintro ⟨⟨number, o⟩, ⟨mem, listens, passes⟩, rfl⟩
      have found := (s.outboxes.mem_iff_get? number o).mp mem
      obtain ⟨handle, subscriber, rfl⟩ := (wired.listens_iff found).mp listens
      refine ⟨handle, ⟨subscriber, ?_⟩, rfl⟩
      rw [behind, found]
      exact passes
    · rintro ⟨handle, ⟨subscriber, passes⟩, rfl⟩
      obtain ⟨o, found, passes⟩ := (Option.any_eq_true _ _).mp passes
      exact ⟨(handle.outbox, o), ⟨(s.outboxes.mem_iff_get? _ _).mpr found,
        (wired.listens_iff found).mpr ⟨handle, subscriber, rfl⟩, passes⟩, rfl⟩
  have counted := ((List.perm_ext_iff_of_nodup distinct distinct').mpr same).length_eq
  rw [List.length_map, List.length_map] at counted
  rw [listening, List.countP_eq_length_filter, List.countP_eq_length_filter]
  exact counted

/-! ## A publication -/

/-- What a publication does. The outboxes that listen and take frames get the same frame, each once,
at their end, or lose it if they are full, and no other outbox changes. -/
structure FansOut (s : Service) (topic : Topic) (payload : Payload) (done : Service × Report) :
    Prop where
  reached : ∀ id, s.registry.isSubscribed id topic = true →
    ∃ n o, s.outboxes.get? n = some o ∧ o.connection = id ∧ s.listens topic n o = true
  taken : ∀ n o, s.outboxes.get? n = some o → s.listens topic n o = true → o.hasRoom = true →
    done.1.outboxes.get? n = some { o with frames := o.frames ++ [s.frame (.push payload)] }
  lost : ∀ n o, s.outboxes.get? n = some o → s.listens topic n o = true → o.isClogged = true →
    done.1.outboxes.get? n = some { o with
      dropped := (o.dropped + 1) % UInt64.size
      closing := o.policy = .disconnect }
  kept : ∀ n o, s.outboxes.get? n = some o → (s.listens topic n o && o.isOpen) = false →
    done.1.outboxes.get? n = some o
  numbers : ∀ n, s.outboxes.get? n = none → done.1.outboxes.get? n = none
  registry : done.1.registry = s.registry
  rest : done.1 = { s with
    outboxes := done.1.outboxes
    metrics := s.metrics.fannedOut (if s.registry.subscribers topic = [] then 0 else 1)
      done.2.delivered (s.listening topic Outbox.isClogged) }
  subscribers : done.2.subscribers = (s.registry.subscribers topic).length
  delivered : done.2.delivered = s.listening topic Outbox.hasRoom
  failed : done.2.delivered + done.2.failed = done.2.subscribers

theorem get?_round (s : Service) (frame : Frame) (m : Metrics)
    (distinct : (order.map Handle.outbox).Nodup) (number : Nat) :
    (s.sending (order.map fun handle => (handle, frame)) m).outboxes.get? number =
      (s.outboxes.get? number).map fun o =>
        if number ∈ order.map Handle.outbox then (o.enqueue frame).1 else o := by
  unfold sending
  dsimp only
  rw [get?_offers, framesAt_round frame distinct]
  congr 1
  funext o
  split <;> rfl

theorem publishOver_eq (s : Service) (payload : Payload)
    (distinct : (order.map Handle.outbox).Nodup) :
    s.publishOver order payload =
      (s.sending (order.map fun handle => (handle, s.frame (.push payload)))
          (s.metrics.fannedOut (if order = [] then 0 else 1) (order.countP (s.behind Outbox.hasRoom))
            (order.countP (s.behind Outbox.isClogged))),
        ⟨order.length, order.countP (s.behind Outbox.hasRoom),
          order.length - order.countP (s.behind Outbox.hasRoom)⟩) := by
  unfold publishOver
  split
  · rename_i alone
    rw [alone, List.countP_nil, List.countP_nil, Metrics.fannedOut_zero]
    rfl
  · dsimp only
    rw [foldl_deliver_eq_sending _ distinct, Nat.zero_add, Nat.zero_add]
    rfl

theorem Wired.publishOver_fansOut (wired : s.Wired)
    (perm : order.Perm (s.registry.subscribers topic)) (payload : Payload) :
    s.FansOut topic payload (s.publishOver order payload) := by
  have distinct : (order.map Handle.outbox).Nodup :=
    (perm.map Handle.outbox).nodup_iff.mpr (wired.nodup_outboxes topic)
  have listening (test : Outbox Frame → Bool) :
      order.countP (s.behind test) = s.listening topic test := by
    rw [wired.listening_eq, perm.countP_eq]
  have listens {n : Nat} {o : Outbox Frame} (found : s.outboxes.get? n = some o) :
      s.listens topic n o = true ↔ n ∈ order.map Handle.outbox := by
    rw [wired.listens_iff found, List.mem_map]
    exact exists_congr fun handle => and_congr_left fun _ => perm.mem_iff.symm
  rw [publishOver_eq s payload distinct]
  have placed (m : Metrics) := get?_round s (s.frame (.push payload)) m distinct
  constructor
  case reached => exact fun id subscribed => wired.exists_listens subscribed
  case taken =>
    intro n o found own room
    rw [placed, found, Option.map_some, if_pos ((listens found).mp own), Outbox.enqueue_hasRoom room]
  case lost =>
    intro n o found own clogged
    rw [placed, found, Option.map_some, if_pos ((listens found).mp own), Outbox.enqueue_clogged clogged]
  case kept =>
    intro n o found apart
    rw [placed, found, Option.map_some]
    split
    · rename_i own
      rw [(listens found).mpr own, Bool.true_and] at apart
      rw [Outbox.enqueue_not_open apart]
    · rfl
  case numbers =>
    intro n missing
    rw [placed, missing]
    rfl
  case registry => rfl
  case rest =>
    have nobody : order = [] ↔ s.registry.subscribers topic = [] := by
      rw [← List.length_eq_zero_iff, perm.length_eq, List.length_eq_zero_iff]
    simp only [nobody, listening]
    rfl
  case subscribers => exact perm.length_eq
  case delivered => exact listening _
  case failed =>
    have few : order.countP (s.behind Outbox.hasRoom) ≤ order.length := List.countP_le_length
    exact Nat.add_sub_cancel' few

theorem Sound.publish_fansOut (sound : s.Sound) (payload : Payload) :
    s.FansOut payload.topic payload (s.publish payload) := by
  rw [publish, publishOn_eq_publishOver]
  exact sound.wired.publishOver_fansOut (List.Perm.refl _) payload

/-- What a publication does after every run in which no connection registers twice, in whatever
order the subscribers are listed, that of the registry among others. The service of a gateway
publishes so whatever was done to the gateway. -/
theorem operateAll_fansOut (ingester : Ingester) (maxSubscriptions : Nat) (publicTrades : Bool)
    {operations : List Operation} (once : (registered operations).Nodup) (topic : Topic)
    (payload : Payload) :
    let s := (create ingester maxSubscriptions publicTrades).operateAll operations
    (∀ order : List Handle, order.Perm (s.registry.subscribers topic) →
      s.FansOut topic payload (s.publishOver order payload)) ∧
    s.FansOut topic payload (s.publishOn topic payload) ∧
    ∀ (settings : Settings) (now : Nat) (wall : Instant) (ids : Nat → Uuid) (moves : List Gateway.Move),
      let t := ((Gateway.create settings (.empty now wall ids)).run moves).service
      t.FansOut payload.topic payload (t.publish payload) := by
  intro s
  have wired : s.Wired :=
    (wired_create ingester maxSubscriptions publicTrades).operateAll once fun _ _ => rfl
  refine ⟨fun order perm => wired.publishOver_fansOut perm payload, ?_, ?_⟩
  · rw [publishOn_eq_publishOver]
    exact wired.publishOver_fansOut (List.Perm.refl _) payload
  · intro settings now wall ids moves
    exact (Gateway.leads_run settings now wall ids moves).linked.sound.publish_fansOut payload

theorem crowd_fansOut :
    let book : Topic := .depth ⟨"BTC-USDT"⟩
    let payload : Payload := .depth ⟨⟨"BTC-USDT"⟩, [], [], 0⟩
    let ids : List ConnectionId := [⟨1⟩, ⟨2⟩, ⟨3⟩, ⟨4⟩, ⟨5⟩]
    let order : List Handle := [⟨⟨5⟩, 4⟩, ⟨⟨4⟩, 3⟩, ⟨⟨3⟩, 2⟩, ⟨⟨2⟩, 1⟩, ⟨⟨1⟩, 0⟩]
    let operations : List Operation :=
      [.make ⟨1⟩ 1 .disconnect, .make ⟨2⟩ 1 .dropNewest, .make ⟨3⟩ 2 .disconnect,
        .make ⟨4⟩ 2 .dropNewest, .make ⟨5⟩ 2 .dropNewest] ++
      order.map (fun handle => .registry (.register handle)) ++
      ids.map (fun id => .registry (.subscribe id book)) ++
      [.outbox 0 (.enqueue ⟨.pong, 0⟩), .outbox 1 (.send ⟨.pong, 0⟩), .outbox 3 .requestClose,
        .outbox 4 .disown]
    let s :=
      (create (.create (.create (.empty 0 .epoch Uuid.serial) .standard) 10) 1 true).operateAll operations
    (registered operations).Nodup ∧ order.Perm (s.registry.subscribers book) ∧
      s.FansOut book payload (s.publishOver order payload) ∧
      (s.publishOver order payload).2 = ⟨5, 1, 4⟩ := by
  intro book payload ids order operations s
  have once : (registered operations).Nodup := by decide +kernel
  have perm : order.Perm (s.registry.subscribers book) := by decide +kernel
  exact ⟨once, perm, (operateAll_fansOut _ _ _ once book payload).1 order perm, by decide +kernel⟩

end Service

end CandleFeed
