import CandleFeed.Outbox
import Mathlib.Data.List.Induction

/-!
# What becomes of frames

An outbox with a reader is sent frames, from its owner and through the registry, and the reader
takes them out again. What happened is kept in a log, and the outbox is described by its log.
-/

namespace CandleFeed.Outbox

variable {φ : Type}

inductive Command (φ : Type)
  | enqueue (frame : φ)
  | send (frame : φ)
  | receive
  | requestClose
  | disown

inductive Outcome (φ : Type)
  | sent (frame : φ) (refusal : Option Refusal)
  | received (receipt : Receipt φ)
  | closeRequested
  | disowned
  | absent

def asOwner (o : Outbox φ) (done : Outbox φ × Outcome φ) : Outbox φ × Outcome φ :=
  if o.owned then done else (o, .absent)

def step (o : Outbox φ) : Command φ → Outbox φ × Outcome φ
  | .enqueue frame => ((o.enqueue frame).1, .sent frame (o.enqueue frame).2)
  | .send frame => o.asOwner ((o.send frame).1, .sent frame (o.send frame).2)
  | .receive => (o.receive.1, .received o.receive.2)
  | .requestClose => o.asOwner (o.requestClose, .closeRequested)
  | .disown => o.asOwner (o.disown, .disowned)

def run (o : Outbox φ) : List (Command φ) → Outbox φ × List (Outcome φ)
  | [] => (o, [])
  | command :: rest =>
      let (o, outcome) := o.step command
      let (o, log) := o.run rest
      (o, outcome :: log)

theorem run_concat (o : Outbox φ) (commands : List (Command φ)) (command : Command φ) :
    o.run (commands ++ [command]) =
      (((o.run commands).1.step command).1,
        (o.run commands).2 ++ [((o.run commands).1.step command).2]) := by
  induction commands generalizing o with
  | nil => rfl
  | cons first rest ih => simp [run, ih]

/-! ## The log -/

def Outcome.attempted? : Outcome φ → Option φ
  | .sent frame _ => some frame
  | _ => none

def Outcome.accepted? : Outcome φ → Option φ
  | .sent frame none => some frame
  | _ => none

def Outcome.received? : Outcome φ → Option φ
  | .received (.frame frame) => some frame
  | _ => none

def Outcome.isOverflow : Outcome φ → Bool
  | .sent _ (some (.full _)) => true
  | _ => false

def attempted (log : List (Outcome φ)) : List φ := log.filterMap Outcome.attempted?

def accepted (log : List (Outcome φ)) : List φ := log.filterMap Outcome.accepted?

def received (log : List (Outcome φ)) : List φ := log.filterMap Outcome.received?

def overflows (log : List (Outcome φ)) : Nat := log.countP Outcome.isOverflow

@[simp]
theorem attempted_concat (log : List (Outcome φ)) (outcome : Outcome φ) :
    attempted (log ++ [outcome]) = attempted log ++ outcome.attempted?.toList := by
  unfold attempted
  rw [List.filterMap_append]
  cases h : outcome.attempted? <;> simp [h]

@[simp]
theorem accepted_concat (log : List (Outcome φ)) (outcome : Outcome φ) :
    accepted (log ++ [outcome]) = accepted log ++ outcome.accepted?.toList := by
  unfold accepted
  rw [List.filterMap_append]
  cases h : outcome.accepted? <;> simp [h]

@[simp]
theorem received_concat (log : List (Outcome φ)) (outcome : Outcome φ) :
    received (log ++ [outcome]) = received log ++ outcome.received?.toList := by
  unfold received
  rw [List.filterMap_append]
  cases h : outcome.received? <;> simp [h]

@[simp]
theorem overflows_concat (log : List (Outcome φ)) (outcome : Outcome φ) :
    overflows (log ++ [outcome]) = overflows log + if outcome.isOverflow then 1 else 0 := by
  unfold overflows
  rw [List.countP_append, List.countP_singleton]

/-! ## One command -/

def Stopped (o : Outbox φ) : Prop :=
  o.closing = true ∨ o.owned = false

inductive Moves (o : Outbox φ) : Outbox φ → Outcome φ → Prop
  | taken (frame : φ) (running : ¬ o.Stopped) (room : o.frames.length < o.capacity) :
      Moves o { o with frames := o.frames ++ [frame] } (.sent frame none)
  | overflowed (frame : φ) (running : ¬ o.Stopped) :
      Moves o o.overflow (.sent frame (some (.full o.capacity)))
  | refused (frame : φ) (stopped : o.Stopped) : Moves o o (.sent frame (some .closed))
  | delivered (frame : φ) (rest : List φ) (waiting : o.frames = frame :: rest) :
      Moves o { o with frames := rest } (.received (.frame frame))
  | idle (receipt : Receipt φ) (nothing : ∀ frame, receipt ≠ .frame frame) :
      Moves o o (.received receipt)
  | closeRequested : Moves o o.requestClose .closeRequested
  | disowned : Moves o o.disown .disowned
  | absent : Moves o o .absent

theorem send_room {o : Outbox φ} (read : o.read = true) (running : o.closing = false)
    (room : o.frames.length < o.capacity) (frame : φ) :
    o.send frame = ({ o with frames := o.frames ++ [frame] }, none) := by
  unfold send isFull
  rw [if_neg (by simp [running, read]), if_neg (by simpa using room)]

theorem send_full {o : Outbox φ} (read : o.read = true) (running : o.closing = false)
    (full : o.capacity ≤ o.frames.length) (frame : φ) :
    o.send frame = (o.overflow, some (.full o.capacity)) := by
  unfold send isFull
  rw [if_neg (by simp [running, read]), if_pos (by simpa using full)]

theorem moves_send {o : Outbox φ} (read : o.read = true) (owned : o.owned = true) (frame : φ) :
    Moves o (o.send frame).1 (.sent frame (o.send frame).2) := by
  cases closing : o.closing with
  | true =>
      rw [send_closing closing]
      exact .refused frame (.inl closing)
  | false =>
      have running : ¬ o.Stopped := by simp [Stopped, closing, owned]
      rcases Nat.lt_or_ge o.frames.length o.capacity with room | full
      · rw [send_room read closing room]
        exact .taken frame running room
      · rw [send_full read closing full]
        exact .overflowed frame running

theorem moves_asOwner {o after : Outbox φ} {outcome : Outcome φ}
    (moves : o.owned = true → Moves o after outcome) :
    Moves o (o.asOwner (after, outcome)).1 (o.asOwner (after, outcome)).2 := by
  unfold asOwner
  split
  · rename_i owned
    exact moves owned
  · exact .absent

theorem moves_step {o : Outbox φ} (read : o.read = true) (command : Command φ) :
    Moves o (o.step command).1 (o.step command).2 := by
  cases command with
  | enqueue frame =>
      change Moves o (o.enqueue frame).1 (.sent frame (o.enqueue frame).2)
      cases owned : o.owned with
      | true =>
          rw [enqueue_owned owned]
          exact moves_send read owned frame
      | false =>
          rw [enqueue_disowned owned]
          exact .refused frame (.inr owned)
  | send frame => exact moves_asOwner fun owned => moves_send read owned frame
  | receive =>
      change Moves o o.receive.1 (.received o.receive.2)
      unfold receive
      rw [if_pos read]
      cases waiting : o.frames with
      | nil =>
          refine .idle _ ?_
          intro frame
          cases o.owned <;> exact nofun
      | cons frame rest => exact .delivered frame rest waiting
  | requestClose => exact moves_asOwner fun _ => .closeRequested
  | disown => exact moves_asOwner fun _ => .disowned

theorem overflow_eq (o : Outbox φ) :
    o.overflow = { o with
      dropped := (o.dropped + 1) % UInt64.size
      closing := o.closing || decide (o.policy = .disconnect) } := by
  unfold overflow requestClose
  cases policy : o.policy <;> simp

theorem Moves.fixed {o after : Outbox φ} {outcome : Outcome φ} (moves : Moves o after outcome) :
    after.capacity = o.capacity ∧ after.policy = o.policy ∧ after.read = o.read := by
  cases moves with
  | overflowed =>
      rw [overflow_eq]
      exact ⟨rfl, rfl, rfl⟩
  | _ => exact ⟨rfl, rfl, rfl⟩

theorem Moves.frames {o after : Outbox φ} {outcome : Outcome φ} (moves : Moves o after outcome) :
    outcome.received?.toList ++ after.frames = o.frames ++ outcome.accepted?.toList := by
  cases moves with
  | overflowed => simp [overflow_eq, Outcome.received?, Outcome.accepted?]
  | delivered frame rest waiting => simp [waiting, Outcome.received?, Outcome.accepted?]
  | idle receipt nothing =>
      cases receipt with
      | frame frame => exact absurd rfl (nothing frame)
      | _ => simp [Outcome.received?, Outcome.accepted?]
  | _ => simp [Outcome.received?, Outcome.accepted?, requestClose, disown]

theorem Moves.length_le {o after : Outbox φ} {outcome : Outcome φ} (moves : Moves o after outcome)
    (within : o.frames.length ≤ o.capacity) : after.frames.length ≤ after.capacity := by
  cases moves with
  | taken frame running room =>
      rw [List.length_append]
      exact room
  | overflowed => simpa [overflow_eq] using within
  | delivered frame rest waiting =>
      rw [waiting, List.length_cons] at within
      exact Nat.le_of_succ_le within
  | _ => exact within

theorem Moves.dropped {o after : Outbox φ} {outcome : Outcome φ} (moves : Moves o after outcome) :
    after.dropped = if outcome.isOverflow then (o.dropped + 1) % UInt64.size else o.dropped := by
  cases moves with
  | overflowed => rw [overflow_eq]; rfl
  | _ => rfl

theorem Moves.closing {o after : Outbox φ} {outcome : Outcome φ} (moves : Moves o after outcome) :
    after.closing = true ↔
      o.closing = true ∨ outcome = .closeRequested ∨
        o.policy = .disconnect ∧ outcome.isOverflow = true := by
  cases moves with
  | overflowed => simp [overflow_eq, Outcome.isOverflow]
  | closeRequested => simp [requestClose]
  | _ => simp [Outcome.isOverflow, disown]

theorem Moves.of_stopped {o after : Outbox φ} {outcome : Outcome φ} (moves : Moves o after outcome)
    (stopped : o.Stopped) : after.Stopped ∧ outcome.accepted? = none ∧ outcome.isOverflow = false := by
  cases moves with
  | taken frame running => exact absurd stopped running
  | overflowed frame running => exact absurd stopped running
  | closeRequested => exact ⟨.inl rfl, rfl, rfl⟩
  | disowned => exact ⟨.inr rfl, rfl, rfl⟩
  | _ => exact ⟨stopped, rfl, rfl⟩

theorem Moves.of_running {o after : Outbox φ} {outcome : Outcome φ} (moves : Moves o after outcome)
    (running : ¬ o.Stopped) :
    outcome.accepted? = if outcome.isOverflow then none else outcome.attempted? := by
  cases moves with
  | refused frame stopped => exact absurd stopped running
  | _ => rfl

/-! ## Offers -/

def offer (o : Outbox φ) (frames : List φ) : Outbox φ :=
  (o.run (frames.map .enqueue)).1

def room (o : Outbox φ) : Nat :=
  if o.owned ∧ ¬ o.closing ∧ o.read then o.capacity - o.frames.length else 0

theorem offer_cons (o : Outbox φ) (frame : φ) (rest : List φ) :
    o.offer (frame :: rest) = (o.enqueue frame).1.offer rest := rfl

theorem offer_disowned {o : Outbox φ} (disowned : o.owned = false) (frames : List φ) :
    o.offer frames = o := by
  induction frames with
  | nil => rfl
  | cons frame rest ih => rw [offer_cons, enqueue_disowned disowned, ih]

theorem enqueue_no_room {o : Outbox φ} (full : o.room = 0) (frame : φ) :
    (o.enqueue frame).1.frames = o.frames ∧ (o.enqueue frame).1.room = 0 := by
  cases owned : o.owned with
  | false =>
      rw [enqueue_disowned owned]
      exact ⟨rfl, full⟩
  | true =>
      rw [enqueue_owned owned]
      unfold send
      split
      · exact ⟨rfl, full⟩
      · rename_i running
        have full : o.capacity ≤ o.frames.length := by
          unfold room at full
          rw [if_pos (by simpa [owned] using running)] at full
          omega
        rw [if_pos (by simpa [isFull] using full)]
        refine ⟨o.overflow_frames, ?_⟩
        unfold room
        split
        · rw [overflow_capacity, overflow_frames]
          omega
        · rfl

theorem enqueue_room {o : Outbox φ} (free : 0 < o.room) (frame : φ) :
    (o.enqueue frame).1.frames = o.frames ++ [frame] ∧
      (o.enqueue frame).1.room = o.room - 1 := by
  unfold room at free ⊢
  split at free
  · rename_i running
    obtain ⟨owned, closing, read⟩ := running
    have sent := send_room read (by simpa using closing) (by omega) frame
    rw [enqueue_owned owned, sent, if_pos ⟨owned, closing, read⟩, if_pos ⟨owned, closing, read⟩,
      List.length_append, List.length_singleton, Nat.sub_add_eq]
    exact ⟨rfl, rfl⟩
  · cases free

theorem frames_offer (o : Outbox φ) (frames : List φ) :
    (o.offer frames).frames = o.frames ++ frames.take o.room := by
  induction frames generalizing o with
  | nil =>
      rw [List.take_nil, List.append_nil]
      rfl
  | cons frame rest ih =>
      rw [offer_cons, ih]
      cases free : o.room with
      | zero =>
          obtain ⟨same, full⟩ := enqueue_no_room free frame
          rw [same, full]
          rfl
      | succ left =>
          have some : 0 < o.room := by omega
          obtain ⟨taken, less⟩ := enqueue_room some frame
          rw [taken, less, free, List.append_assoc]
          rfl

/-! ## Every run -/

/-- What an outbox has in common with its log. -/
structure Tracks (capacity : Nat) (policy : DropPolicy) (o : Outbox φ) (log : List (Outcome φ)) :
    Prop where
  fixed : o.capacity = max 1 capacity ∧ o.policy = policy ∧ o.read = true
  fifo : received log ++ o.frames = accepted log
  bounded : o.frames.length ≤ o.capacity
  counted : o.dropped = overflows log % UInt64.size
  closing : o.closing = true ↔
    .closeRequested ∈ log ∨ policy = .disconnect ∧ overflows log ≠ 0
  once : policy = .disconnect → overflows log ≤ 1
  gapless : policy = .disconnect → accepted log <+: attempted log
  complete : policy = .disconnect → ¬ o.Stopped → accepted log = attempted log

theorem tracks_create (connection : ConnectionId) (capacity : Nat) (policy : DropPolicy) :
    Tracks (φ := φ) capacity policy (create connection capacity policy) [] := by
  constructor
  all_goals simp [create, received, accepted, attempted, overflows]

theorem Tracks.no_overflow {capacity : Nat} {policy : DropPolicy} {o : Outbox φ}
    {log : List (Outcome φ)} (tracks : Tracks capacity policy o log)
    (disconnect : policy = .disconnect) (running : ¬ o.Stopped) : overflows log = 0 := by
  by_contra overflowed
  exact running (.inl (tracks.closing.mpr (.inr ⟨disconnect, overflowed⟩)))

theorem Tracks.moves {capacity : Nat} {policy : DropPolicy} {o after : Outbox φ}
    {log : List (Outcome φ)} {outcome : Outcome φ} (tracks : Tracks capacity policy o log)
    (moves : Moves o after outcome) : Tracks capacity policy after (log ++ [outcome]) := by
  obtain ⟨capacity', policy', read'⟩ := moves.fixed
  obtain ⟨capacity_eq, policy_eq, read_eq⟩ := tracks.fixed
  constructor
  case fixed => exact ⟨capacity'.trans capacity_eq, policy'.trans policy_eq, read'.trans read_eq⟩
  case fifo =>
    rw [received_concat, accepted_concat, List.append_assoc, moves.frames, ← List.append_assoc,
      tracks.fifo]
  case bounded => exact moves.length_le tracks.bounded
  case counted =>
    rw [moves.dropped, overflows_concat, tracks.counted]
    split <;> simp
  case closing =>
    rw [moves.closing, tracks.closing, policy_eq, overflows_concat, List.mem_append,
      List.mem_singleton]
    cases outcome.isOverflow <;> grind
  case once =>
    intro disconnect
    rw [overflows_concat]
    by_cases stopped : o.Stopped
    · rw [(moves.of_stopped stopped).2.2]
      exact tracks.once disconnect
    · rw [tracks.no_overflow disconnect stopped]
      split <;> decide
  case gapless =>
    -- a running outbox has all that was attempted, by `complete`, and a stopped one gets no more
    intro disconnect
    rw [accepted_concat, attempted_concat]
    by_cases stopped : o.Stopped
    · rw [(moves.of_stopped stopped).2.1, Option.toList_none, List.append_nil]
      exact (tracks.gapless disconnect).trans (List.prefix_append _ _)
    · rw [tracks.complete disconnect stopped, moves.of_running stopped,
        List.prefix_append_right_inj]
      split
      · exact List.nil_prefix
      · exact List.prefix_rfl
  case complete =>
    intro disconnect running'
    have running : ¬ o.Stopped := fun stopped => running' (moves.of_stopped stopped).1
    have fits : outcome.isOverflow = false := by
      by_contra overflow
      refine running' (.inl (moves.closing.mpr (.inr (.inr ⟨policy_eq.trans disconnect, ?_⟩))))
      simpa using overflow
    rw [accepted_concat, attempted_concat, moves.of_running running, fits,
      tracks.complete disconnect running]
    rfl

theorem tracks_run (connection : ConnectionId) (capacity : Nat) (policy : DropPolicy)
    (commands : List (Command φ)) :
    Tracks capacity policy ((create connection capacity policy).run commands).1
      ((create connection capacity policy).run commands).2 := by
  induction commands using List.reverseRecOn with
  | nil => exact tracks_create connection capacity policy
  | append_singleton commands command ih =>
      rw [run_concat]
      exact ih.moves (moves_step ih.fixed.2.2 command)

/-! ## The end -/

/-- What is left to a stopped outbox: its frames are received, and nothing else happens. -/
structure Winds (o after : Outbox φ) (log : List (Outcome φ)) : Prop where
  stopped : after.Stopped
  read : after.read = true
  refused : accepted log = [] ∧ overflows log = 0
  fifo : received log ++ after.frames = o.frames

theorem winds_run {o : Outbox φ} (stopped : o.Stopped) (read : o.read = true)
    (later : List (Command φ)) : Winds o (o.run later).1 (o.run later).2 := by
  induction later using List.reverseRecOn with
  | nil => exact ⟨stopped, read, ⟨rfl, rfl⟩, rfl⟩
  | append_singleton later command ih =>
      have moves := moves_step ih.read command
      obtain ⟨stopped', nothing, fits⟩ := moves.of_stopped ih.stopped
      rw [run_concat]
      constructor
      case stopped => exact stopped'
      case read => exact moves.fixed.2.2.trans ih.read
      case refused =>
        rw [accepted_concat, overflows_concat, nothing, fits, ih.refused.1, ih.refused.2]
        exact ⟨rfl, rfl⟩
      case fifo =>
        rw [received_concat, List.append_assoc, moves.frames, nothing, Option.toList_none,
          List.append_nil, ih.fifo]

def Refuses (o : Outbox φ) : Prop :=
  ∀ frame, o.step (.enqueue frame) = (o, .sent frame (some .closed)) ∧
    (o.owned = true → o.step (.send frame) = (o, .sent frame (some .closed)))

theorem Stopped.refuses {o : Outbox φ} (stopped : o.Stopped) : o.Refuses := by
  intro frame
  have enqueue : o.enqueue frame = (o, some .closed) := by
    cases owned : o.owned with
    | false => exact enqueue_disowned owned frame
    | true =>
        rw [enqueue_owned owned]
        exact send_closing (stopped.resolve_right (by simp [owned])) frame
  constructor
  · change ((o.enqueue frame).1, Outcome.sent frame (o.enqueue frame).2) = _
    rw [enqueue]
  · intro owned
    rw [enqueue_owned owned] at enqueue
    change o.asOwner ((o.send frame).1, .sent frame (o.send frame).2) = _
    rw [asOwner, if_pos owned, enqueue]

theorem run_receive {o : Outbox φ} (read : o.read = true) :
    (o.run (List.replicate o.frames.length .receive)).2 =
      o.frames.map fun frame => .received (.frame frame) := by
  generalize waiting : o.frames = frames
  induction frames generalizing o with
  | nil => rfl
  | cons frame rest ih =>
      have taken : o.step .receive = ({ o with frames := rest }, .received (.frame frame)) := by
        change (o.receive.1, Outcome.received o.receive.2) = _
        unfold receive
        rw [if_pos read, waiting]
      rw [List.length_cons, List.replicate_succ, List.map_cons, run, taken]
      exact congrArg (List.cons _) (ih (o := { o with frames := rest }) read rfl)

theorem accepts_of_room {o : Outbox φ} (read : o.read = true) (running : ¬ o.Stopped)
    (room : o.frames.length < o.capacity) (frame : φ) :
    (o.step (.enqueue frame)).2 = .sent frame none ∧ (o.step (.send frame)).2 = .sent frame none := by
  obtain ⟨closing, owned⟩ := not_or.mp running
  have owned : o.owned = true := by simpa using owned
  have sent := send_room read (by simpa using closing) room frame
  constructor
  · change Outcome.sent frame (o.enqueue frame).2 = _
    rw [enqueue_owned owned, sent]
  · change (o.asOwner ((o.send frame).1, .sent frame (o.send frame).2)).2 = _
    rw [asOwner, if_pos owned, sent]

/-- The order that an outbox keeps among its frames, said by its log. -/
structure Orderly (capacity : Nat) (policy : DropPolicy) (o : Outbox φ) (log : List (Outcome φ)) :
    Prop where
  fifo : received log ++ o.frames = accepted log
  bounded : o.frames.length ≤ max 1 capacity
  counted : o.dropped = overflows log % UInt64.size
  stopped : o.Stopped → ∀ later, (o.run later).1.Refuses ∧
    received (o.run later).2 ++ (o.run later).1.frames = o.frames
  drains : (o.run (List.replicate o.frames.length .receive)).2 =
    o.frames.map fun frame => .received (.frame frame)
  gapless : policy = .disconnect → accepted log <+: attempted log
  once : policy = .disconnect → overflows log ≤ 1 ∧ (overflows log ≠ 0 → o.closing = true)
  lasting : policy = .dropNewest → (o.closing = true ↔ .closeRequested ∈ log)
  recovers : policy = .dropNewest → .closeRequested ∉ log → o.owned = true →
    o.frames.length < max 1 capacity → ∀ frame,
      (o.step (.enqueue frame)).2 = .sent frame none ∧ (o.step (.send frame)).2 = .sent frame none

theorem run_orderly (connection : ConnectionId) (capacity : Nat) (policy : DropPolicy)
    (commands : List (Command φ)) :
    Orderly capacity policy ((create connection capacity policy).run commands).1
      ((create connection capacity policy).run commands).2 := by
  have tracks := tracks_run connection capacity policy commands
  obtain ⟨capacity_eq, policy_eq, read⟩ := tracks.fixed
  constructor
  case fifo => exact tracks.fifo
  case bounded =>
    rw [← capacity_eq]
    exact tracks.bounded
  case counted => exact tracks.counted
  case stopped =>
    intro stopped later
    have winds := winds_run stopped read later
    exact ⟨winds.stopped.refuses, winds.fifo⟩
  case drains => exact run_receive read
  case gapless => exact tracks.gapless
  case once =>
    intro disconnect
    exact ⟨tracks.once disconnect, fun full => tracks.closing.mpr (.inr ⟨disconnect, full⟩)⟩
  case lasting =>
    rintro rfl
    simpa using tracks.closing
  case recovers =>
    rintro rfl quiet owned room frame
    have running : ¬ ((create connection capacity .dropNewest).run commands).1.Stopped := by
      rintro (closing | disowned)
      · rcases tracks.closing.mp closing with requested | ⟨disconnect, -⟩
        · exact quiet requested
        · cases disconnect
      · rw [owned] at disowned
        cases disowned
    rw [← capacity_eq] at room
    exact accepts_of_room read running room frame

end CandleFeed.Outbox
