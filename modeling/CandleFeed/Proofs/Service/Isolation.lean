import CandleFeed.Proofs.Service.News

/-!
# Sessions are isolated

What a session sees of a service: what comes of its own acts, and the frames that are offered to its
outbox, taken or not. Nothing that is done to another session shows in it, nor in the candles.
-/

namespace CandleFeed

inductive Sight
  | offered (outcome : Outbox.Outcome Frame)
  | effect (effect : Effect)

def Outbox.sights (o : Outbox Frame) (frames : List Frame) : List Sight :=
  (o.run (frames.map .enqueue)).2.map .offered

namespace Service

def answer (s : Service) (id : ConnectionId) (text : String) : Message :=
  match Request.parse text with
  | .error cause => .error cause
  | .ok request =>
      match s.perform id request with
      | .error cause => .error cause
      | .ok (_, message) => message

/-- The frames that are offered to the outbox of a session, when something is done to a service. A
session is offered the answers to its texts while it exists. -/
def offeredBy (s : Service) (id : ConnectionId) : Command → List Frame
  | .act own (.text text) =>
      if own = id ∧ (s.outbox? id).any Outbox.owned then [s.frame (s.answer id text)] else []
  | .act _ _ => []
  | .news news => s.offered news id

def sight (s : Service) (id : ConnectionId) (command : Command) : List Sight :=
  ((s.outbox? id).toList.flatMap fun o => o.sights (s.offeredBy id command)) ++
    match command with
    | .act own act => if own = id then [.effect (s.act own act).2] else []
    | .news _ => []

def sights (s : Service) (id : ConnectionId) : List Command → List Sight
  | [] => []
  | command :: rest => s.sight id command ++ (s.step command).sights id rest

def Command.spares (id : ConnectionId) : Command → Bool
  | .act own _ => own ≠ id
  | .news _ => true

variable {s t : Service} {a b id : ConnectionId}

/-! ## Offers -/

theorem Sound.answer_eq (sound : s.Sound) {outbox : Outbox Frame}
    (found : s.outbox? id = some outbox) (owned : outbox.owned = true) (text : String) :
    s.answer id text = (Seat.answer (s.registry.wants id) s.registry.limit text).message := by
  obtain ⟨handle, known⟩ := sound.registered_of_owned found owned
  unfold answer Seat.answer
  cases Request.parse text with
  | error cause => rfl
  | ok request =>
      have performed := sound.perform known request
      dsimp only
      generalize Seat.perform (s.registry.wants id) s.registry.limit request = done at performed
      rcases done with cause | ⟨topics, message⟩
      · have performed : s.perform id request = .error cause := performed
        rw [performed]
      · obtain ⟨r, -, performed⟩ := performed
        rw [performed]

theorem offeredBy_act (s : Service) (other : a ≠ b) (act : Act) :
    s.offeredBy b (.act a act) = [] := by
  unfold offeredBy
  cases act with
  | text text => exact if_neg fun both => other both.1
  | _ => rfl

theorem Sound.outbox?_step (sound : s.Sound) {command : Command}
    (passive : ∀ act, command = .act id act → ∃ text, act = .text text) :
    (s.step command).outbox? id = (s.outbox? id).map fun o => o.offer (s.offeredBy id command) := by
  cases command with
  | news news => exact (sound.hear news).outboxes id
  | act own act =>
      obtain ⟨reseats, -⟩ := sound.act own act
      change (s.act own act).1.outbox? id = _
      rw [← seat?_outbox]
      by_cases mine : own = id
      · subst mine
        obtain ⟨text, rfl⟩ := passive act rfl
        rw [reseats.own]
        cases found : s.outbox? own with
        | none =>
            rw [seat?, found]
            rfl
        | some outbox =>
            rw [seat?_of_outbox found]
            unfold Seat.step Seat.act Seat.asOwner offeredBy
            dsimp only
            rw [found]
            split
            · rename_i owned
              rw [if_pos ⟨rfl, owned⟩, sound.answer_eq found owned]
              exact congrArg (fun done => some done.1) (Outbox.enqueue_owned owned _).symm
            · rename_i ended
              rw [if_neg fun both => ended both.2]
              rfl
      · rw [reseats.others id (Ne.symm mine), seat?_outbox, s.offeredBy_act mine]
        exact Option.map_id'.symm

/-! ## Two services -/

/-- Services that differ at most in one session, and in what they count. -/
structure Apart (a : ConnectionId) (s t : Service) : Prop where
  sound : s.Sound
  sound' : t.Sound
  ingester : ∃ m, t.toIngester = s.toIngester.counting m
  publicTrades : t.publicTrades = s.publicTrades
  limit : t.registry.limit = s.registry.limit
  seats : ∀ b, b ≠ a → t.seat? b = s.seat? b

theorem Apart.refl (sound : s.Sound) (a : ConnectionId) : Apart a s s where
  sound := sound
  sound' := sound
  ingester := ⟨s.metrics, rfl⟩
  publicTrades := rfl
  limit := rfl
  seats _ _ := rfl

theorem Apart.store (apart : Apart a s t) : t.store = s.store := by
  obtain ⟨m, same⟩ := apart.ingester
  rw [same]
  rfl

theorem Apart.outbox? (apart : Apart a s t) (other : b ≠ a) : t.outbox? b = s.outbox? b := by
  rw [← seat?_outbox, ← seat?_outbox, apart.seats b other]

theorem Apart.wants (apart : Apart a s t) (other : b ≠ a) {outbox : Outbox Frame}
    (found : s.outbox? b = some outbox) : t.registry.wants b = s.registry.wants b := by
  have seats := apart.seats b other
  rw [seat?_of_outbox found, seat?_of_outbox ((apart.outbox? other).trans found)] at seats
  exact congrArg Seat.topics (Option.some.inj seats)

theorem Apart.pushes (apart : Apart a s t) (news : News) :
    t.toIngester.pushes t.publicTrades news = s.toIngester.pushes s.publicTrades news := by
  obtain ⟨m, same⟩ := apart.ingester
  rw [same, apart.publicTrades, Ingester.pushes_counting]

theorem Apart.offeredBy (apart : Apart a s t) (other : b ≠ a) {outbox : Outbox Frame}
    (found : s.outbox? b = some outbox) (command : Command) :
    t.offeredBy b command = s.offeredBy b command := by
  have found' := (apart.outbox? other).trans found
  have wants := apart.wants other found
  unfold Service.offeredBy
  cases command with
  | news news =>
      dsimp only
      rw [apart.sound'.offered_eq, apart.sound.offered_eq, wants, apart.pushes]
  | act own act =>
      cases act with
      | text text =>
          dsimp only
          rw [found, found']
          split
          · rename_i live
            have owned : outbox.owned = true := by simpa using live.2
            rw [apart.sound'.answer_eq found' owned, apart.sound.answer_eq found owned, wants,
              apart.limit, frame, frame, apart.store]
          · rfl
      | _ => rfl

theorem Apart.effect (apart : Apart a s t) (other : b ≠ a) (act : Act) :
    (t.act b act).2 = (s.act b act).2 := by
  rw [(apart.sound'.act b act).2, (apart.sound.act b act).2, apart.seats b other, apart.limit,
    apart.store]

theorem Apart.sight (apart : Apart a s t) (other : b ≠ a) (command : Command) :
    t.sight b command = s.sight b command := by
  unfold Service.sight
  congr 1
  · rw [apart.outbox? other]
    cases found : s.outbox? b with
    | none => rfl
    | some outbox =>
        simp only [Option.toList_some, List.flatMap_singleton]
        rw [apart.offeredBy other found]
  · cases command with
    | news news => rfl
    | act own act =>
        dsimp only
        split
        · rename_i mine
          rw [mine, apart.effect other]
        · rfl

theorem Apart.step (apart : Apart a s t) {command : Command} (spares : command.spares a = true) :
    Apart a (s.step command) (t.step command) := by
  obtain ⟨m, same⟩ := apart.ingester
  cases command with
  | act own act =>
      have own_ne : own ≠ a := by simpa [Command.spares] using spares
      obtain ⟨reseats, -⟩ := apart.sound.act own act
      obtain ⟨reseats', -⟩ := apart.sound'.act own act
      obtain ⟨m₁, counted⟩ := reseats.ingester
      obtain ⟨m₂, counted'⟩ := reseats'.ingester
      constructor
      case sound => exact reseats.sound
      case sound' => exact reseats'.sound
      case ingester =>
        refine ⟨m₂, ?_⟩
        change (t.act own act).1.toIngester = (s.act own act).1.toIngester.counting m₂
        rw [counted', counted, same]
        rfl
      case publicTrades =>
        exact reseats'.publicTrades.trans (apart.publicTrades.trans reseats.publicTrades.symm)
      case limit => exact reseats'.limit.trans (apart.limit.trans reseats.limit.symm)
      case seats =>
        -- an act changes one seat, by what is in that seat, and both services have it
        intro b other
        change (t.act own act).1.seat? b = (s.act own act).1.seat? b
        by_cases mine : b = own
        · rw [mine, reseats'.own, reseats.own, apart.seats own own_ne, apart.limit, apart.store]
        · rw [reseats'.others b mine, reseats.others b mine, apart.seats b other]
  | news news =>
      have hears := apart.sound.hear news
      have hears' := apart.sound'.hear news
      obtain ⟨m₁, counted⟩ := hears.ingester
      obtain ⟨m₂, counted'⟩ := hears'.ingester
      obtain ⟨m₃, heard⟩ := s.toIngester.hear_counting m news
      constructor
      case sound => exact hears.sound
      case sound' => exact hears'.sound
      case ingester =>
        refine ⟨m₂, ?_⟩
        change (t.hear news).toIngester = (s.hear news).toIngester.counting m₂
        rw [counted', counted, same, heard]
        rfl
      case publicTrades =>
        exact hears'.publicTrades.trans (apart.publicTrades.trans hears.publicTrades.symm)
      case limit =>
        change (t.hear news).registry.limit = (s.hear news).registry.limit
        rw [hears'.registry, hears.registry, apart.limit]
      case seats =>
        intro b other
        change (t.hear news).seat? b = (s.hear news).seat? b
        rw [hears'.seats, hears.seats, apart.seats b other, apart.pushes]

theorem Apart.act (apart : Apart a s t) (act : Act) : Apart a (s.step (.act a act)) t := by
  obtain ⟨m, same⟩ := apart.ingester
  obtain ⟨reseats, -⟩ := apart.sound.act a act
  obtain ⟨m', counted⟩ := reseats.ingester
  constructor
  case sound => exact reseats.sound
  case sound' => exact apart.sound'
  case ingester =>
    refine ⟨m, ?_⟩
    change _ = (s.act a act).1.toIngester.counting m
    rw [same, counted]
    rfl
  case publicTrades => exact apart.publicTrades.trans reseats.publicTrades.symm
  case limit => exact apart.limit.trans reseats.limit.symm
  case seats =>
    intro b other
    rw [apart.seats b other]
    exact (reseats.others b other).symm

theorem sight_act (s : Service) (other : a ≠ b) (act : Act) : s.sight b (.act a act) = [] := by
  unfold sight
  rw [s.offeredBy_act other]
  dsimp only
  rw [if_neg other, List.append_nil]
  cases s.outbox? b <;> rfl

/-! ## Two runs -/

theorem Apart.run (apart : Apart a s t) (other : b ≠ a) (commands : List Command) :
    s.sights b commands = t.sights b (commands.filter (Command.spares a)) ∧
      Apart a (s.run commands) (t.run (commands.filter (Command.spares a))) := by
  induction commands generalizing s t with
  | nil => exact ⟨rfl, apart⟩
  | cons command rest ih =>
      cases spares : command.spares a with
      | true =>
          rw [List.filter_cons_of_pos spares, sights, sights, apart.sight other]
          obtain ⟨same, later⟩ := ih (apart.step spares)
          exact ⟨congrArg _ same, later⟩
      | false =>
          -- only the first run goes on
          rw [List.filter_cons_of_neg (by simp [spares]), sights]
          cases command with
          | news news => cases spares
          | act own act =>
              obtain rfl : own = a := by simpa [Command.spares] using spares
              rw [sight_act s (Ne.symm other), List.nil_append]
              exact ih (apart.act act)

/-- A run without the acts of a session looks the same to every other session, and leaves the same
candles, whatever it was that the session did. The frames that a session sees offered are those by
which its outbox changes at each step, but for what the session does with it. -/
theorem session_isolation (settings : Settings) (now : Nat) (wall : Instant) (ids : Nat → Uuid)
    (commands : List Command) {a b : ConnectionId} (other : b ≠ a) :
    let s := (Gateway.create settings (.empty now wall ids)).service
    let rest := commands.filter (Command.spares a)
    s.sights b commands = s.sights b rest ∧
      (s.run commands).outbox? b = (s.run rest).outbox? b ∧
      (s.run commands).store = (s.run rest).store ∧
      ∀ before command, (∀ act, command = .act b act → ∃ text, act = .text text) →
        (s.run (before ++ [command])).outbox? b =
          ((s.run before).outbox? b).map fun o => o.offer ((s.run before).offeredBy b command) := by
  have sound := sound_create settings now wall ids
  obtain ⟨same, apart⟩ := (Apart.refl sound a).run other commands
  refine ⟨same, (apart.outbox? other).symm, apart.store.symm, ?_⟩
  intro before command passive
  rw [run_concat]
  exact (sound.run before).outbox?_step passive

theorem second_session_isolated :
    let s := (Gateway.create .standard (.empty 0 .epoch Uuid.serial)).service
    (⟨2⟩ : ConnectionId) ≠ ⟨1⟩ ∧
      s.sights ⟨2⟩
          [.act ⟨1⟩ (.start 1 .disconnect), .act ⟨2⟩ (.start 4 .disconnect), .act ⟨1⟩ (.text "?"),
            .act ⟨2⟩ (.text "?"), .act ⟨1⟩ (.text "?"), .act ⟨2⟩ .receive, .act ⟨1⟩ .drop] =
        s.sights ⟨2⟩
          [.act ⟨2⟩ (.start 4 .disconnect), .act ⟨2⟩ (.text "?"), .act ⟨2⟩ .receive] :=
  have other : (⟨2⟩ : ConnectionId) ≠ ⟨1⟩ := by decide
  ⟨other, (session_isolation .standard 0 .epoch Uuid.serial _ other).1⟩

end Service

end CandleFeed
