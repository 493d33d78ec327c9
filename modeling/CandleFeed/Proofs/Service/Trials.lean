import CandleFeed.Proofs.Service.News

namespace CandleFeed

namespace Service

inductive Trial
  | command (command : Command)
  | ingest (tick : Tick) (nanos : Nat)
  | purge
  | outage (outage : Outage)

def undergo (s : Service) : Trial → Service
  | .command command => s.step command
  | .ingest tick nanos => (s.ingest tick nanos).1
  | .purge => { s with store := { s.store with cache := s.store.cache.purge s.store.now } }
  | .outage outage => { s with store := { s.store with outage := outage } }

def endure (s : Service) (trials : List Trial) : Service :=
  trials.foldl undergo s

variable {s : Service} {x : Store} {id : ConnectionId} {number : Nat}

theorem endure_induction {motive : Service → Prop}
    (next : ∀ {s} trial, motive s → motive (s.undergo trial)) (start : motive s)
    (trials : List Trial) : motive (s.endure trials) := by
  induction trials generalizing s with
  | nil => exact start
  | cons trial rest ih => exact ih (next trial start)

def withStore (s : Service) (store : Store) : Service :=
  { s with store := store }

theorem asSession_withStore (s : Service) (x : Store) (number : Nat) (done : Service × Effect) :
    (s.withStore x).asSession number (done.1.withStore x, done.2) =
      ((s.asSession number done).1.withStore x, (s.asSession number done).2) := by
  have same : (s.withStore x).session? number = s.session? number := rfl
  unfold asSession
  rw [same]
  split <;> rfl

theorem perform_withStore (s : Service) (x : Store) (id : ConnectionId) (request : Request) :
    (s.withStore x).perform id request =
      (s.perform id request).map fun (next, message) => (next.withStore x, message) := by
  have same : (s.withStore x).registry = s.registry := rfl
  cases request with
  | subscribe topic =>
      unfold Service.perform
      dsimp only
      rw [same]
      cases s.registry.subscribe id topic <;> rfl
  | _ => rfl

theorem reply_withStore (wall : x.wall = s.store.wall) (number : Nat) (message : Message) :
    (s.withStore x).reply number message = (s.reply number message).withStore x := by
  have same : (s.withStore x).frame message = s.frame message := by
    unfold frame withStore
    rw [wall]
  unfold reply
  rw [same]
  rfl

theorem handleText_withStore (wall : x.wall = s.store.wall) (number : Nat) (id : ConnectionId)
    (text : String) :
    (s.withStore x).handleText number id text =
      ((s.handleText number id text).1.withStore x, (s.handleText number id text).2) := by
  have rejected (cause : ProtocolError) := reply_withStore (s := s.setMetrics Metrics.protocolError)
    wall number (.error cause)
  unfold handleText
  cases Request.parse text with
  | error cause => exact congrArg (·, _) (rejected cause)
  | ok request =>
      simp only [bind, Except.bind, perform_withStore s x id request]
      cases performed : s.perform id request with
      | error cause => exact congrArg (·, _) (rejected cause)
      | ok done =>
          obtain ⟨next, message⟩ := done
          obtain ⟨-, r, rfl⟩ := exists_registry_of_perform performed
          have granted := reply_withStore (s := { s with registry := r }) wall number message
          exact congrArg (·, _) granted

theorem dropSession_withStore (s : Service) (x : Store) (number : Nat) :
    (s.withStore x).dropSession number =
      ((s.dropSession number).1.withStore x, (s.dropSession number).2) := by
  have same : (s.withStore x).session? number = s.session? number := rfl
  unfold dropSession
  rw [same]
  cases s.session? number <;> rfl

theorem act_withStore (wall : x.wall = s.store.wall) (id : ConnectionId) (act : Act) :
    (s.withStore x).act id act = ((s.act id act).1.withStore x, (s.act id act).2) := by
  have same : (s.withStore x).number? id = s.number? id := rfl
  unfold Service.act
  rw [same]
  cases s.number? id with
  | none => cases act <;> rfl
  | some number =>
      have session (done : Service × Effect) := asSession_withStore s x number done
      cases act with
      | text text =>
          dsimp only [actAt]
          rw [handleText_withStore wall]
          exact session ((s.handleText number id text).1, .answered (s.handleText number id text).2)
      | receive =>
          have outboxes : (s.withStore x).outboxes = s.outboxes := rfl
          dsimp only [actAt]
          unfold receive
          rw [outboxes]
          cases s.outboxes.get? number <;> rfl
      | requestClose => exact session (s.requestClose number, .closeRequested)
      | close reason =>
          dsimp only [actAt]
          unfold closeSession
          rw [dropSession_withStore]
          exact session ((s.dropSession number).1.setMetrics fun m => countClose m reason,
            .ended (s.dropSession number).2)
      | drop =>
          dsimp only [actAt]
          rw [dropSession_withStore]
          exact session ((s.dropSession number).1, .ended (s.dropSession number).2)
      | _ => rfl

theorem store_act (s : Service) (id : ConnectionId) (act : Act) : (s.act id act).1.store = s.store :=
  congrArg (fun done => done.1.store) (act_withStore (s := s) (x := s.store) rfl id act)

def calm (s : Service) : Service :=
  s.withStore (.empty s.store.now s.store.wall s.store.rows.ids)

theorem act_calm (s : Service) (id : ConnectionId) (act : Act) :
    s.calm.act id act = ((s.act id act).1.calm, (s.act id act).2) := by
  have wall : (Store.empty s.store.now s.store.wall s.store.rows.ids).wall = s.store.wall := rfl
  unfold calm
  rw [store_act]
  exact act_withStore wall id act

theorem Sound.calm_offers (sound : s.calm.Sound) {t : Service} {offers : List (Handle × Frame)}
    (registry : t.registry = s.registry) (outboxes : t.outboxes = offers.foldl offerTo s.outboxes) :
    t.calm.Sound := by
  have registry' : t.calm.registry = s.calm.registry := registry
  have outboxes' : t.calm.outboxes = offers.foldl offerTo s.calm.outboxes := outboxes
  exact sound.of_offers (Store.coherent_empty ..) registry' outboxes'

theorem Sound.undergo (sound : s.calm.Sound) (trial : Trial) : (s.undergo trial).calm.Sound := by
  cases trial with
  | command command =>
      cases command with
      | act id act =>
          have acted := (sound.act id act).1.sound
          rw [act_calm] at acted
          exact acted
      | news news =>
          obtain ⟨m, heard⟩ := s.hear_eq news
          change (s.hear news).calm.Sound
          rw [heard]
          exact sound.calm_offers rfl rfl
  | ingest tick nanos =>
      obtain ⟨m, ingested⟩ := s.ingest_eq tick nanos
      change (s.ingest tick nanos).1.calm.Sound
      rw [ingested]
      exact sound.calm_offers rfl rfl
  | purge => exact sound.calm_offers rfl (List.foldl_nil (f := offerTo)).symm
  | outage outage => exact sound.calm_offers rfl (List.foldl_nil (f := offerTo)).symm

theorem sound_endure (settings : Settings) (now : Nat) (wall : Instant) (ids : Nat → Uuid)
    (trials : List Trial) :
    ((Gateway.create settings (.empty now wall ids)).service.endure trials).calm.Sound := by
  have start : (Gateway.create settings (.empty now wall ids)).service.calm.Sound :=
    sound_create settings (Clock.reading now) wall ids
  exact endure_induction (motive := fun s => s.calm.Sound)
    (fun trial sound => sound.undergo trial) start trials

end Service

end CandleFeed
