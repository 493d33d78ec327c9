import CandleFeed.Proofs.Service.News

namespace CandleFeed

namespace Service

variable {s t u : Service} {id : ConnectionId} {number : Nat} {o : Outbox Frame}

def hold (o : Outbox Frame) : (ConnectionId × Bool) × Bool :=
  (mark o, o.read)

theorem hold_send (o : Outbox Frame) (frame : Frame) : hold (o.send frame).1 = hold o := by
  have read : (o.send frame).1.read = o.read := by
    unfold Outbox.send
    split
    · rfl
    · split
      · rw [Outbox.overflow_eq]
      · rfl
  unfold hold
  rw [mark_send, read]

theorem hold_enqueue (o : Outbox Frame) (frame : Frame) : hold (o.enqueue frame).1 = hold o := by
  unfold Outbox.enqueue
  split
  · exact hold_send o frame
  · rfl

theorem hold_receive (o : Outbox Frame) : hold o.receive.1 = hold o := by
  unfold Outbox.receive
  split
  · split <;> rfl
  · rfl

theorem hold_offer (o : Outbox Frame) (frames : List Frame) : hold (o.offer frames) = hold o := by
  induction frames generalizing o with
  | nil => rfl
  | cons frame rest ih => exact (ih (o.enqueue frame).1).trans (hold_enqueue o frame)

theorem hold_run_news (s : Service) (news : List News) (n : Nat) :
    ((s.run (news.map .news)).outboxes.get? n).map hold = (s.outboxes.get? n).map hold := by
  induction news generalizing s with
  | nil => rfl
  | cons first rest ih =>
      obtain ⟨m, heard⟩ := s.hear_eq first
      have outboxes : (s.hear first).outboxes = (s.offers first).foldl offerTo s.outboxes := by
        rw [heard]
        rfl
      refine (ih (s.hear first)).trans ?_
      rw [outboxes, get?_offers, Option.map_map]
      exact congrArg (Option.map · _) (funext fun o => hold_offer o _)

/-- Acts on a connection lead to another service. Its outbox has this number. -/
structure Acted (s : Service) (id : ConnectionId) (number : Nat) (t : Service) : Prop where
  acts : ∃ acts : List Act, t = s.run (acts.map (.act id))
  own : (t.outboxes.get? number).map Outbox.connection = (s.outboxes.get? number).map Outbox.connection
  others : ∀ n, n ≠ number → t.outboxes.get? n = s.outboxes.get? n

theorem Acted.refl (s : Service) (id : ConnectionId) (number : Nat) : s.Acted id number s :=
  ⟨⟨[], rfl⟩, rfl, fun _ _ => rfl⟩

theorem Acted.trans (first : s.Acted id number t) (second : t.Acted id number u) :
    s.Acted id number u := by
  obtain ⟨acts, rfl⟩ := first.acts
  obtain ⟨acts', same⟩ := second.acts
  refine ⟨⟨acts ++ acts', ?_⟩, second.own.trans first.own, ?_⟩
  · rw [List.map_append, run_append, same]
  · exact fun n other => (second.others n other).trans (first.others n other)

theorem Acted.sound (acted : s.Acted id number t) (sound : s.Sound) : t.Sound := by
  obtain ⟨acts, rfl⟩ := acted.acts
  exact sound.run _

theorem Sound.acted (sound : s.Sound) (placed : s.outboxes.get? number = some o) (act : Act)
    {change : Outbox Frame → Outbox Frame} (kept : (change o).connection = o.connection)
    {r : Registry} {m : Metrics}
    (done : (s.actAt o.connection number act).1 = s.rework r number change m) :
    s.Acted o.connection number (s.rework r number change m) := by
  have found : s.number? o.connection = some number :=
    sound.number?_eq_some_iff.mpr ⟨o, placed, rfl⟩
  have acted : (s.act o.connection act).1 = s.rework r number change m := by
    unfold Service.act
    rw [found]
    exact done
  have lookup (n : Nat) : (s.rework r number change m).outboxes.get? n =
      if n = number then (s.outboxes.get? number).map change else s.outboxes.get? n :=
    Table.get?_modify _ _ _ _
  refine ⟨⟨[act], acted.symm⟩, ?_, ?_⟩
  · rw [lookup, if_pos rfl, placed]
    exact congrArg some kept
  · intro n other
    rw [lookup, if_neg other]

theorem asSession_of_owned (placed : s.outboxes.get? number = some o) (owned : o.owned = true)
    (done : Service × Effect) : s.asSession number done = done := by
  have seated : s.Seated o.connection number ⟨s.registry.wants o.connection, o⟩ := ⟨rfl, rfl, placed⟩
  unfold asSession
  rw [seated.session?_eq, if_pos owned]
  rfl

theorem Sound.acted_abandon (sound : s.Sound) (placed : s.outboxes.get? number = some o) :
    s.Acted o.connection number (s.changeOutbox number Outbox.abandon) :=
  sound.acted (r := s.registry) (m := s.metrics) placed .abandon rfl rfl

theorem receive_of_placed (placed : s.outboxes.get? number = some o) :
    s.receive number = (s.setOutbox number o.receive.1, o.receive.2) := by
  unfold receive
  rw [placed]

theorem Sound.acted_receive (sound : s.Sound) (placed : s.outboxes.get? number = some o) :
    s.Acted o.connection number (s.receive number).1 := by
  have seated : s.Seated o.connection number ⟨s.registry.wants o.connection, o⟩ := ⟨rfl, rfl, placed⟩
  have received := congrArg Prod.fst seated.receive
  rw [received]
  exact sound.acted placed .receive (congrArg Prod.fst (mark_receive o)) received

theorem Sound.acted_close (sound : s.Sound) (placed : s.outboxes.get? number = some o)
    (owned : o.owned = true) (reason : CloseReason) :
    s.Acted o.connection number (s.closeSession number reason).1 := by
  have seated : s.Seated o.connection number ⟨s.registry.wants o.connection, o⟩ := ⟨rfl, rfl, placed⟩
  have closed : (s.closeSession number reason).1 =
      s.rework (s.registry.unsubscribeAll o.connection).1 number (fun o => o.requestClose.disown)
        (countClose s.metrics.connectionClosed reason) := by
    unfold closeSession
    rw [seated.dropSession owned]
    rfl
  rw [closed]
  refine sound.acted placed (.close reason) rfl ?_
  unfold Service.actAt
  dsimp only
  rw [asSession_of_owned placed owned]
  exact closed

theorem Sound.acted_text (sound : s.Sound) (placed : s.outboxes.get? number = some o)
    (owned : o.owned = true) (text : String) :
    s.Acted o.connection number (s.handleText number o.connection text).1 ∧
      ((s.handleText number o.connection text).1.outboxes.get? number).map hold =
        (s.outboxes.get? number).map hold := by
  have known : s.registry.handle? o.connection = some ⟨o.connection, number⟩ :=
    (sound.registered _ _).mpr ⟨rfl, o, placed, rfl, owned⟩
  obtain ⟨r, m, -, answered⟩ := sound.handleText known number text
  have answered := congrArg Prod.fst answered
  rw [answered]
  refine ⟨sound.acted placed (.text text) (congrArg Prod.fst (mark_send o _)) ?_, ?_⟩
  · unfold Service.actAt
    dsimp only
    rw [asSession_of_owned placed owned]
    exact answered
  · change ((s.outboxes.modify number _).get? number).map hold = _
    rw [Table.get?_modify, if_pos rfl, Option.map_map]
    exact congrArg (Option.map · _) (funext fun o => hold_send o _)

theorem Sound.acted_empty (sound : s.Sound) (placed : s.outboxes.get? number = some o)
    (read : o.read = true) :
    s.Acted o.connection number (s.changeOutbox number fun o => { o with frames := [] }) := by
  induction waiting : o.frames generalizing s o with
  | nil =>
      have same : s.outboxes.modify number (fun o => { o with frames := [] }) = s.outboxes :=
        Table.modify_of_fixed placed (by rw [← waiting])
      unfold changeOutbox
      rw [same]
      exact .refl s o.connection number
  | cons frame rest ih =>
      let left : Outbox Frame := { o with frames := rest }
      have first := sound.acted_receive placed
      have received : (s.receive number).1 = s.setOutbox number left := by
        rw [receive_of_placed placed]
        unfold Outbox.receive
        rw [if_pos read, waiting]
      rw [received] at first
      have sound' := first.sound sound
      have placed' : (s.setOutbox number left).outboxes.get? number = some left :=
        Table.get?_insert_self _ _ _
      have all := first.trans (ih (o := left) sound' placed' read rfl)
      have same : (s.setOutbox number left).changeOutbox number (fun o => { o with frames := [] }) =
          s.changeOutbox number fun o => { o with frames := [] } := by
        unfold changeOutbox setOutbox Table.modify
        dsimp only
        rw [Table.get?_insert_self, placed]
        dsimp only
        rw [Table.insert_insert]
      exact same ▸ all

end Service

end CandleFeed
