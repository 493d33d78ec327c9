import CandleFeed.Proofs.Message
import CandleFeed.Proofs.Service.Subscribing
import CandleFeed.Proofs.Service.Trials

namespace CandleFeed
open Json

namespace Seat

variable {topics after : List Topic} {limit : Nat} {request : Request} {message : Message}

theorem mem_perform_iff (performed : perform topics limit request = .ok (after, message))
    (distinct : topics.Nodup) (topic : Topic) :
    topic ∈ after ↔
      request = .subscribe topic ∨ topic ∈ topics ∧ request ≠ .unsubscribe topic := by
  cases (performed_of_eq_ok performed).1 with
  | ping => simp
  | again own old =>
      simp only [Request.subscribe.injEq, ne_eq, reduceCtorEq, not_false_eq_true, and_true]
      constructor
      · exact .inr
      · rintro (rfl | mem)
        · exact old
        · exact mem
  | added own new room => simp [or_comm, eq_comm (a := own)]
  | removed own => simp [distinct.mem_erase_iff, and_comm, eq_comm (a := own)]

end Seat

namespace Service

variable {s t : Service} {id : ConnectionId}

def told : Except ProtocolError Request → Message
  | .error cause => .error cause
  | .ok request => request.granted

structure Refused (s t : Service) : Prop where
  registry : t.registry = s.registry
  metrics : t.metrics = s.metrics.protocolError

structure Granted (s t : Service) (id : ConnectionId) (request : Request) : Prop where
  metrics : t.metrics = s.metrics
  subscribed : ∀ topic, request = .subscribe topic → t.registry.isSubscribed id topic = true
  unsubscribed : ∀ topic, request = .unsubscribe topic → t.registry.isSubscribed id topic = false
  unchanged : ∀ other topic,
    (other = id → request ≠ .subscribe topic ∧ request ≠ .unsubscribe topic) →
      t.registry.isSubscribed other topic = s.registry.isSubscribed other topic

def Settled (s t : Service) (id : ConnectionId) : Except ProtocolError Request → Prop
  | .error _ => Refused s t
  | .ok request => Granted s t id request

def replyParts (now : Int) : Except ProtocolError Request → List Member
  | .error cause =>
      [("type", quote "error"), ("timestamp", Text.signedDigits now), ("code", quote cause.code),
        ("message", quote cause.message)]
  | .ok .ping => [("type", quote "pong"), ("timestamp", Text.signedDigits now)]
  | .ok (.subscribe topic) =>
      ("type", quote "subscribed") :: Message.topicParts topic ++
        [("timestamp", Text.signedDigits now)]
  | .ok (.unsubscribe topic) =>
      ("type", quote "unsubscribed") :: Message.topicParts topic ++
        [("timestamp", Text.signedDigits now)]

theorem parts_told (result : Except ProtocolError Request) (now : Int) :
    (told result).parts now = replyParts now result := by
  rcases result with cause | (topic | topic | _) <;> rfl

theorem members?_told (s : Service) (result : Except ProtocolError Request) :
    members? (s.frame (told result)).text = .ok (replyParts s.store.wall.millis result) := by
  rw [← parts_told]
  exact Message.members?_encode ..

theorem Sound.granted (sound : s.Sound) {request : Request} {after : List Topic} {message : Message}
    (performed : Seat.perform (s.registry.wants id) s.registry.limit request = .ok (after, message))
    (retopics : s.registry.Retopics id after t.registry) (metrics : t.metrics = s.metrics) :
    Granted s t id request := by
  have distinct : (s.registry.wants id).Nodup := by
    obtain ⟨relation, agrees⟩ := sound.agrees
    exact agrees.nodup_wants id
  have own (topic : Topic) : t.registry.isSubscribed id topic = true ↔
      request = .subscribe topic ∨ topic ∈ s.registry.wants id ∧ request ≠ .unsubscribe topic := by
    rw [Registry.isSubscribed_iff, retopics.wants, if_pos rfl]
    exact Seat.mem_perform_iff performed distinct topic
  refine ⟨metrics, ?_, ?_, ?_⟩
  · rintro topic rfl
    exact (own topic).mpr (.inl rfl)
  · rintro topic rfl
    rw [Bool.eq_false_iff, ne_eq, own]
    simp
  · intro other topic apart
    by_cases mine : other = id
    · subst mine
      obtain ⟨notSubscribe, notUnsubscribe⟩ := apart rfl
      rw [Bool.eq_iff_iff, own, Registry.isSubscribed_iff]
      simp [notSubscribe, notUnsubscribe]
    · rw [Bool.eq_iff_iff, Registry.isSubscribed_iff, Registry.isSubscribed_iff, retopics.wants,
        if_neg mine]

theorem Sound.settles_text (sound : s.Sound) {handle : Handle}
    (known : s.registry.handle? id = some handle) (number : Nat) (text : String) :
    let done := s.handleText number id text
    Settled s done.1 id done.2 ∧
      done.1.outboxes = s.outboxes.modify number fun o => (o.send (s.frame (told done.2))).1 := by
  obtain ⟨r, m, retopics, answered⟩ := sound.handleText known number text
  rcases handleText_cases s number id text with
    ⟨cause, refused⟩ | ⟨request, next, message, parsed, performed, made⟩
  · rw [refused]
    exact ⟨⟨rfl, rfl⟩, rfl⟩
  · obtain ⟨rfl, r', rfl⟩ := exists_registry_of_perform performed
    have same := answered.symm.trans made
    have registry : r = r' := congrArg (fun done => done.1.registry) same
    have result := congrArg Prod.snd same
    rw [made]
    refine ⟨?_, rfl⟩
    rcases Seat.answer_cases (s.registry.wants id) s.registry.limit text with
      ⟨cause, refused⟩ | ⟨own, after, message, -, granted, replied⟩
    · rw [refused] at result
      cases result
    · rw [replied] at result retopics
      cases result
      subst registry
      exact sound.granted granted retopics rfl

/-- What a text does: one frame for its session, none for the others, and the rest by the result. -/
structure Answers (s t : Service) (id : ConnectionId) (text : String) (outbox : Outbox Frame)
    (result : Except ProtocolError Request) (frame : Frame) : Prop where
  parsed : ∀ request, result = .ok request → Request.parse text = .ok request
  malformed : ∀ cause, Request.parse text = .error cause → result = .error cause
  shown : members? frame.text = .ok (replyParts s.store.wall.millis result)
  sent : t.outbox? id = some (outbox.send frame).1
  others : ∀ other, other ≠ id → t.outbox? other = s.outbox? other
  settled : Settled s t id result

theorem Sound.answers (sound : s.Sound) {outbox : Outbox Frame} (found : s.outbox? id = some outbox)
    (owned : outbox.owned = true) (text : String) :
    ∃ result, (s.act id (.text text)).2 = .answered result ∧
      Answers s (s.step (.act id (.text text))) id text outbox result (s.frame (told result)) := by
  obtain ⟨owner, number, placed⟩ := sound.outbox?_eq_some_iff.mp found
  have numbered := sound.number?_eq_some_iff.mpr ⟨outbox, placed, owner⟩
  have known : s.registry.handle? id = some ⟨id, number⟩ :=
    (sound.registered id _).mpr ⟨rfl, outbox, placed, owner, owned⟩
  have open' : (s.session? number).isSome = true := by
    simp [session?, placed, owned]
  have acted : s.act id (.text text) =
      ((s.handleText number id text).1, .answered (s.handleText number id text).2) := by
    unfold Service.act
    rw [numbered]
    exact if_pos open'
  obtain ⟨reseats, -⟩ := sound.act id (.text text)
  obtain ⟨settled, outboxes⟩ := sound.settles_text known number text
  have others (other : ConnectionId) (apart : other ≠ id) :
      (s.act id (.text text)).1.outbox? other = s.outbox? other := by
    rw [← seat?_outbox, reseats.others other apart, seat?_outbox]
  have sound' := reseats.sound
  rw [acted] at others sound'
  refine ⟨(s.handleText number id text).2, congrArg Prod.snd acted, ?_⟩
  change Answers s (s.act id (.text text)).1 id text outbox _ _
  rw [acted]
  constructor
  case shown => exact members?_told s _
  case others => exact others
  case settled => exact settled
  case sent =>
    refine sound'.outbox?_eq_some_iff.mpr ⟨?_, number, ?_⟩
    · exact (congrArg Prod.fst (mark_send outbox _)).trans owner
    · dsimp only
      rw [outboxes, Table.get?_modify, if_pos rfl, placed]
      rfl
  case parsed =>
    intro request ok
    rcases handleText_cases s number id text with ⟨cause, refused⟩ | ⟨own, next, message, parsed, -, made⟩
    · rw [refused] at ok
      cases ok
    · rw [made] at ok
      cases ok
      exact parsed
  case malformed =>
    intro cause rejected
    rw [handleText_of_rejected rejected]

theorem Answers.of_calm {outbox : Outbox Frame} {text : String} {result : Except ProtocolError Request}
    {frame : Frame} (answers : Answers s.calm t.calm id text outbox result frame) :
    Answers s t id text outbox result frame where
  parsed := answers.parsed
  malformed := answers.malformed
  shown := answers.shown
  sent := answers.sent
  others := answers.others
  settled := by
    cases result with
    | error cause => exact ⟨answers.settled.registry, answers.settled.metrics⟩
    | ok request =>
        exact ⟨answers.settled.metrics, answers.settled.subscribed, answers.settled.unsubscribed,
          answers.settled.unchanged⟩

theorem text_answered (settings : Settings) (now : Nat) (wall : Instant) (ids : Nat → Uuid)
    (trials : List Trial) (id : ConnectionId) (text : String) (outbox : Outbox Frame) :
    let s := (Gateway.create settings (.empty now wall ids)).service.endure trials
    let t := s.step (.act id (.text text))
    s.outbox? id = some outbox → outbox.owned = true →
    ∃ result frame, (s.act id (.text text)).2 = .answered result ∧
      Answers s t id text outbox result frame ∧
      (outbox.closing = false → outbox.read = true → outbox.frames.length < outbox.capacity →
        t.outbox? id = some { outbox with frames := outbox.frames ++ [frame] }) := by
  intro s t found owned
  have sound : s.calm.Sound := sound_endure settings now wall ids trials
  obtain ⟨result, answered, answers⟩ := sound.answers found owned text
  unfold step at answers
  dsimp only at answers
  rw [act_calm] at answered answers
  refine ⟨result, _, answered, answers.of_calm, ?_⟩
  intro running read room
  have sent := answers.of_calm.sent
  rw [Outbox.send_room read running room] at sent
  exact sent

theorem cut_text_answered :
    let s := (Gateway.create .standard (.empty 0 .epoch Uuid.serial)).service.endure
      [.outage { cacheRead := some "down" }, .command (.act ⟨1⟩ (.start 4 .disconnect)),
        .command (.act ⟨2⟩ (.start 4 .disconnect))]
    ∃ frame, Refused s (s.step (.act ⟨1⟩ (.text "\x7b\"type\":"))) ∧
      (s.step (.act ⟨1⟩ (.text "\x7b\"type\":"))).outbox? ⟨1⟩ =
        some { (Outbox.create ⟨1⟩ 4 .disconnect : Outbox Frame) with frames := [frame] } ∧
      members? frame.text = .ok [("type", quote "error"), ("timestamp", ['0']),
        ("code", quote "INVALID_MESSAGE"), ("message", quote "Invalid message format")] := by
  have cut : Request.parse "\x7b\"type\":" = .error .invalidMessage := rfl
  obtain ⟨result, frame, -, answers, sent⟩ := text_answered .standard 0 .epoch Uuid.serial
    [.outage { cacheRead := some "down" }, .command (.act ⟨1⟩ (.start 4 .disconnect)),
      .command (.act ⟨2⟩ (.start 4 .disconnect))]
    ⟨1⟩ "\x7b\"type\":" (.create ⟨1⟩ 4 .disconnect) rfl rfl
  obtain rfl := answers.malformed _ cut
  exact ⟨frame, answers.settled, sent rfl rfl (by decide), answers.shown⟩

end Service

end CandleFeed
