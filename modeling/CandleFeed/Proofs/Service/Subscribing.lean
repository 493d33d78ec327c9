import CandleFeed.Proofs.Request
import CandleFeed.Proofs.Service.News

namespace CandleFeed

theorem Payload.topic_of_channel {payload : Payload} {topic : Topic}
    (channel : payload.channel = topic.channel) (symbol : payload.symbol = topic.symbol)
    (interval : topic.channel = .kline → payload.interval? = topic.interval)
    (plain : topic.channel = .kline ∨ topic.interval = none) : payload.topic = topic := by
  have named : payload.interval? = topic.interval := by
    rcases plain with candles | none
    · exact interval candles
    · by_cases candles : topic.channel = .kline
      · exact interval candles
      · rw [none]
        cases payload with
        | kline candle => exact absurd channel.symm candles
        | _ => rfl
  rw [payload.topic_eq, channel, symbol, named]

namespace Service

variable {s : Service} {id : ConnectionId} {topic : Topic}

def Holds (s : Service) (id : ConnectionId) (topic : Topic) : Prop :=
  ∃ seat, s.seat? id = some seat ∧ topic ∈ seat.topics

def Command.Ends (id : ConnectionId) (topic : Topic) : Command → Prop
  | .act own (.text text) => own = id ∧ Request.parse text = .ok (.unsubscribe topic)
  | .act own (.close _) | .act own .drop => own = id
  | _ => False

theorem Holds.mem_wants (holds : s.Holds id topic) : topic ∈ s.registry.wants id := by
  obtain ⟨seat, seated, mem⟩ := holds
  obtain ⟨outbox, -, rfl⟩ := Option.map_eq_some_iff.mp seated
  exact mem

end Service

namespace Seat

variable {topics after : List Topic} {limit : Nat} {message : Message} {topic : Topic}

theorem mem_perform {request : Request}
    (performed : perform topics limit request = .ok (after, message)) (mem : topic ∈ topics)
    (kept : request ≠ .unsubscribe topic) : topic ∈ after := by
  cases (performed_of_eq_ok performed).1 with
  | ping => exact mem
  | again other old => exact mem
  | added other new room => exact List.mem_append_left _ mem
  | removed other =>
      have apart : topic ≠ other := by
        rintro rfl
        exact kept rfl
      exact (List.mem_erase_of_ne apart).mpr mem

theorem mem_perform_subscribe
    (performed : perform topics limit (.subscribe topic) = .ok (after, message)) :
    topic ∈ after := by
  cases (performed_of_eq_ok performed).1 with
  | again _ old => exact old
  | added _ new room => exact List.mem_append_right _ (List.mem_singleton_self _)

theorem mem_answer {text : String} (mem : topic ∈ topics)
    (kept : Request.parse text ≠ .ok (.unsubscribe topic)) :
    topic ∈ (answer topics limit text).topics := by
  rcases answer_cases topics limit text with
    ⟨cause, refused⟩ | ⟨request, after, message, parsed, performed, answered⟩
  · rw [refused]
    exact mem
  · rw [answered]
    refine mem_perform performed mem ?_
    rintro rfl
    exact kept parsed

theorem mem_answer_subscribed {text : String}
    (answered : (answer topics limit text).result = .ok (.subscribe topic)) :
    topic ∈ (answer topics limit text).topics := by
  rcases answer_cases topics limit text with
    ⟨cause, refused⟩ | ⟨request, after, message, parsed, performed, made⟩
  · rw [refused] at answered
    cases answered
  · rw [made] at answered ⊢
    cases answered
    exact mem_perform_subscribe performed

end Seat

namespace Service

variable {s : Service} {id : ConnectionId} {topic : Topic}

theorem Sound.holds_step (sound : s.Sound) (holds : s.Holds id topic) {command : Command}
    (lasting : ¬ command.Ends id topic) : (s.step command).Holds id topic := by
  obtain ⟨seat, seated, mem⟩ := holds
  cases command with
  | news news =>
      refine ⟨_, ((sound.hear news).seats id).trans (congrArg (Option.map _) seated), ?_⟩
      exact mem
  | act own act =>
      obtain ⟨reseats, -⟩ := sound.act own act
      by_cases mine : id = own
      · subst mine
        have now := reseats.own
        rw [seated] at now
        refine ⟨_, now, ?_⟩
        unfold Seat.act
        cases act with
        | text text =>
            have kept : Request.parse text ≠ .ok (.unsubscribe topic) := fun parsed => lasting ⟨rfl, parsed⟩
            dsimp only [Seat.asOwner]
            split
            · exact Seat.mem_answer mem kept
            · exact mem
        | requestClose =>
            dsimp only [Seat.asOwner]
            split <;> exact mem
        | close reason => exact absurd rfl lasting
        | drop => exact absurd rfl lasting
        | _ => exact mem
      · exact ⟨seat, (reseats.others id mine).trans seated, mem⟩

theorem Sound.holds_run (sound : s.Sound) (holds : s.Holds id topic) {later : List Command}
    (lasting : ∀ command ∈ later, ¬ command.Ends id topic) : (s.run later).Holds id topic := by
  induction later generalizing s with
  | nil => exact holds
  | cons command rest ih =>
      refine ih (sound.step command) (sound.holds_step holds (lasting _ List.mem_cons_self)) ?_
      exact fun other mem => lasting other (List.mem_cons_of_mem _ mem)

theorem Sound.holds_text (sound : s.Sound) {text : String}
    (answered : (s.act id (.text text)).2 = .answered (.ok (.subscribe topic))) :
    (s.step (.act id (.text text))).Holds id topic := by
  obtain ⟨reseats, effect⟩ := sound.act id (.text text)
  rw [answered] at effect
  cases seated : s.seat? id with
  | none =>
      rw [seated] at effect
      cases effect
  | some seat =>
      have now := reseats.own
      rw [seated] at effect now
      refine ⟨_, now, ?_⟩
      unfold Seat.step at effect
      unfold Seat.act Seat.asOwner at effect ⊢
      dsimp only at effect ⊢
      split
      · rename_i owned
        rw [if_pos owned] at effect
        exact Seat.mem_answer_subscribed (Effect.answered.inj effect).symm
      · rename_i ended
        rw [if_neg ended] at effect
        cases effect

theorem Sound.publish_of_holds (sound : s.Sound) (holds : s.Holds id topic) {payload : Payload}
    (own : payload.topic = topic) :
    s.offered (.publish topic payload) id = [s.frame (.push payload)] ∧
      ∃ outbox, s.outbox? id = some outbox ∧
        (s.publish payload).1.outbox? id = some (outbox.offer [s.frame (.push payload)]) := by
  subst own
  have once : s.offered (.publish payload.topic payload) id = [s.frame (.push payload)] := by
    rw [sound.offered_eq]
    unfold Seat.wanted Ingester.pushes
    dsimp only
    rw [List.filter_cons_of_pos (by simpa using holds.mem_wants)]
    rfl
  obtain ⟨seat, seated, -⟩ := holds
  obtain ⟨outbox, found, -⟩ := Option.map_eq_some_iff.mp seated
  have after : (s.publish payload).1.outbox? id =
      (s.outbox? id).map fun o => o.offer (s.offered (.publish payload.topic payload) id) :=
    (sound.hear (.publish payload.topic payload)).outboxes id
  rw [once, found] at after
  exact ⟨once, outbox, found, after⟩

/-- A client may subscribe to a topic on which nothing is published, if it names an interval for
something else than candles. Any other subscription is heard: from the answer on until the session
unsubscribes or ends, all that is published for its channel and symbol (and interval, for candles)
is offered to it, once each. -/
theorem subscription_heard {text : String} {topic : Topic}
    (parsed : Request.parse text = .ok (.subscribe topic)) :
    (topic ∈ Topic.published topic.symbol ↔ topic.channel = .kline ∨ topic.interval = none) ∧
      (topic.channel = .kline ∨ topic.interval = none →
        ∀ (settings : Settings) (now : Nat) (wall : Instant) (ids : Nat → Uuid) (before later : List Command)
          (id : ConnectionId) (payload : Payload),
          let s := (Gateway.create settings (.empty now wall ids)).service.run before
          let t := (s.step (.act id (.text text))).run later
          (s.act id (.text text)).2 = .answered (.ok (.subscribe topic)) →
          (∀ command ∈ later, ¬ command.Ends id topic) →
          payload.channel = topic.channel → payload.symbol = topic.symbol →
          (topic.channel = .kline → payload.interval? = topic.interval) →
          t.offered (.publish payload.topic payload) id = [t.frame (.push payload)] ∧
            ∃ outbox, t.outbox? id = some outbox ∧
              (t.publish payload).1.outbox? id = some (outbox.offer [t.frame (.push payload)])) := by
  refine ⟨Request.mem_published_of_parse parsed, ?_⟩
  intro plain settings now wall ids before later id payload s t answered lasting channel symbol interval
  have sound := sound_run settings now wall ids before
  have own := Payload.topic_of_channel channel symbol interval plain
  have holds := (sound.step _).holds_run (sound.holds_text answered) lasting
  rw [own]
  exact ((sound.step _).run later).publish_of_holds holds own

theorem depth_subscription_heard :
    let text := "\x7b\"type\":\"subscribe\",\"channel\":\"depth\",\"symbol\":\" BTC/USDT \"\x7d"
    let book : Payload := .depth ⟨⟨"BTC-USDT"⟩, [], [], 0⟩
    let s := (Gateway.create .standard (.empty 0 .epoch Uuid.serial)).service.run
      [.act ⟨1⟩ (.start 4 .disconnect), .act ⟨1⟩ (.text text), .act ⟨1⟩ .receive]
    s.offered (.publish book.topic book) ⟨1⟩ = [s.frame (.push book)] := by
  have parsed : Request.parse
      "\x7b\"type\":\"subscribe\",\"channel\":\"depth\",\"symbol\":\" BTC/USDT \"\x7d" =
        .ok (.subscribe (.depth ⟨"BTC-USDT"⟩)) := rfl
  have heard := (subscription_heard parsed).2 (.inr rfl) .standard 0 .epoch Uuid.serial
    [.act ⟨1⟩ (.start 4 .disconnect)] [.act ⟨1⟩ .receive] ⟨1⟩ (.depth ⟨⟨"BTC-USDT"⟩, [], [], 0⟩) rfl
    (by simp [Command.Ends]) rfl rfl nofun
  exact heard.1

end Service

end CandleFeed
