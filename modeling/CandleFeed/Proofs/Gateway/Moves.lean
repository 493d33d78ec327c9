import CandleFeed.Gateway.Session
import CandleFeed.Proofs.Gateway.Links
import CandleFeed.Proofs.Http.Refusals

namespace CandleFeed

theorem Http.respond_news (s : Service) (wsPath : String) (call : Call) (nanos : Nat) :
    ∃ news : List News, (respond s wsPath call nanos).1 = s.run (news.map .news) := by
  rcases respond_cases wsPath call with ⟨status, same⟩ | ⟨route, -, -, same⟩
  · exact ⟨[], congrArg Prod.fst (same s nanos)⟩
  · rw [same]
    cases route with
    | health | stats | candles | sessions => exact ⟨[], rfl⟩
    | events =>
        unfold run takeEvent
        dsimp only
        split
        · exact ⟨[], rfl⟩
        · rename_i event _
          exact ⟨[.event event nanos], rfl⟩
    | completion =>
        unfold run completeCandle
        dsimp only
        split
        · exact ⟨[], rfl⟩
        · split
          · exact ⟨[], rfl⟩
          · rename_i key _
            exact ⟨[.complete key], rfl⟩

namespace Gateway

inductive Move
  | connect (target : String) (capacity : Nat)
  | send (number : Nat) (inbound : Inbound)
  | receive (number : Nat)
  | vanish (number : Nat)
  | call (call : Http.Call) (nanos : Nat)
  | publish (topic : Topic) (payload : Payload) (times : Nat)
  | advance (span : Nat)
  | shutDown

def step (g : Gateway) : Move → Gateway
  | .connect target capacity => (g.connect target capacity).1
  | .send number inbound => g.send number inbound
  | .receive number => (g.receive number).1
  | .vanish number => g.vanish number
  | .call call nanos => (g.call call nanos).1
  | .publish topic payload times => (g.publishOn topic payload times).1
  | .advance span => g.advance span
  | .shutDown => g.shutDown

def run (g : Gateway) (moves : List Move) : Gateway :=
  moves.foldl step g

variable {g : Gateway} {number : Nat} {link : Link}

theorem linked_create (settings : Settings) (now : Nat) (wall : Instant) (ids : Nat → Uuid) :
    (create settings (.empty now wall ids)).Linked where
  sound := Service.sound_create settings now wall ids
  joined _ _ found := by cases found
  counted _ _ found := by cases found

theorem Linked.openLink (linked : g.Linked) (capacity : Nat) : g.Leads (g.openLink capacity).1 := by
  let push := g.settings.push
  let id : ConnectionId := ⟨g.opened + 1⟩
  let service := (g.service.openSession id push.queueCapacity push.dropPolicy).1
  let link : Link := .create id capacity g.now
  let size := g.service.outboxes.size
  -- the ids of the connections so far are all lower
  have new : g.service.number? id = none := by
    rw [Option.eq_none_iff_forall_ne_some]
    intro n found
    obtain ⟨o, placed, owner⟩ := linked.sound.number?_eq_some_iff.mp found
    have low := linked.counted n o placed
    rw [owner] at low
    exact Nat.not_succ_le_self _ low
  have started : (g.service.act id (.start push.queueCapacity push.dropPolicy)).1 = service := by
    unfold Service.act
    rw [new]
  have lookup (n : Nat) := g.service.get?_openSession id push.queueCapacity push.dropPolicy n
  let opened : Gateway := { g with service, opened := g.opened + 1 }
  have linked' : (opened.setLink size link).Linked := by
    constructor
    case sound => exact linked.sound.openSession new _ _
    case joined =>
      intro n own found
      change (g.links.insert size link).get? n = some own at found
      rw [Table.get?_insert] at found
      split at found
      · rename_i here
        cases found
        exact ⟨_, (lookup n).trans (if_pos here), rfl, fun _ _ => ⟨rfl, rfl⟩⟩
      · rename_i other
        exact (linked.joined n own found).of_hold (congrArg _ ((lookup n).trans (if_neg other)))
    case counted =>
      intro n o placed
      have placed := (lookup n).symm.trans placed
      split at placed
      · cases placed
        exact Nat.le_refl _
      · exact Nat.le_succ_of_le (linked.counted n o placed)
  have first : g.Leads (opened.setLink size link) :=
    ⟨linked', [.act id (.start push.queueCapacity push.dropPolicy)], started.symm⟩
  exact first.trans linked'.settle

theorem Linked.call (linked : g.Linked) (call : Http.Call) (nanos : Nat) :
    g.Leads (g.call call nanos).1 := by
  obtain ⟨news, same⟩ := Http.respond_news g.service g.settings.wsPath call nanos
  have all := linked.news news
  rw [← same] at all
  exact all

theorem Linked.connect (linked : g.Linked) (target : String) (capacity : Nat) :
    g.Leads (g.connect target capacity).1 := by
  unfold Gateway.connect
  split
  · exact linked.refl
  · split
    · exact linked.openLink capacity
    · rename_i target' _ _
      exact linked.call ⟨"GET", target', none, []⟩ 0

theorem Linked.hangUp (linked : g.Linked) (joined : Joined g.service number link) {heard : Nat}
    (live : link.phase = .live heard) : g.Leads (g.hangUp number link) := by
  unfold Gateway.hangUp
  split
  · exact linked.close { link with pipe := link.pipe.put .close } joined live .peerClosed _
      fun _ => Phase.noConfusion
  · have closed := linked.close link joined live .peerClosed .over fun _ => Phase.noConfusion
    have finished := closed.linked.at number Gateway.finish fun link joined =>
      closed.linked.finish link (.refl _ _ _) joined
    exact closed.trans finished

theorem Linked.handle (linked : g.Linked) (joined : Joined g.service number link) {heard : Nat}
    (live : link.phase = .live heard) (inbound : Inbound) :
    g.Leads (g.handle number link inbound) := by
  obtain ⟨o, placed, owner, held⟩ := id joined
  have still : Joined g.service number { link with phase := .live g.now } :=
    ⟨o, placed, owner, fun _ _ => held heard live⟩
  unfold Gateway.handle
  split
  · exact linked.close link joined live _ _ fun _ => Phase.noConfusion
  · cases inbound with
    | text text =>
        obtain ⟨acted, kept⟩ := linked.sound.acted_text placed (held heard live).1 text
        rw [owner] at acted kept
        exact linked.acted { link with phase := .live g.now } acted (still.of_hold kept)
    | binary length | pong length => exact linked.set still
    | ping length => exact linked.set still
    | close => exact linked.hangUp still rfl

theorem Linked.take (linked : g.Linked) (joined : Joined g.service number link) (inbound : Inbound) :
    g.Leads (g.take number link inbound) := by
  unfold Gateway.take
  split
  · rename_i heard live
    exact linked.handle joined live inbound
  all_goals exact linked.refl

theorem Linked.send (linked : g.Linked) (number : Nat) (inbound : Inbound) :
    g.Leads (g.send number inbound) := by
  have settled := linked.settle
  have taken := settled.linked.at number (fun g number link => g.take number link inbound)
    fun _ joined => settled.linked.take joined inbound
  exact (settled.trans taken).trans taken.linked.settle

theorem Linked.receive (linked : g.Linked) (number : Nat) : g.Leads (g.receive number).1 := by
  have settled := linked.settle
  refine settled.trans ?_
  have linked := settled.linked
  unfold Gateway.receive
  generalize g.settle = g at linked
  dsimp only
  split
  · exact linked.refl
  · rename_i link found
    have joined := linked.joined number link found
    split
    · rename_i heard live
      obtain ⟨o, placed, owner, held⟩ := id joined
      obtain ⟨owned, read⟩ := held heard live
      have acted := linked.sound.acted_empty placed read
      rw [owner] at acted
      refine linked.acted link.drain acted (joined.of_hold ?_)
      change ((g.service.outboxes.modify number _).get? number).map Service.hold = _
      rw [Table.get?_modify, if_pos rfl, Option.map_map]
      rfl
    · exact linked.finish link.drain (.refl _ _ _) joined
    · exact linked.finish link.drain (.refl _ _ _) joined
    · exact linked.acted link.drain (.refl _ _ _) joined

theorem Linked.forget (linked : g.Linked) (number : Nat) :
    g.Leads { g with
      service := g.service.changeOutbox number Outbox.abandon, links := g.links.erase number } := by
  have lookup (n : Nat) : (g.service.changeOutbox number Outbox.abandon).outboxes.get? n =
      if n = number then (g.service.outboxes.get? number).map Outbox.abandon
      else g.service.outboxes.get? n :=
    Table.get?_modify _ _ _ _
  have commands : ∃ commands,
      g.service.changeOutbox number Outbox.abandon = g.service.run commands := by
    cases placed : g.service.outboxes.get? number with
    | some o =>
        obtain ⟨acts, same⟩ := (linked.sound.acted_abandon placed).acts
        exact ⟨_, same⟩
    | none =>
        refine ⟨[], ?_⟩
        unfold Service.changeOutbox Table.modify
        rw [placed]
        rfl
  obtain ⟨commands, same⟩ := commands
  refine ⟨⟨same ▸ linked.sound.run commands, ?_, ?_⟩, commands, same⟩
  · intro n link found
    have found := (Table.get?_erase _ _ _).symm.trans found
    split at found
    · cases found
    · rename_i other
      exact (linked.joined n link found).of_hold (congrArg _ ((lookup n).trans (if_neg other)))
  · intro n o placed
    have placed := (lookup n).symm.trans placed
    split at placed
    · obtain ⟨old, placed', rfl⟩ := Option.map_eq_some_iff.mp placed
      exact linked.counted number old placed'
    · exact linked.counted n o placed

theorem Linked.lose (linked : g.Linked) (joined : Joined g.service number link) :
    g.Leads (g.lose number link) := by
  unfold Gateway.lose
  split
  · rename_i heard live
    exact linked.close link joined live .transportError .over fun _ => Phase.noConfusion
  all_goals exact linked.refl

theorem Linked.vanish (linked : g.Linked) (number : Nat) : g.Leads (g.vanish number) := by
  have lost := linked.at number Gateway.lose fun _ joined => linked.lose joined
  have gone := lost.linked.forget number
  exact (lost.trans gone).trans gone.linked.settle

theorem Linked.publishOn (linked : g.Linked) (topic : Topic) (payload : Payload) (times : Nat) :
    g.Leads (g.publishOn topic payload times).1 := by
  have published : (times.repeat (fun (state : Service × Report) => state.1.publishOn topic payload)
      (g.service, ⟨0, 0, 0⟩)).1 =
        g.service.run ((List.replicate times (.publish topic payload)).map .news) := by
    induction times with
    | zero => rfl
    | succ times ih =>
        rw [List.replicate_succ', List.map_append, Service.run_append, ← ih]
        rfl
  have all := linked.news (List.replicate times (.publish topic payload))
  rw [← published] at all
  exact all.trans all.linked.settle

theorem Linked.step (linked : g.Linked) (move : Move) : g.Leads (g.step move) := by
  cases move with
  | connect target capacity => exact linked.connect target capacity
  | send number inbound => exact linked.send number inbound
  | receive number => exact linked.receive number
  | vanish number => exact linked.vanish number
  | call call nanos => exact linked.call call nanos
  | publish topic payload times => exact linked.publishOn topic payload times
  | advance span =>
      have all := linked.news [.advance span g.service.store.wall]
      exact all.trans all.linked.settle
  | shutDown =>
      have all : g.Leads { g with stopping := true } :=
        ⟨⟨linked.sound, linked.joined, linked.counted⟩, [], rfl⟩
      exact all.trans all.linked.settle

theorem Linked.run (linked : g.Linked) (moves : List Move) : g.Leads (g.run moves) := by
  induction moves generalizing g with
  | nil => exact linked.refl
  | cons move rest ih =>
      have first := linked.step move
      exact first.trans (ih first.linked)

/-- The service of a gateway obeys commands and nothing else, and as long as a link is live, it has
a session whose frames are read. -/
theorem leads_run (settings : Settings) (now : Nat) (wall : Instant) (ids : Nat → Uuid)
    (moves : List Move) :
    (create settings (.empty now wall ids)).Leads ((create settings (.empty now wall ids)).run moves) :=
  (linked_create settings now wall ids).run moves

end Gateway

end CandleFeed
