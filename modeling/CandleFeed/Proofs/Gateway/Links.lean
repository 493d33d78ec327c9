import CandleFeed.Proofs.Service.Acts

/-!
# Links

A link belongs to a session. What a gateway does for its links by itself is done to their sessions,
one after the other.
-/

namespace CandleFeed

namespace Gateway

/-- The outbox of a link is that of its connection. As long as the link is live, the session of the
outbox exists, and the outbox is read. -/
def Joined (s : Service) (number : Nat) (link : Link) : Prop :=
  ∃ o, s.outboxes.get? number = some o ∧ o.connection = link.connection ∧
    ∀ heard, link.phase = .live heard → o.owned = true ∧ o.read = true

structure Linked (g : Gateway) : Prop where
  sound : g.service.Sound
  joined : ∀ number link, g.links.get? number = some link → Joined g.service number link
  counted : ∀ number o, g.service.outboxes.get? number = some o → o.connection.number ≤ g.opened

/-- A gateway has become another one, while its service obeyed commands. -/
structure Leads (g h : Gateway) : Prop where
  linked : h.Linked
  commands : ∃ commands, h.service = g.service.run commands

variable {g h i : Gateway} {s t : Service} {number : Nat} {link : Link}

theorem Linked.refl (linked : g.Linked) : g.Leads g :=
  ⟨linked, [], rfl⟩

theorem Leads.trans (first : g.Leads h) (second : h.Leads i) : g.Leads i := by
  obtain ⟨commands, same⟩ := first.commands
  obtain ⟨commands', same'⟩ := second.commands
  refine ⟨second.linked, commands ++ commands', ?_⟩
  rw [Service.run_append, ← same, same']

theorem Joined.of_hold (joined : Joined s number link)
    (same : (t.outboxes.get? number).map Service.hold = (s.outboxes.get? number).map Service.hold) :
    Joined t number link := by
  obtain ⟨o, placed, owner, live⟩ := joined
  rw [placed] at same
  obtain ⟨o', placed', kept⟩ := Option.map_eq_some_iff.mp same
  simp only [Service.hold, Service.mark, Prod.mk.injEq] at kept
  obtain ⟨⟨connection, owned⟩, read⟩ := kept
  refine ⟨o', placed', connection.trans owner, ?_⟩
  intro heard phase
  rw [owned, read]
  exact live heard phase

theorem Joined.ended (joined : Joined s number link) {link' : Link}
    (own : (t.outboxes.get? number).map Outbox.connection =
      (s.outboxes.get? number).map Outbox.connection)
    (connection : link'.connection = link.connection) (ended : ∀ heard, link'.phase ≠ .live heard) :
    Joined t number link' := by
  obtain ⟨o, placed, owner, -⟩ := joined
  rw [placed] at own
  obtain ⟨o', placed', same⟩ := Option.map_eq_some_iff.mp own
  exact ⟨o', placed', same.trans (owner.trans connection.symm),
    fun heard phase => absurd phase (ended heard)⟩

theorem Linked.low (linked : g.Linked) {o : Outbox Frame}
    (same : (t.outboxes.get? number).map Outbox.connection =
      (g.service.outboxes.get? number).map Outbox.connection)
    (placed : t.outboxes.get? number = some o) : o.connection.number ≤ g.opened := by
  rw [placed] at same
  obtain ⟨old, placed', connection⟩ := Option.map_eq_some_iff.mp same.symm
  rw [← connection]
  exact linked.counted number old placed'

theorem Linked.acted (linked : g.Linked) (link : Link)
    (acted : g.service.Acted link.connection number t)
    (joined : Joined t number link) : g.Leads ({ g with service := t }.setLink number link) := by
  have sound := acted.sound linked.sound
  obtain ⟨acts, rfl⟩ := acted.acts
  refine ⟨⟨sound, ?_, ?_⟩, _, rfl⟩
  · intro n own found
    change (g.links.insert number link).get? n = some own at found
    rw [Table.get?_insert] at found
    split at found
    · rename_i here
      cases found
      exact here ▸ joined
    · rename_i other
      exact (linked.joined n own found).of_hold (congrArg _ (acted.others n other))
  · intro n o placed
    refine linked.low ?_ placed
    by_cases here : n = number
    · exact here ▸ acted.own
    · exact congrArg _ (acted.others n here)

theorem Linked.set (linked : g.Linked) (joined : Joined g.service number link) :
    g.Leads (g.setLink number link) :=
  linked.acted link (.refl _ _ _) joined

theorem Linked.news (linked : g.Linked) (news : List News) :
    g.Leads { g with service := g.service.run (news.map .news) } := by
  have same (n : Nat) := g.service.hold_run_news news n
  refine ⟨⟨linked.sound.run _, ?_, ?_⟩, _, rfl⟩
  · exact fun n link found => (linked.joined n link found).of_hold (same n)
  · intro n o placed
    refine linked.low ?_ placed
    have own := congrArg (Option.map fun held => held.1.1) (same n)
    rwa [Option.map_map, Option.map_map] at own

theorem Linked.at (linked : g.Linked) (number : Nat) (act : Gateway → Nat → Link → Gateway)
    (step : ∀ link, Joined g.service number link → g.Leads (act g number link)) :
    g.Leads (g.atLink number act) := by
  unfold atLink
  split
  · rename_i link found
    exact step link (linked.joined number link found)
  · exact linked.refl

theorem Linked.close (linked : g.Linked) (link : Link) (joined : Joined g.service number link)
    {heard : Nat} (live : link.phase = .live heard) (reason : CloseReason) (phase : Phase)
    (ended : ∀ heard, phase ≠ .live heard) : g.Leads (g.close number link reason phase) := by
  obtain ⟨o, placed, owner, held⟩ := joined
  have acted := linked.sound.acted_close placed (held heard live).1 reason
  rw [owner] at acted
  refine linked.acted { link with phase } acted ?_
  exact Joined.ended ⟨o, placed, owner, held⟩ acted.own rfl ended

theorem Linked.finish (linked : g.Linked) (link : Link)
    (acted : g.service.Acted link.connection number t)
    (joined : Joined t number link) : g.Leads ({ g with service := t }.finish number link) := by
  obtain ⟨o, placed, owner, held⟩ := joined
  have abandoned := (acted.sound linked.sound).acted_abandon placed
  rw [owner] at abandoned
  refine linked.acted { link with phase := .over } (acted.trans abandoned) ?_
  exact Joined.ended ⟨o, placed, owner, held⟩ abandoned.own rfl (fun _ => Phase.noConfusion)

theorem Linked.expire (linked : g.Linked) (joined : Joined g.service number link) :
    g.Leads (g.expire number link) := by
  have dismiss {heard : Nat} (live : link.phase = .live heard) (reason : CloseReason) (time : Nat) :
      g.Leads (g.dismiss number link reason time) :=
    linked.close link joined live reason _ fun _ => Phase.noConfusion
  unfold Gateway.expire
  split
  · rename_i heard live
    dsimp only
    split
    · exact dismiss live _ _
    · split
      · exact dismiss live _ _
      · split
        · exact dismiss live _ _
        · exact linked.refl
  all_goals exact linked.refl

theorem Linked.giveUp (linked : g.Linked) (joined : Joined g.service number link) :
    g.Leads (g.giveUp number link) := by
  have finish := linked.finish link (.refl _ _ _) joined
  unfold Gateway.giveUp
  split
  · split
    · exact finish
    · exact linked.refl
  · split
    · exact finish
    · exact linked.refl
  all_goals exact linked.refl

structure Written (g : Gateway) (number : Nat) (link : Link) (done : Gateway × Link) : Prop where
  service : ∃ t, done.1 = { g with service := t } ∧ g.service.Acted link.connection number t ∧
    (t.outboxes.get? number).map Service.hold = (g.service.outboxes.get? number).map Service.hold
  connection : done.2.connection = link.connection
  phase : done.2.phase = link.phase

theorem written_write (sound : g.service.Sound) {o : Outbox Frame}
    (placed : g.service.outboxes.get? number = some o) (link : Link)
    (owner : o.connection = link.connection) (limit : Nat) :
    Written g number link (g.write number link limit) := by
  have stays : Written g number link (g, link) := ⟨⟨_, rfl, .refl _ _ _, rfl⟩, rfl, rfl⟩
  induction limit generalizing g link o with
  | zero => exact stays
  | succ limit ih =>
      unfold write
      split
      · exact stays
      · split
        · rename_i service frame received
          have first := sound.acted_receive placed
          rw [owner, received] at first
          obtain ⟨rfl, -⟩ := Prod.mk.inj ((Service.receive_of_placed placed).symm.trans received)
          have next : (g.service.setOutbox number o.receive.1).outboxes.get? number = some o.receive.1 :=
            Table.get?_insert_self _ _ _
          have owner' : o.receive.1.connection = link.connection :=
            (congrArg Prod.fst (Service.mark_receive o)).trans owner
          have rest := ih (g := { g with service := g.service.setOutbox number o.receive.1 })
            (first.sound sound) next (link.write (.message frame)) owner'
            ⟨⟨_, rfl, .refl _ _ _, rfl⟩, rfl, rfl⟩
          obtain ⟨t, same, acted, held⟩ := rest.service
          refine ⟨⟨t, same, first.trans acted, held.trans ?_⟩, rest.connection, rest.phase⟩
          rw [next, placed]
          exact congrArg some (Service.hold_receive o)
        · exact stays

theorem Linked.pump (linked : g.Linked) (joined : Joined g.service number link) :
    g.Leads (g.pump number link) := by
  obtain ⟨o, placed, owner, live⟩ := id joined
  have written := written_write linked.sound placed link owner (g.queued number).length
  generalize done : g.write number link (g.queued number).length = after at written
  obtain ⟨g', link'⟩ := after
  obtain ⟨⟨t, rfl, acted, held⟩, connection, phase⟩ := written
  have connection : link'.connection = link.connection := connection
  have phase : link'.phase = link.phase := phase
  rw [← connection] at acted
  have joined' : Joined t number link' := by
    obtain ⟨o', placed', owner', live'⟩ := joined.of_hold held
    exact ⟨o', placed', owner'.trans connection.symm, fun heard own => live' heard (phase ▸ own)⟩
  unfold Gateway.pump
  split
  · rw [done]
    exact linked.acted link' acted joined'
  · rename_i deadline leaving
    have apart (link : Link) (same : link.connection = link'.connection)
        (ended : ∀ heard, link.phase ≠ .live heard) : Joined t number link :=
      joined'.ended rfl same ended
    have ended (heard : Nat) : link'.phase ≠ .live heard := by
      rw [phase, leaving]
      exact Phase.noConfusion
    rw [done]
    dsimp only
    split
    · exact linked.acted link' acted joined'
    · split
      · exact linked.acted { link'.write .close with phase := .flushing deadline } acted
          (apart _ rfl fun _ => Phase.noConfusion)
      · exact linked.finish (link'.write .close) acted (apart _ rfl ended)
  all_goals exact linked.refl

theorem Linked.settle (linked : g.Linked) : g.Leads g.settle := by
  unfold Gateway.settle
  generalize g.links.keys = numbers
  induction numbers generalizing g with
  | nil => exact linked.refl
  | cons number rest ih =>
      -- a link is looked up again for each of the three, since the one before may have dropped it
      have expired := linked.at number Gateway.expire fun _ joined => linked.expire joined
      have pumped := expired.linked.at number Gateway.pump fun _ joined => expired.linked.pump joined
      have givenUp := pumped.linked.at number Gateway.giveUp fun _ joined => pumped.linked.giveUp joined
      have first := (expired.trans pumped).trans givenUp
      exact first.trans (ih first.linked)

end Gateway

end CandleFeed
