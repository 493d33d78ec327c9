import CandleFeed.Proofs.Registry.Queries

namespace CandleFeed.Registry

def Command.registers? (id : ConnectionId) : Command → Option Handle
  | .register handle => if handle.connection = id then some handle else none
  | _ => none

def lastRegistered (commands : List Command) (id : ConnectionId) : Option Handle :=
  commands.reverse.findSome? (Command.registers? id)

def Command.Ends (id : ConnectionId) (topic : Topic) (command : Command) : Prop :=
  command = .unsubscribe id topic ∨ command = .unsubscribeAll id

def Opens (limit : Nat) (before : List Command) (id : ConnectionId) (topic : Topic) : Prop :=
  (((empty limit).run before).1.step (.subscribe id topic)).2 = .subscribed (.ok true)

/-- A subscription was made with a handle and has not ended since. -/
def Holds (limit : Nat) (commands : List Command) (topic : Topic) (handle : Handle) : Prop :=
  ∃ before after, commands = before ++ .subscribe handle.connection topic :: after ∧
    Opens limit before handle.connection topic ∧
    lastRegistered before handle.connection = some handle ∧
    ∀ command ∈ after, ¬ command.Ends handle.connection topic

theorem lastRegistered_append (before after : List Command) (id : ConnectionId) :
    lastRegistered (before ++ after) id =
      (lastRegistered after id).or (lastRegistered before id) := by
  unfold lastRegistered
  rw [List.reverse_append, List.findSome?_append]

theorem lastRegistered_concat (commands : List Command) (command : Command) (id : ConnectionId) :
    lastRegistered (commands ++ [command]) id =
      (command.registers? id).or (lastRegistered commands id) := by
  rw [lastRegistered_append]
  congr 1
  simp [lastRegistered]

theorem lastRegistered_subscribe (before after : List Command) (id other : ConnectionId)
    (topic : Topic) :
    lastRegistered (before ++ .subscribe other topic :: after) id =
      (lastRegistered after id).or (lastRegistered before id) := by
  rw [List.append_cons, lastRegistered_append, lastRegistered_concat]
  rfl

theorem registered_step {r : Registry} {command : Command} {id : ConnectionId}
    {entry : Registration} (found : (r.step command).1.connections.get? id = some entry) :
    command = .register entry.handle ∧ entry.handle.connection = id ∨
      command.registers? id = none ∧
        ∃ old, r.connections.get? id = some old ∧ old.handle = entry.handle := by
  cases command with
  | register handle =>
      have found : (r.register handle).connections.get? id = some entry := found
      rw [get?_register] at found
      split at found
      · rename_i here
        cases found
        exact .inl ⟨rfl, here.symm⟩
      · rename_i apart
        exact .inr ⟨if_neg (Ne.symm apart), entry, found, rfl⟩
  | subscribe own topic =>
      refine .inr ⟨rfl, ?_⟩
      rcases subscribe_new_or r own topic with ⟨same, -⟩ | ⟨mine, known, -, next⟩
      · rw [same] at found
        exact ⟨entry, found, rfl⟩
      · rw [next, connections_subscribed] at found
        split at found
        · rename_i here
          cases found
          exact ⟨mine, here ▸ known, rfl⟩
        · exact ⟨entry, found, rfl⟩
  | unsubscribe own topic =>
      refine .inr ⟨rfl, ?_⟩
      rcases unsubscribe_cases r own topic with ⟨-, next⟩ | ⟨mine, known, -, next⟩
      · rw [next] at found
        exact ⟨entry, found, rfl⟩
      · rw [next, connections_unsubscribed] at found
        split at found
        · rename_i here
          cases found
          exact ⟨mine, here ▸ known, rfl⟩
        · exact ⟨entry, found, rfl⟩
  | unsubscribeAll own =>
      refine .inr ⟨rfl, ?_⟩
      rcases unsubscribeAll_cases r own with ⟨-, next⟩ | ⟨mine, known, next⟩
      · rw [next] at found
        exact ⟨entry, found, rfl⟩
      · rw [next, connections_forgotten] at found
        split at found
        · cases found
        · exact ⟨entry, found, rfl⟩

theorem registered_run {limit : Nat} {commands : List Command} {id : ConnectionId}
    {entry : Registration}
    (found : ((empty limit).run commands).1.connections.get? id = some entry) :
    lastRegistered commands id = some entry.handle := by
  induction commands using List.reverseRecOn generalizing entry with
  | nil => cases found
  | append_singleton commands command ih =>
      rw [run_concat] at found
      rw [lastRegistered_concat]
      rcases registered_step found with ⟨rfl, own⟩ | ⟨nothing, old, known, same⟩
      · simp [Command.registers?, own]
      · rw [nothing, ih known, same]
        rfl

theorem exists_registered_of_opens {limit : Nat} {before : List Command} {id : ConnectionId}
    {topic : Topic} (opens : Opens limit before id topic) :
    ∃ handle, handle.connection = id ∧ lastRegistered before id = some handle := by
  obtain ⟨agrees, -, -⟩ := agrees_run (agrees_empty limit) before
  rcases subscribe_new_or ((empty limit).run before).1 id topic with ⟨-, refused⟩ | ⟨entry, found, -⟩
  · exact absurd opens refused
  · exact ⟨entry.handle, agrees.own id entry found, registered_run found⟩

theorem Agrees.get?_handles_eq_none {r : Registry} {s : Subscriptions} (agrees : Agrees r s)
    {id : ConnectionId} {topic : Topic} (absent : (id, topic) ∉ s.pairs) :
    (r.handles topic).get? id = none := by
  rw [agrees.subscribed] at absent
  exact Option.eq_none_iff_forall_ne_some.mpr fun handle found => absent ⟨handle, found⟩

theorem Agrees.handles_unsubscribe {r : Registry} {s : Subscriptions} (agrees : Agrees r s)
    (own id : ConnectionId) (topic' topic : Topic) :
    ((r.step (.unsubscribe own topic')).1.handles topic).get? id =
      if topic = topic' ∧ id = own then none else (r.handles topic).get? id := by
  rcases unsubscribe_cases r own topic' with ⟨absent, next⟩ | ⟨mine, known, -, next⟩
  · rw [next, eq_comm, ite_eq_right_iff]
    rintro ⟨rfl, rfl⟩
    symm
    apply agrees.get?_handles_eq_none
    intro pair
    obtain ⟨mine, known⟩ := (agrees.registered id).mp (agrees.known id topic pair)
    exact absent mine known ((agrees.topics id mine known topic).mpr pair)
  · rw [next]
    exact handles_unsubscribed ..

theorem Agrees.handles_unsubscribeAll {r : Registry} {s : Subscriptions} (agrees : Agrees r s)
    (own id : ConnectionId) (topic : Topic) :
    ((r.step (.unsubscribeAll own)).1.handles topic).get? id =
      if id = own then none else (r.handles topic).get? id := by
  rcases unsubscribeAll_cases r own with ⟨unknown, next⟩ | ⟨mine, known, next⟩
  · rw [next, eq_comm, ite_eq_right_iff]
    rintro rfl
    exact (agrees.get?_handles_eq_none (agrees.topics_of_unregistered unknown topic)).symm
  · rw [next]
    dsimp only
    rw [handles_forgotten]
    by_cases here : id = own
    · subst here
      rw [if_pos rfl, ite_eq_left_iff]
      intro apart
      apply agrees.get?_handles_eq_none
      rw [← agrees.topics id mine known]
      exact fun held => apart ⟨held, rfl⟩
    · rw [if_neg here, if_neg fun both => here both.2]

theorem Agrees.handles_subscribe {r : Registry} {s : Subscriptions} (agrees : Agrees r s)
    (own id : ConnectionId) (topic' topic : Topic) (handle : Handle) :
    ((r.step (.subscribe own topic')).1.handles topic).get? id = some handle ↔
      ((own = id ∧ topic' = topic) ∧ (r.step (.subscribe own topic')).2 = .subscribed (.ok true) ∧
          ∃ entry, r.connections.get? id = some entry ∧ entry.handle = handle) ∨
        (r.handles topic).get? id = some handle := by
  rcases subscribe_new_or r own topic' with ⟨same, refused⟩ | ⟨mine, known, new, next⟩
  · rw [same]
    simp [refused]
  · rw [next]
    dsimp only
    rw [handles_subscribed, agrees.own own mine known]
    by_cases here : topic = topic' ∧ id = own
    · obtain ⟨rfl, rfl⟩ := here
      rw [agrees.topics id mine known] at new
      simp [known, agrees.get?_handles_eq_none new]
    · have apart : ¬ (own = id ∧ topic' = topic) := fun h => here ⟨h.2.symm, h.1.symm⟩
      simp [here, apart]

theorem Agrees.handles_step {r : Registry} {s : Subscriptions} (agrees : Agrees r s)
    (command : Command) (topic : Topic) (id : ConnectionId) (handle : Handle) :
    ((r.step command).1.handles topic).get? id = some handle ↔
      (command = .subscribe id topic ∧ (r.step command).2 = .subscribed (.ok true) ∧
          ∃ entry, r.connections.get? id = some entry ∧ entry.handle = handle) ∨
        ¬ command.Ends id topic ∧ (r.handles topic).get? id = some handle := by
  cases command with
  | register other =>
      have lasting : ¬ (Command.register other).Ends id topic := by simp [Command.Ends]
      simp only [reduceCtorEq, false_and, lasting, not_false_eq_true, true_and, false_or]
      rfl
  | subscribe own topic' =>
      have lasting : ¬ (Command.subscribe own topic').Ends id topic := by simp [Command.Ends]
      simp only [lasting, not_false_eq_true, true_and, Command.subscribe.injEq]
      exact agrees.handles_subscribe own id topic' topic handle
  | unsubscribe own topic' =>
      have ends : (Command.unsubscribe own topic').Ends id topic ↔ topic = topic' ∧ id = own := by
        simp [Command.Ends, and_comm, eq_comm]
      rw [agrees.handles_unsubscribe, ends]
      simp
  | unsubscribeAll own =>
      have ends : (Command.unsubscribeAll own).Ends id topic ↔ id = own := by
        simp [Command.Ends, eq_comm]
      rw [agrees.handles_unsubscribeAll, ends]
      simp

theorem holds_concat (limit : Nat) (commands : List Command) (command : Command) (topic : Topic)
    (handle : Handle) :
    Holds limit (commands ++ [command]) topic handle ↔
      (command = .subscribe handle.connection topic ∧ Opens limit commands handle.connection topic ∧
          lastRegistered commands handle.connection = some handle) ∨
        ¬ command.Ends handle.connection topic ∧ Holds limit commands topic handle := by
  constructor
  · rintro ⟨before, after, split, opens, current, lasting⟩
    rcases List.eq_nil_or_concat after with rfl | ⟨after, last, rfl⟩
    · obtain ⟨rfl, last⟩ := List.append_inj' split rfl
      cases last
      exact .inl ⟨rfl, opens, current⟩
    · have split : commands ++ [command] =
          (before ++ .subscribe handle.connection topic :: after) ++ [last] := by simpa using split
      obtain ⟨rfl, same⟩ := List.append_inj' split rfl
      cases same
      refine .inr ⟨lasting _ (by simp), before, after, rfl, opens, current, ?_⟩
      intro other mem
      exact lasting other (by simp [mem])
  · rintro (⟨rfl, opens, current⟩ | ⟨kept, before, after, rfl, opens, current, lasting⟩)
    · exact ⟨commands, [], rfl, opens, current, by simp⟩
    · refine ⟨before, after ++ [command], by simp, opens, current, ?_⟩
      intro other mem
      rcases List.mem_append.mp mem with old | last
      · exact lasting other old
      · rw [List.mem_singleton.mp last]
        exact kept

theorem get?_handles_iff_holds (limit : Nat) (commands : List Command) (topic : Topic)
    (handle : Handle) :
    (((empty limit).run commands).1.handles topic).get? handle.connection = some handle ↔
      Holds limit commands topic handle := by
  induction commands using List.reverseRecOn with
  | nil =>
      constructor
      · intro found
        cases found
      · rintro ⟨before, after, split, -⟩
        simp at split
  | append_singleton commands command ih =>
      obtain ⟨agrees, -, -⟩ := agrees_run (agrees_empty limit) commands
      rw [run_concat, agrees.handles_step, holds_concat, ih]
      apply or_congr _ Iff.rfl
      constructor
      · rintro ⟨rfl, opens, entry, found, rfl⟩
        exact ⟨rfl, opens, registered_run found⟩
      · rintro ⟨rfl, opens, current⟩
        refine ⟨rfl, opens, ?_⟩
        rcases subscribe_new_or ((empty limit).run commands).1 handle.connection topic with
          ⟨-, refused⟩ | ⟨entry, found, -⟩
        · exact absurd opens refused
        · rw [registered_run found] at current
          cases current
          exact ⟨_, found, rfl⟩

theorem mem_subscribers_iff_holds (limit : Nat) (commands : List Command) (topic : Topic)
    (handle : Handle) :
    handle ∈ ((empty limit).run commands).1.subscribers topic ↔ Holds limit commands topic handle := by
  obtain ⟨agrees, -, -⟩ := agrees_run (agrees_empty limit) commands
  rw [← get?_handles_iff_holds, subscribers, Table.mem_values_iff]
  constructor
  · rintro ⟨id, found⟩
    rwa [agrees.named id topic handle found]
  · intro found
    exact ⟨_, found⟩

/-- A topic has the current handles of its subscribers just if nobody who is subscribed registered
another handle since. -/
theorem subscribers_current_iff (limit : Nat) (commands : List Command) (topic : Topic) :
    (∀ handle ∈ ((empty limit).run commands).1.subscribers topic,
        lastRegistered commands handle.connection = some handle) ↔
      ∀ before after id, commands = before ++ .subscribe id topic :: after →
        Opens limit before id topic → (∀ command ∈ after, ¬ command.Ends id topic) →
        ∀ handle, lastRegistered after id = some handle → lastRegistered before id = some handle := by
  constructor
  · rintro current before after id rfl opens lasting handle later
    obtain ⟨first, rfl, registered⟩ := exists_registered_of_opens opens
    have holds : Holds limit (before ++ .subscribe first.connection topic :: after) topic first :=
      ⟨before, after, rfl, opens, registered, lasting⟩
    have same := current first ((mem_subscribers_iff_holds limit _ topic first).mpr holds)
    rw [lastRegistered_subscribe, later] at same
    cases same
    exact registered
  · intro unchanged handle mem
    obtain ⟨before, after, rfl, opens, registered, lasting⟩ :=
      (mem_subscribers_iff_holds limit commands topic handle).mp mem
    rw [lastRegistered_subscribe]
    cases later : lastRegistered after handle.connection with
    | none => exact registered
    | some other =>
        have same := unchanged before after handle.connection rfl opens lasting other later
        rw [registered] at same
        cases same
        rfl

theorem exists_stale_subscriber :
    ¬ ∀ limit commands topic, ∀ handle ∈ ((empty limit).run commands).1.subscribers topic,
      lastRegistered commands handle.connection = some handle := by
  intro current
  let id : ConnectionId := ⟨1⟩
  have stale := current 1 [.register ⟨id, 0⟩, .subscribe id (.depth ⟨"BTC-USDT"⟩), .register ⟨id, 1⟩]
    (.depth ⟨"BTC-USDT"⟩) ⟨id, 0⟩ (by decide)
  revert stale
  decide

end CandleFeed.Registry
