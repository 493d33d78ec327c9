import CandleFeed.Http.Api
import CandleFeed.Proofs.Service.Admission

namespace CandleFeed

namespace Metrics

theorem lookup_exported_rejectedTrade (m : Metrics) {name : String} (other : name ≠ "trades_rejected") :
    m.rejectedTrade.exported.lookup name = m.exported.lookup name := by
  have apart : (name == "trades_rejected") = false := beq_false_of_ne other
  unfold exported
  rw [List.lookup_append, List.lookup_append]
  have counters : m.rejectedTrade.counters.lookup name = m.counters.lookup name := by
    simp only [counters, List.lookup_cons, apart]
    rfl
  rw [counters]
  rfl

theorem lookup_exported_rejected (m : Metrics) :
    m.exported.lookup "trades_rejected" = some m.tradesRejected.toNat := rfl

end Metrics

theorem Engine.markCompleted_cases (e : Engine) (key : CandleKey) :
    (∃ row, (e.markCompleted key).2 = .ok (some row)) ∨
      (e.markCompleted key).1 = e.touch key.symbol key.interval := by
  unfold markCompleted
  dsimp only
  split
  · exact .inr rfl
  · exact .inr rfl
  · split
    · exact .inr rfl
    · exact .inl ⟨_, rfl⟩

namespace Service

variable {s after : Service}

/-- Nothing has changed but the count of rejected trades, by one at most. -/
structure Kept (s after : Service) : Prop where
  store : after.store = s.store
  policy : after.policy = s.policy
  window : after.window = s.window
  registry : after.registry = s.registry
  outboxes : after.outboxes = s.outboxes
  metrics : after.metrics = s.metrics ∨ after.metrics = s.metrics.rejectedTrade

theorem kept_refl (s : Service) : s.Kept s :=
  ⟨rfl, rfl, rfl, rfl, rfl, .inl rfl⟩

theorem kept_rejected (s : Service) : s.Kept (s.setMetrics Metrics.rejectedTrade) :=
  ⟨rfl, rfl, rfl, rfl, rfl, .inr rfl⟩

theorem Kept.counters (kept : s.Kept after) {name : String} (other : name ≠ "trades_rejected") :
    after.metrics.exported.lookup name = s.metrics.exported.lookup name := by
  rcases kept.metrics with same | rejected
  · rw [same]
  · rw [rejected, Metrics.lookup_exported_rejectedTrade _ other]

theorem Kept.rejected (kept : s.Kept after) :
    after.metrics.exported.lookup "trades_rejected" = some s.metrics.tradesRejected.toNat ∨
      after.metrics.exported.lookup "trades_rejected" =
        some (s.metrics.tradesRejected + 1).toNat := by
  rw [Metrics.lookup_exported_rejected]
  rcases kept.metrics with same | rejected
  · exact .inl (by rw [same])
  · exact .inr (by rw [rejected]; rfl)

theorem complete_cases (s : Service) (key : CandleKey) :
    (∃ row, (s.complete key).2 = .ok (some row)) ∨ s.Kept (s.complete key).1 := by
  rw [complete_outcome]
  unfold complete
  rcases s.toEngine.markCompleted_cases key with completed | touched
  · exact .inl completed
  · generalize s.toEngine.markCompleted key = done at touched
    rcases done with ⟨engine, cause | _ | row⟩
    · obtain rfl : engine = _ := touched
      exact .inr ⟨rfl, rfl, rfl, rfl, rfl, .inl rfl⟩
    · obtain rfl : engine = _ := touched
      exact .inr ⟨rfl, rfl, rfl, rfl, rfl, .inl rfl⟩
    · exact .inl ⟨row, rfl⟩

/-! ## Counts -/

def counting (s : Service) (m : Metrics) : Service :=
  { s with metrics := m }

theorem hear_counting (s : Service) (m : Metrics) (news : News) :
    ∃ m', (s.counting m).hear news = (s.hear news).counting m' := by
  obtain ⟨first, plain⟩ := s.hear_eq news
  obtain ⟨second, counted⟩ := (s.counting m).hear_eq news
  obtain ⟨third, heard⟩ := s.toIngester.hear_counting m news
  have same : (s.counting m).toIngester = s.toIngester.counting m := rfl
  have offers : (s.counting m).offers news = s.offers news := by
    unfold Service.offers
    rw [same]
    exact congrArg (List.flatMap (offersOf s.registry))
      (s.toIngester.pushes_counting m s.publicTrades news)
  refine ⟨second, ?_⟩
  rw [counted, plain, offers, same, heard]
  rfl

theorem ingestEvent_counting (s : Service) (m : Metrics) (event : TradeEvent) (nanos : Nat) :
    ∃ m', (s.counting m).ingestEvent event nanos =
      ((s.ingestEvent event nanos).1.counting m', (s.ingestEvent event nanos).2) := by
  obtain ⟨m', heard⟩ := s.hear_counting m (.event event nanos)
  obtain ⟨outcome, -⟩ := s.ingestEvent_eq event nanos
  obtain ⟨outcome', -⟩ := (s.counting m).ingestEvent_eq event nanos
  obtain ⟨_, counted⟩ := s.toIngester.ingestEvent_counting m event nanos
  exact ⟨m', Prod.ext heard (outcome'.trans ((congrArg Prod.snd counted).trans outcome.symm))⟩

theorem complete_counting (s : Service) (m : Metrics) (key : CandleKey) :
    ∃ m', (s.counting m).complete key = ((s.complete key).1.counting m', (s.complete key).2) := by
  obtain ⟨m', heard⟩ := s.hear_counting m (.complete key)
  obtain ⟨_, counted⟩ := s.toEngine.markCompleted_counting m key
  have same : (s.counting m).toEngine = s.toEngine.counting m := rfl
  refine ⟨m', Prod.ext heard ?_⟩
  rw [complete_outcome, complete_outcome, same, counted]

end Service

namespace Http

def Answer.Refuses (a : Answer) : Prop :=
  400 ≤ a.status ∧ a.status < 500

variable {s : Service} {call : Call} {nanos : Nat} {route : Route}

theorem not_refuses_ok (body : List Char) : ¬ (Answer.ok body).Refuses := by
  rintro ⟨low, -⟩
  exact absurd low (by decide : ¬ 400 ≤ 200)

theorem takeEvent_refused (refused : (takeEvent s call nanos).2.Refuses) :
    (takeEvent s call nanos).1 = s ∨
      (takeEvent s call nanos).1 = s.setMetrics Metrics.rejectedTrade := by
  unfold takeEvent at refused ⊢
  split
  · exact .inl rfl
  · rename_i event body
    rw [body] at refused
    dsimp only at refused ⊢
    cases read : event.toTick with
    | error cause =>
        rw [Service.ingestEvent_faulty read]
        exact .inr rfl
    | ok tick =>
        cases old : s.window.remember event.eventId with
        | none =>
            rw [Service.ingestEvent_repeated read old] at refused
            exact absurd refused (not_refuses_ok _)
        | some window =>
            obtain ⟨-, candles, accepted⟩ := Service.ingestEvent_fresh read old nanos
            rw [accepted] at refused
            exact absurd refused (not_refuses_ok _)

theorem completeCandle_refused (refused : (completeCandle s call).2.Refuses) :
    s.Kept (completeCandle s call).1 := by
  unfold completeCandle at refused ⊢
  split
  · exact s.kept_refl
  · rename_i completion body
    rw [body] at refused
    dsimp only at refused
    split
    · exact s.kept_refl
    · rename_i key named
      rw [named] at refused
      dsimp only at refused ⊢
      rcases s.complete_cases key with ⟨row, completed⟩ | kept
      · rw [completed] at refused
        exact absurd refused (not_refuses_ok _)
      · exact kept

theorem run_refused (refused : (run s route call nanos).2.Refuses) :
    s.Kept (run s route call nanos).1 := by
  cases route with
  | health | stats | candles | sessions => exact s.kept_refl
  | events =>
      rcases takeEvent_refused refused with same | rejected
      · exact same.symm ▸ s.kept_refl
      · exact rejected.symm ▸ s.kept_rejected
  | completion => exact completeCandle_refused refused

theorem run_get (get : "GET" ∈ route.methods) : (run s route call nanos).1 = s := by
  cases route with
  | health | stats | candles | sessions => rfl
  | events | completion => exact absurd get (by decide)

theorem run_counting (quiet : route ≠ .stats) (s : Service) (m : Metrics) (call : Call) (nanos : Nat) :
    ∃ m', run (s.counting m) route call nanos =
      ((run s route call nanos).1.counting m', (run s route call nanos).2) := by
  cases route with
  | stats => exact absurd rfl quiet
  | health | candles | sessions => exact ⟨m, rfl⟩
  | events =>
      unfold run
      dsimp only
      unfold takeEvent
      split
      · exact ⟨m, rfl⟩
      · rename_i event _
        obtain ⟨m', counted⟩ := s.ingestEvent_counting m event nanos
        rw [counted]
        exact ⟨m', rfl⟩
  | completion =>
      unfold run
      dsimp only
      unfold completeCandle
      split
      · exact ⟨m, rfl⟩
      · split
        · exact ⟨m, rfl⟩
        · rename_i key _
          obtain ⟨m', counted⟩ := s.complete_counting m key
          rw [counted]
          exact ⟨m', rfl⟩

/-! ## Calls -/

theorem respond_cases (wsPath : String) (call : Call) :
    (∃ status, ∀ s nanos, respond s wsPath call nanos = (s, .bare status)) ∨
      ∃ route ∈ Route.atPath wsPath call.target.path, call.method ∈ route.methods ∧
        ∀ s nanos, respond s wsPath call nanos =
          ((run s route call nanos).1,
            if call.method = "HEAD" then (run s route call nanos).2.withoutBody
            else (run s route call nanos).2) := by
  unfold respond
  by_cases options : call.method = "OPTIONS"
  · simp only [if_pos options]
    exact .inl ⟨200, fun _ _ => rfl⟩
  · simp only [if_neg options]
    cases found : (Route.atPath wsPath call.target.path).find?
        fun route => call.method ∈ route.methods with
    | none => exact .inl ⟨_, fun _ _ => rfl⟩
    | some route =>
        have method : call.method ∈ route.methods := by simpa using List.find?_some found
        exact .inr ⟨route, List.mem_of_find?_eq_some found, method, fun _ _ => rfl⟩

theorem respond_get (get : call.method = "GET") (wsPath : String) :
    (respond s wsPath call nanos).1 = s := by
  rcases respond_cases wsPath call with ⟨status, same⟩ | ⟨route, -, method, same⟩
  · rw [same]
  · rw [same]
    exact run_get (get ▸ method)

theorem respond_refused {wsPath : String} (refused : (respond s wsPath call nanos).2.Refuses) :
    s.Kept (respond s wsPath call nanos).1 := by
  rcases respond_cases wsPath call with ⟨status, same⟩ | ⟨route, -, -, same⟩
  · rw [same]
    exact s.kept_refl
  · rw [same] at refused ⊢
    apply run_refused
    dsimp only at refused
    split at refused <;> exact refused

theorem atPath_stats {wsPath path : String} (mem : Route.stats ∈ Route.atPath wsPath path) :
    path = "/api/v1/websocket/stats" := by
  unfold Route.atPath at mem
  split at mem
  · rename_i route known
    have own : route = .stats := by
      split at mem <;> simpa [eq_comm] using mem
    obtain ⟨before, behind, split, -⟩ := List.lookup_eq_some_iff.mp known
    have entry : (path, route) ∈ Route.fixed := split ▸ List.mem_append_right _ List.mem_cons_self
    simpa [Route.fixed, own] using entry
  · split at mem <;> simp at mem

theorem respond_counting {wsPath : String} {call : Call}
    (quiet : call.target.path ≠ "/api/v1/websocket/stats") (s : Service) (m : Metrics) (nanos : Nat) :
    ∃ m', respond (s.counting m) wsPath call nanos =
      ((respond s wsPath call nanos).1.counting m', (respond s wsPath call nanos).2) := by
  rcases respond_cases wsPath call with ⟨status, same⟩ | ⟨route, mem, -, same⟩
  · rw [same, same]
    exact ⟨m, rfl⟩
  · have other : route ≠ .stats := by
      rintro rfl
      exact quiet (atPath_stats mem)
    obtain ⟨m', counted⟩ := run_counting other s m call nanos
    rw [same, same, counted]
    exact ⟨m', rfl⟩

theorem eq_events_of_post {wsPath : String}
    (mem : route ∈ Route.atPath wsPath "/api/v1/internal/trades") (post : "POST" ∈ route.methods) :
    route = .events := by
  have known : Route.fixed.lookup "/api/v1/internal/trades" = some .events := by decide
  have either : route = .sessions ∨ route = .events := by
    unfold Route.atPath at mem
    rw [known] at mem
    dsimp only at mem
    split at mem
    · simpa using mem
    · exact .inr (List.mem_singleton.mp mem)
  rcases either with rfl | rfl
  · exact absurd post (by decide)
  · rfl

theorem respond_event_refused {wsPath : String} (post : call.method = "POST")
    (path : call.target.path = "/api/v1/internal/trades")
    (refused : (respond s wsPath call nanos).2.Refuses) :
    ∃ m, (respond s wsPath call nanos).1 = s.counting m := by
  rcases respond_cases wsPath call with ⟨status, same⟩ | ⟨route, mem, method, same⟩
  · rw [same]
    exact ⟨s.metrics, rfl⟩
  · obtain rfl := eq_events_of_post (path ▸ mem) (post ▸ method)
    have shown : ¬ call.method = "HEAD" := by
      rw [post]
      decide
    rw [same, if_neg shown] at refused
    rw [same]
    rcases takeEvent_refused refused with kept | rejected
    · exact ⟨s.metrics, kept⟩
    · exact ⟨s.metrics.rejectedTrade, rejected⟩

/-- A call that is refused changes nothing but the count of rejected trades, and a call with `GET`
nothing at all. After an event is refused, any call but one for the counts is answered as if that
event had not come, and does the same. -/
theorem refused_call (s : Service) (wsPath : String) (call : Call) (nanos : Nat) :
    let done := respond s wsPath call nanos
    (done.2.Refuses → s.Kept done.1 ∧
      (∀ name, name ≠ "trades_rejected" →
        done.1.metrics.exported.lookup name = s.metrics.exported.lookup name) ∧
      (done.1.metrics.exported.lookup "trades_rejected" = some s.metrics.tradesRejected.toNat ∨
        done.1.metrics.exported.lookup "trades_rejected" =
          some (s.metrics.tradesRejected + 1).toNat) ∧
      (call.method = "POST" → call.target.path = "/api/v1/internal/trades" →
        ∀ next nanos', next.target.path ≠ "/api/v1/websocket/stats" →
          (respond done.1 wsPath next nanos').2 = (respond s wsPath next nanos').2 ∧
          ∃ m, (respond done.1 wsPath next nanos').1 =
            (respond s wsPath next nanos').1.counting m)) ∧
    (call.method = "GET" → done.1 = s) := by
  intro done
  refine ⟨?_, fun get => respond_get get wsPath⟩
  intro refused
  have kept := respond_refused refused
  refine ⟨kept, fun name other => kept.counters other, kept.rejected, ?_⟩
  intro post path next nanos' quiet
  obtain ⟨m, same⟩ := respond_event_refused post path refused
  obtain ⟨m', counted⟩ := respond_counting quiet s m nanos'
  rw [show done.1 = s.counting m from same, counted]
  exact ⟨rfl, m', rfl⟩

def callWithTrade (price : String) : Call where
  method := "POST"
  target := ⟨"/api/v1/internal/trades", []⟩
  contentType := some "application/json"
  body := (TradeEvent.codec.write
    { eventId := "e", eventType := TradeEvent.tradeExecuted, eventVersion := none, timestamp := .epoch,
      sourceService := none, correlationId := none,
      payload :=
        { tradeId := "t", symbol := "BTC/USDT", price := price, quantity := "1", buyerOrderId := none,
          sellerOrderId := none, buyerUserId := none, sellerUserId := none, buyerFee := none,
          sellerFee := none, makerSide := none, timestamp := none } }).map fun c => c.toNat.toUInt8

theorem refused_trade_mended :
    let s : Service := .create (.create (.create (.empty 0 .epoch Uuid.serial) .standard) 1) 1 true
    let refused := respond s "/ws" (callWithTrade "-1") 0
    refused.2.status = 400 ∧ s.Kept refused.1 ∧
      (respond refused.1 "/ws" (callWithTrade "1") 0).2 = (respond s "/ws" (callWithTrade "1") 0).2 ∧
      (respond refused.1 "/ws" (callWithTrade "1") 0).2.status = 200 := by
  intro s refused
  have status : refused.2.status = 400 := by decide +kernel
  have refuses : refused.2.Refuses := by
    unfold Answer.Refuses
    omega
  obtain ⟨kept, -, -, again⟩ := (refused_call s "/ws" (callWithTrade "-1") 0).1 refuses
  have taken : (respond s "/ws" (callWithTrade "1") 0).2.status = 200 := by decide +kernel
  have same := (again rfl rfl (callWithTrade "1") 0 (by decide)).1
  refine ⟨status, kept, same, ?_⟩
  rw [same]
  exact taken

end Http

end CandleFeed
