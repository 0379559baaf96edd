import TrafficRouter.Proofs.Session.Steps

/-!
# Where a session goes

The first read of a session decides its route: no bytes and it has none, ends, and has called no
service and written nothing; some bytes and they are classified, once, and the one service that it
may call is the one for what they are.

* `Route.ofReading`: the route by what the first read came to;
* `Unrouted`, `Underway`: a session without a route, and one on its way to its service;
* `Routing`: the invariant. The world keeps it (`Routing.outside`), and so does every poll
  (`Routing.poll`).

NOT here: which bytes go where (`Transit`).
-/

namespace TrafficRouter

/-- The route of a session by what its first read came to. -/
def Route.ofReading (c : SessionSettings) : Reading → Option Route
  | .bytes [] | .failed _ | .timedOut => none
  | .bytes opening => some ⟨opening, c.classify opening⟩

theorem Route.ofReading_bytes (c : SessionSettings) {opening : Bytes} (h : opening ≠ []) :
    ofReading c (.bytes opening) = some ⟨opening, c.classify opening⟩ := by
  cases opening with
  | nil => exact absurd rfl h
  | cons b opening => rfl

/-- Bytes make a route, and nothing else does. -/
theorem Route.isSome_ofReading {c : SessionSettings} {first : Option Reading} :
    (first.bind (ofReading c)).isSome = true ↔
      ∃ opening, opening ≠ [] ∧ first = some (.bytes opening) := by
  refine ⟨fun h => ?_, ?_⟩
  · match first with
    | some (.bytes (b :: opening)) => exact ⟨_, List.cons_ne_nil b opening, rfl⟩
    | some (.bytes []) | some (.failed _) | some .timedOut | none => cases h
  · rintro ⟨opening, hne, rfl⟩
    rw [Option.bind_some, ofReading_bytes c hne]
    rfl

/-- Whether a session ended because its service could not be connected to. -/
def SessionEnd.isUnreached : SessionEnd → Bool
  | .failed (.connect ..) | .failed (.connectTimeout ..) => true
  | .failed (.clientRead _) | .failed (.clientWrite _) | .failed (.backendWrite _)
  | .failed (.relay _) | .noData | .silent | .cancelled | .answered _ | .relayed _ => false

namespace Session

/-! ## 1. The invariant -/

/-- A session about which nothing is known and which has done nothing. -/
structure Unrouted (s : Session) : Prop where
  route : s.route = none
  calls : s.calls = []
  absent : s.wires.backend.hold = .absent
  unclassified : ∀ protocol, s.ledger.total (.classified protocol) = 0
  untouched : ∀ d, (s.wires.sinkOf d).delivered = []

/-- The one call that a session makes that is for the given service. -/
def callOf (c : SessionSettings) (backend : Backend) : Backend × String :=
  (backend, c.backends.address backend)

/-- **How far a session is** whose first bytes are for the given service. -/
inductive Underway (c : SessionSettings) (backend : Backend) (s : Session) : Prop where
  /-- The request is taken in, or was rejected. -/
  | uncalled {x : Exchange} (hb : backend = .httpLogin) (hs : s.stage = .exchange x)
      (hx : x.isIntake = true ∨ x.isDecided = true) (hc : s.calls = [])
      (ha : s.wires.backend.hold = .absent)
  /-- The request is for the service. -/
  | called {x : Exchange} (hb : backend = .httpLogin) (hs : s.stage = .exchange x)
      (hx : x.isIntake = false) (hc : s.calls = [callOf c backend])
  | dialling {opening : Bytes} {deadline : Nat} (hb : backend ≠ .httpLogin)
      (hs : s.stage = .dialling backend opening deadline) (hc : s.calls = [callOf c backend])
      (ha : s.wires.backend.hold = .absent)
  /-- The service is connected to. -/
  | linked (hb : backend ≠ .httpLogin)
      (hs : (∃ rest, s.stage = .replaying rest) ∨ ∃ r, s.stage = .relaying r)
      (hc : s.calls = [callOf c backend]) (hh : s.wires.backend.hold ≠ .absent)
  | ended {how : SessionEnd} (hs : s.stage = .ended how)
      (hc : s.calls = [] ∧ s.wires.backend.hold = .absent ∨ s.calls = [callOf c backend])
      (hu : how.isUnreached = true → s.wires.backend.hold = .absent)

/-- **The invariant of the route**, given what the first read came to if there was one. -/
inductive Routing (c : SessionSettings) (first : Option Reading) (s : Session) : Prop where
  | unread (hs : s.stage = .admitted ∨ ∃ deadline, s.stage = .priming deadline)
      (hf : first = none) (hu : Unrouted s)
  | unrouted {how : SessionEnd} (hs : s.stage = .ended how)
      (hf : first.bind (Route.ofReading c) = none) (hu : Unrouted s)
  | routed {opening : Bytes} (hf : first = some (.bytes opening)) (hne : opening ≠ [])
      (hle : opening.length ≤ c.sniff) (hr : s.route = some ⟨opening, c.classify opening⟩)
      (hw : Underway c (c.classify opening).backend s)

variable {c : SessionSettings} {now : Nat} {t : Turn} {first : Option Reading}
  {backend : Backend} {s s' : Session} {more : Direction → Bytes}

/-! ## 2. The world keeps it -/

theorem Unrouted.outside (h : Unrouted s) (ho : Outside more s s') : Unrouted s' where
  route := ho.route.trans h.route
  calls := ho.calls.trans h.calls
  absent := ho.hold.trans h.absent
  unclassified protocol := by
    rw [ho.ledger]
    exact h.unclassified protocol
  untouched d := (ho.delivered d).trans (h.untouched d)

theorem Underway.outside (h : Underway c backend s) (ho : Outside more s s') :
    Underway c backend s' := by
  have hstage := ho.stage
  have hcalls := ho.calls
  have hhold := ho.hold
  cases h with
  | uncalled hb hs hx hc ha =>
    exact .uncalled hb (hstage.trans hs) hx (hcalls.trans hc) (hhold.trans ha)
  | called hb hs hx hc => exact .called hb (hstage.trans hs) hx (hcalls.trans hc)
  | dialling hb hs hc ha =>
    exact .dialling hb (hstage.trans hs) (hcalls.trans hc) (hhold.trans ha)
  | linked hb hs hc hh =>
    refine .linked hb ?_ (hcalls.trans hc) ?_
    · rw [hstage]
      exact hs
    · rw [hhold]
      exact hh
  | ended hs hc hu =>
    refine .ended (hstage.trans hs) ?_ ?_
    · rw [hcalls, hhold]
      exact hc
    · rw [hhold]
      exact hu

/-- **The world keeps the route.** -/
theorem Routing.outside (h : Routing c first s) (ho : Outside more s s') : Routing c first s' := by
  cases h with
  | unread hs hf hu =>
    refine .unread ?_ hf (hu.outside ho)
    rw [ho.stage]
    exact hs
  | unrouted hs hf hu => exact .unrouted (ho.stage.trans hs) hf (hu.outside ho)
  | routed hf hne hle hr hw => exact .routed hf hne hle (ho.route.trans hr) (hw.outside ho)

/-! ## 3. The first read -/

theorem called_exchange (x : Exchange) :
    (SessionStage.exchange x).called = if x.isDialling then some .httpLogin else none := by
  cases x <;> rfl

/-- An exchange that a session enters which has called no service calls its service, or has not
yet, or will not. -/
theorem underway_enter {x : Exchange} (hs : s.stage.called = none) (hc : s.calls = [])
    (ha : s.wires.backend.hold = .absent)
    (hx : x.isIntake = true ∨ x.isDecided = true ∨ x.isDialling = true) :
    Underway c .httpLogin (s.enter c (.exchange x)) := by
  have hcalled := called_exchange x
  by_cases hd : x.isDialling = true
  · rw [if_pos hd] at hcalled
    have hi : x.isIntake = false := by
      cases x with
      | dialling => rfl
      | intake | sending | collecting | answering | closing | ended => cases hd
    refine .called rfl (stage_enter _ _ _) hi ?_
    rw [calls_enter_of_called c hs hcalled, hc]
    rfl
  · rw [if_neg hd] at hcalled
    refine .uncalled rfl (stage_enter _ _ _) ?_ ?_ ?_
    · exact hx.imp (fun h => h) fun h => h.resolve_right hd
    · rw [calls_enter_of_uncalled c s hcalled, hc]
    · rw [wires_enter]
      exact ha

/-- **The route of the first bytes.** -/
theorem routing_dispatch (hu : Unrouted s) (hs : s.stage.called = none) {opening : Bytes}
    (hne : opening ≠ []) (hle : opening.length ≤ c.sniff) :
    Routing c (some (.bytes opening)) (s.dispatch c now opening) := by
  by_cases hb : (c.classify opening).backend = .httpLogin
  · rw [dispatch_http c s hb]
    refine .routed rfl hne hle (route_enter _ _ _) ?_
    rw [hb]
    exact underway_enter hs hu.calls hu.absent (Exchange.ofIntake_uncalled _ _ _)
  · rw [dispatch_of_ne_http c s rfl hb]
    refine .routed rfl hne hle (route_enter _ _ _) (.dialling hb (stage_enter _ _ _) ?_ ?_)
    · rw [calls_enter_of_called c (s := s.classified c opening) hs rfl]
      show s.calls ++ _ = _
      rw [hu.calls]
      rfl
    · rw [wires_enter]
      exact hu.absent

/-- What a session that has not read anything yet does. -/
theorem routing_step_unread (hstep : Step c now t s s')
    (hs : s.stage = .admitted ∨ ∃ deadline, s.stage = .priming deadline) (hu : Unrouted s) :
    Routing c (s.firstReading c now) s' := by
  have hcalled : s.stage.called = none := by
    rcases hs with hs | ⟨deadline, hs⟩ <;> rw [hs] <;> rfl
  -- a first read that brings no bytes
  have hnothing {deadline : Nat} {reading : Reading} {source : Source} (how : SessionEnd)
      (hs : s.stage = .priming deadline)
      (h : s.wires.client.source.await c.sniff now deadline = (some reading, source))
      (hr : Route.ofReading c reading = none) :
      Routing c (s.firstReading c now) ((s.on (s.wires.fromClient source)).finish how) := by
    refine .unrouted rfl ?_ ⟨hu.route, hu.calls, ?_, hu.unclassified, fun d => ?_⟩
    · rw [firstReading_of_priming hs, h]
      exact hr
    · exact (Duplex.hold_release_eq_absent _).mpr hu.absent
    · cases d with
      | clientToBackend => exact hu.untouched .clientToBackend
      | backendToClient => exact hu.untouched .backendToClient
  cases hstep with
  | begins hs =>
    have hf : s.firstReading c now = none := by
      unfold firstReading
      rw [hs]
    rw [hf]
    refine .unread (Or.inr ⟨_, stage_enter _ _ _⟩) rfl ⟨?_, ?_, ?_, fun protocol => ?_, fun d => ?_⟩
    · rw [route_enter, hu.route]
    · rw [calls_enter_of_uncalled c s rfl, hu.calls]
    · rw [wires_enter, hu.absent]
    · rw [ledger_enter, hu.unclassified]
    · rw [wires_enter, hu.untouched]
  | silent hs h => exact hnothing _ hs h rfl
  | unreadable hs h => exact hnothing _ hs h rfl
  | noData hs h => exact hnothing _ hs h rfl
  | dispatched hs hne h =>
    rename_i opening source
    have hu' : Unrouted (s.on (s.wires.fromClient source)) := by
      refine ⟨hu.route, hu.calls, hu.absent, hu.unclassified, fun d => ?_⟩
      cases d with
      | clientToBackend => exact hu.untouched .clientToBackend
      | backendToClient => exact hu.untouched .backendToClient
    rw [firstReading_of_priming hs, h]
    exact routing_dispatch hu' hcalled hne (Source.length_await_le h)
  | exchanged hs' | exchangeEnded hs' | connected hs' | refused hs' | unanswered hs'
  | replayedNothing hs' | replayFault hs' | replayed hs' | relayed hs' | relayEnded hs' =>
    rcases hs with hs | ⟨deadline, hs⟩ <;> rw [hs] at hs' <;> cases hs'

/-! ## 4. On the way to the service -/

theorem Underway.calls_cases (h : Underway c backend s) :
    s.calls = [] ∧ s.wires.backend.hold = .absent ∨ s.calls = [callOf c backend] := by
  cases h with
  | uncalled hb hs hx hc ha => exact Or.inl ⟨hc, ha⟩
  | called hb hs hx hc | dialling hb hs hc | linked hb hs hc => exact Or.inr hc
  | ended hs hc => exact hc

/-- A session on its way has read its first bytes. -/
theorem Underway.not_unread (h : Underway c backend s) :
    s.stage ≠ .admitted ∧ ∀ deadline, s.stage ≠ .priming deadline := by
  cases h with
  | uncalled hb hs | called hb hs | dialling hb hs | ended hs =>
    rw [hs]
    exact ⟨SessionStage.noConfusion, fun _ => SessionStage.noConfusion⟩
  | linked hb hs =>
    rcases hs with ⟨_, hs⟩ | ⟨_, hs⟩ <;> rw [hs] <;>
      exact ⟨SessionStage.noConfusion, fun _ => SessionStage.noConfusion⟩

theorem Underway.of_exchange {x : Exchange} (h : Underway c backend s)
    (hx : s.stage = .exchange x) : backend = .httpLogin ∧
      ((x.isIntake = true ∨ x.isDecided = true) ∧ s.calls = [] ∧ s.wires.backend.hold = .absent ∨
        x.isIntake = false ∧ s.calls = [callOf c backend]) := by
  cases h with
  | uncalled hb hs hi hc ha =>
    rw [hs] at hx
    cases hx
    exact ⟨hb, Or.inl ⟨hi, hc, ha⟩⟩
  | called hb hs hi hc =>
    rw [hs] at hx
    cases hx
    exact ⟨hb, Or.inr ⟨hi, hc⟩⟩
  | dialling hb hs | ended hs =>
    rw [hs] at hx
    cases hx
  | linked hb hs => rcases hs with ⟨_, hs⟩ | ⟨_, hs⟩ <;> rw [hs] at hx <;> cases hx

theorem Underway.of_dialling {backend' : Backend} {opening : Bytes} {deadline : Nat}
    (h : Underway c backend s) (hx : s.stage = .dialling backend' opening deadline) :
    backend' = backend ∧ backend ≠ .httpLogin ∧ s.calls = [callOf c backend] ∧
      s.wires.backend.hold = .absent := by
  cases h with
  | dialling hb hs hc ha =>
    rw [hs] at hx
    cases hx
    exact ⟨rfl, hb, hc, ha⟩
  | uncalled hb hs | called hb hs | ended hs =>
    rw [hs] at hx
    cases hx
  | linked hb hs => rcases hs with ⟨_, hs⟩ | ⟨_, hs⟩ <;> rw [hs] at hx <;> cases hx

theorem Underway.of_linked (h : Underway c backend s)
    (hx : (∃ rest, s.stage = .replaying rest) ∨ ∃ r, s.stage = .relaying r) :
    backend ≠ .httpLogin ∧ s.calls = [callOf c backend] ∧ s.wires.backend.hold ≠ .absent := by
  cases h with
  | linked hb hs hc hh => exact ⟨hb, hc, hh⟩
  | uncalled hb hs | called hb hs | dialling hb hs | ended hs =>
    rcases hx with ⟨_, hx⟩ | ⟨_, hx⟩ <;> rw [hs] at hx <;> cases hx

/-- A session that ends keeps its calls, and no connection is made. -/
theorem underway_finish {how : SessionEnd}
    (hc : s.calls = [] ∧ s.wires.backend.hold = .absent ∨ s.calls = [callOf c backend])
    (hu : how.isUnreached = true → s.wires.backend.hold = .absent) :
    Underway c backend (s.finish how) := by
  have hhold := Duplex.hold_release_eq_absent s.wires.backend
  refine .ended rfl ?_ fun h => hhold.mpr (hu h)
  exact hc.imp (fun h => ⟨h.1, hhold.mpr h.2⟩) fun h => h

/-- A session that is connected to its service goes on with that. -/
theorem underway_link {stage : SessionStage} (hb : backend ≠ .httpLogin)
    (hs : (∃ rest, stage = .replaying rest) ∨ ∃ r, stage = .relaying r)
    (hc : s.calls = [callOf c backend]) (hh : s.wires.backend.hold ≠ .absent) :
    Underway c backend (s.enter c stage) := by
  have hcalled : stage.called = none := by
    rcases hs with ⟨_, rfl⟩ | ⟨_, rfl⟩ <;> rfl
  refine .linked hb ?_ ?_ ?_
  · rw [stage_enter]
    exact hs
  · rw [calls_enter_of_uncalled c s hcalled, hc]
  · rw [wires_enter]
    exact hh

theorem underway_replayed (rest : Bytes) (hb : backend ≠ .httpLogin)
    (hc : s.calls = [callOf c backend]) (hh : s.wires.backend.hold ≠ .absent) :
    Underway c backend (s.replayed c rest) := by
  refine underway_link hb ?_ hc hh
  by_cases hrest : rest.isEmpty = true
  · rw [if_pos hrest]
    exact Or.inr ⟨_, rfl⟩
  · rw [if_neg hrest]
    exact Or.inl ⟨_, rfl⟩

/-- Without a connection none was made. -/
theorem Underway.absent_of_isUnreached {how : SessionEnd} (h : Underway c backend s)
    (hs : s.stage = .ended how) (hu : how.isUnreached = true) :
    s.wires.backend.hold = .absent := by
  cases h with
  | ended hs' hc hu' =>
    rw [hs] at hs'
    cases hs'
    exact hu' hu
  | uncalled hb hs' | called hb hs' | dialling hb hs' =>
    rw [hs] at hs'
    cases hs'
  | linked hb hs' => rcases hs' with ⟨_, hs'⟩ | ⟨_, hs'⟩ <;> rw [hs] at hs' <;> cases hs'

/-- **A session calls the service of its route, once.** -/
theorem Underway.step (h : Underway c backend s) (hstep : Step c now t s s') :
    Underway c backend s' := by
  cases hstep with
  | begins hs => exact absurd hs h.not_unread.1
  | silent hs | unreadable hs | noData hs | dispatched hs => exact absurd hs (h.not_unread.2 _)
  | exchanged hs hne hx =>
    obtain ⟨rfl, ⟨hi, hc, ha⟩ | ⟨hi, hc⟩⟩ := h.of_exchange hs
    · obtain ⟨hi', hhold⟩ := hx.of_uncalled hi
      have hcalled : s.stage.called = none := by
        rw [hs, called_exchange, if_neg]
        cases hx with
        | read | answeredNothing | answerFault | answered | closed | closeFault =>
          exact Bool.false_ne_true
        | connected | refused | unanswered | sentNothing | sendFault | sent | collect =>
          rcases hi with hi | hi <;> cases hi
      exact underway_enter hcalled hc (hhold.mpr ha) hi'
    · obtain ⟨hi', hd⟩ := hx.no_call hi
      refine .called rfl (stage_enter _ _ _) hi' ?_
      rw [calls_enter_of_uncalled]
      · exact hc
      · rw [called_exchange, hd]
        rfl
  | exchangeEnded hs hx =>
    rename_i x result w ledger
    have hno : (SessionEnd.ofExchange result).isUnreached = true → w.backend.hold = .absent := by
      cases result <;> exact fun h => nomatch h
    obtain ⟨rfl, ⟨hi, hc, ha⟩ | ⟨hi, hc⟩⟩ := h.of_exchange hs
    · exact underway_finish (Or.inl ⟨hc, (hx.of_uncalled hi).2.mpr ha⟩) hno
    · exact underway_finish (Or.inr hc) hno
  | connected hs hd =>
    obtain ⟨rfl, hb, hc, -⟩ := h.of_dialling hs
    exact underway_link hb (Or.inl ⟨_, rfl⟩) hc Hold.noConfusion
  | refused hs hd | unanswered hs hd =>
    obtain ⟨rfl, hb, hc, ha⟩ := h.of_dialling hs
    exact underway_finish (Or.inr hc) fun _ => ha
  | replayedNothing hs =>
    obtain ⟨hb, hc, hh⟩ := h.of_linked (Or.inl ⟨_, hs⟩)
    exact underway_replayed _ hb hc hh
  | replayed hs hp =>
    obtain ⟨hb, hc, hh⟩ := h.of_linked (Or.inl ⟨_, hs⟩)
    exact underway_replayed _ hb hc hh
  | replayFault hs hp =>
    obtain ⟨hb, hc, hh⟩ := h.of_linked (Or.inl ⟨_, hs⟩)
    exact underway_finish (Or.inr hc) fun h => nomatch h
  | relayed hs hr hx =>
    obtain ⟨hb, hc, hh⟩ := h.of_linked (Or.inr ⟨_, hs⟩)
    exact underway_link hb (Or.inr ⟨_, rfl⟩) hc (mt hx.hold_eq_absent.mp hh)
  | relayEnded hs hr hx =>
    rename_i result
    obtain ⟨hb, hc, hh⟩ := h.of_linked (Or.inr ⟨_, hs⟩)
    refine underway_finish (Or.inr hc) fun h => ?_
    cases result <;> cases h

/-! ## 5. A poll keeps it -/

/-- A session has no route and has done nothing, or is on the way that its first bytes say. -/
theorem Routing.outcome (h : Routing c first s) :
    first.bind (Route.ofReading c) = none ∧ Unrouted s ∨
      ∃ opening, first = some (.bytes opening) ∧ opening ≠ [] ∧ opening.length ≤ c.sniff ∧
        s.route = some ⟨opening, c.classify opening⟩ ∧
        Underway c (c.classify opening).backend s := by
  cases h with
  | unread hs hf hu =>
    rw [hf]
    exact Or.inl ⟨rfl, hu⟩
  | unrouted hs hf hu => exact Or.inl ⟨hf, hu⟩
  | routed hf hne hle hr hw => exact Or.inr ⟨_, hf, hne, hle, hr, hw⟩

/-- **A session has the route that its first read calls for**, if it has one. -/
theorem Routing.route_eq (h : Routing c first s) : s.route = first.bind (Route.ofReading c) := by
  rcases h.outcome with ⟨hnone, hu⟩ | ⟨opening, hf, hne, -, hroute, -⟩
  · rw [hnone, hu.route]
  · rw [hf, hroute]
    exact (Route.ofReading_bytes c hne).symm

/-- A session that has read its first bytes and not ended is on its way. -/
theorem Routing.underway (h : Routing c first s) (hended : s.isEnded = false)
    (ha : s.stage ≠ .admitted) (hp : ∀ deadline, s.stage ≠ .priming deadline) :
    ∃ opening, s.route = some ⟨opening, c.classify opening⟩ ∧
      Underway c (c.classify opening).backend s := by
  cases h with
  | unread hs =>
    rcases hs with hs | ⟨_, hs⟩
    · exact absurd hs ha
    · exact absurd hs (hp _)
  | unrouted hs =>
    unfold isEnded at hended
    rw [hs] at hended
    cases hended
  | routed hf hne hle hr hw => exact ⟨_, hr, hw⟩

/-- A session that still waits for its first bytes has done nothing. -/
theorem Routing.unrouted_of_priming (h : Routing c first s) {deadline : Nat}
    (hs : s.stage = .priming deadline) : Unrouted s := by
  cases h with
  | unread hs' hf hu => exact hu
  | unrouted hs' => rw [hs] at hs'; cases hs'
  | routed hf hne hle hroute hw => exact absurd hs (hw.not_unread.2 deadline)

/-- An exchange is one with the HTTP service. -/
theorem Routing.of_exchange (h : Routing c first s) {x : Exchange} (hs : s.stage = .exchange x) :
    ∃ opening, s.route = some ⟨opening, c.classify opening⟩ ∧
      (c.classify opening).backend = .httpLogin := by
  have hended : s.isEnded = false := by
    unfold isEnded
    rw [hs]
  obtain ⟨opening, hroute, hw⟩ := h.underway hended (by rw [hs]; exact SessionStage.noConfusion)
    fun _ => by rw [hs]; exact SessionStage.noConfusion
  exact ⟨opening, hroute, (hw.of_exchange hs).1⟩

/-- A session that replays or relays is connected to its service. -/
theorem Routing.connected (h : Routing c first s)
    (hs : (∃ rest, s.stage = .replaying rest) ∨ ∃ r, s.stage = .relaying r) :
    s.wires.backend.hold ≠ .absent := by
  have hstage : s.isEnded = false ∧ s.stage ≠ .admitted ∧
      ∀ deadline, s.stage ≠ .priming deadline := by
    unfold isEnded
    rcases hs with ⟨_, hs⟩ | ⟨_, hs⟩ <;> rw [hs] <;>
      exact ⟨rfl, SessionStage.noConfusion, fun _ => SessionStage.noConfusion⟩
  obtain ⟨hended, hadmitted, hpriming⟩ := hstage
  obtain ⟨opening, -, hw⟩ := h.underway hended hadmitted hpriming
  exact (hw.of_linked hs).2.2

/-- **A poll keeps the route**, and notes the first read. -/
theorem Routing.poll {cancelled : Bool} (h : Routing c first s)
    (hp : s.poll c now cancelled t = some s') :
    Routing c (first.or (if cancelled then none else s.firstReading c now)) s' := by
  obtain ⟨hended, ⟨rfl, rfl⟩ | ⟨rfl, hstep⟩⟩ := poll_cases hp
  · rw [if_pos rfl, Option.or_none]
    cases h with
    | unread hs hf hu =>
      refine .unrouted rfl ?_ ⟨hu.route, hu.calls, ?_, hu.unclassified, fun d => ?_⟩
      · rw [hf]
        rfl
      · exact (Duplex.hold_release_eq_absent _).mpr hu.absent
      · rw [← hu.untouched d]
        cases d <;> rfl
    | unrouted hs hf hu =>
      unfold isEnded at hended
      rw [hs] at hended
      cases hended
    | routed hf hne hle hr hw =>
      exact .routed hf hne hle hr (underway_finish hw.calls_cases fun h => nomatch h)
  · rw [if_neg Bool.false_ne_true]
    cases h with
    | unread hs hf hu =>
      rw [hf, Option.none_or]
      exact routing_step_unread hstep hs hu
    | unrouted hs hf hu =>
      unfold isEnded at hended
      rw [hs] at hended
      cases hended
    | routed hf hne hle hr hw =>
      rw [hf, Option.some_or]
      exact .routed rfl hne hle ((hstep.route_eq hw.not_unread.2).trans hr) (hw.step hstep)

end Session

end TrafficRouter
