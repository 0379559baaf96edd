import TrafficRouter.Proofs.Gateway.Steps
import TrafficRouter.Proofs.Relay.Steps
import TrafficRouter.Session

/-!
# What a session does

`Session.Step` lists what a step of a session can be, and `Session.Outside` says what the world
leaves alone between two steps: it adds to what has arrived, and that is all.

* `Session.step_cases`, `Session.poll_cases`: every step is one of the list, and a poll is a step or
  the end that the session was told to come to;
* `Session.calls_enter_of_called`: a call is noted where a session begins one, and only there.

NOT here: any property of the sessions.
-/

namespace TrafficRouter

/-! ## 1. Fields -/

namespace Session

variable (c : SessionSettings) (s : Session) (stage : SessionStage)

@[simp] theorem stage_enter : (s.enter c stage).stage = stage := by
  unfold enter
  split <;> rfl

@[simp] theorem wires_enter : (s.enter c stage).wires = s.wires := by
  unfold enter
  split <;> rfl

@[simp] theorem route_enter : (s.enter c stage).route = s.route := by
  unfold enter
  split <;> rfl

@[simp] theorem ledger_enter : (s.enter c stage).ledger = s.ledger := by
  unfold enter
  split <;> rfl

@[simp] theorem client_enter : (s.enter c stage).client = s.client := by
  unfold enter
  split <;> rfl

variable {stage}

/-- **A stage that calls no service notes no call.** -/
theorem calls_enter_of_uncalled (h : stage.called = none) : (s.enter c stage).calls = s.calls := by
  unfold enter
  rw [h]
  cases s.stage.called <;> rfl

/-- **A call is noted once, with the address of its service.** -/
theorem calls_enter_of_called {s : Session} {backend : Backend} (hs : s.stage.called = none)
    (h : stage.called = some backend) :
    (s.enter c stage).calls = s.calls ++ [(backend, c.backends.address backend)] := by
  unfold enter
  rw [hs, h]

/-- The session once it knows what its first bytes are. -/
def classified (opening : Bytes) : Session :=
  { s with route := some ⟨opening, c.classify opening⟩ }.count
    [(.classified (c.classify opening), 1)]

theorem dispatch_http {now : Nat} {opening : Bytes}
    (h : (c.classify opening).backend = .httpLogin) :
    s.dispatch c now opening =
      (s.classified c opening).enter c (.exchange (.start c.gateway now opening)) := by
  unfold dispatch classified
  simp only [h]

theorem dispatch_of_ne_http {now : Nat} {opening : Bytes} {backend : Backend}
    (h : (c.classify opening).backend = backend) (hne : backend ≠ .httpLogin) :
    s.dispatch c now opening =
      (s.classified c opening).enter c (.dialling backend opening (now + c.connect)) := by
  unfold dispatch classified
  cases backend with
  | httpLogin => exact absurd rfl hne
  | login | game => simp only [h]

theorem dispatch_enters (now : Nat) (opening : Bytes) :
    ∃ stage, s.dispatch c now opening = (s.classified c opening).enter c stage := by
  by_cases h : (c.classify opening).backend = .httpLogin
  · exact ⟨_, dispatch_http c s h⟩
  · exact ⟨_, dispatch_of_ne_http c s rfl h⟩

end Session

/-- The HTTP service is for HTTP only. -/
theorem Protocol.backend_eq_httpLogin {protocol : Protocol} :
    protocol.backend = .httpLogin ↔ protocol = .http := by
  cases protocol <;> decide

/-- How a session ends with its exchange. -/
def SessionEnd.ofExchange : Except IoFault Verdict → SessionEnd
  | .ok verdict => .answered verdict
  | .error fault => .failed (.clientWrite fault)

/-- How a session ends with its relay. -/
def SessionEnd.ofRelay : Except RelayError RelayStats → SessionEnd
  | .ok stats => .relayed stats
  | .error error => .failed (.relay error)

/-! ## 2. What a step can be -/

namespace Session

/-- **A step of a session** that has not been told to end. -/
inductive Step (c : SessionSettings) (now : Nat) (t : Turn) (s : Session) : Session → Prop where
  | begins (hs : s.stage = .admitted) : Step c now t s (s.enter c (.priming (now + c.initialRead)))
  | silent {deadline : Nat} {source : Source} (hs : s.stage = .priming deadline)
      (h : s.wires.client.source.await c.sniff now deadline = (some .timedOut, source)) :
      Step c now t s ((s.on (s.wires.fromClient source)).finish .silent)
  | unreadable {deadline : Nat} {fault : IoFault} {source : Source}
      (hs : s.stage = .priming deadline)
      (h : s.wires.client.source.await c.sniff now deadline = (some (.failed fault), source)) :
      Step c now t s
        ((s.on (s.wires.fromClient source)).finish (.failed (.clientRead fault)))
  | noData {deadline : Nat} {source : Source} (hs : s.stage = .priming deadline)
      (h : s.wires.client.source.await c.sniff now deadline = (some (.bytes []), source)) :
      Step c now t s ((s.on (s.wires.fromClient source)).finish .noData)
  | dispatched {deadline : Nat} {opening : Bytes} {source : Source}
      (hs : s.stage = .priming deadline) (hne : opening ≠ [])
      (h : s.wires.client.source.await c.sniff now deadline = (some (.bytes opening), source)) :
      Step c now t s ((s.on (s.wires.fromClient source)).dispatch c now opening)
  | exchanged {x x' : Exchange} {w : Wires} {ledger : Ledger} (hs : s.stage = .exchange x)
      (hx : ∀ result, x' ≠ .ended result)
      (h : Exchange.Step c.gateway now t.dial x s.wires x' w ledger) :
      Step c now t s (((s.on w).count ledger).enter c (.exchange x'))
  | exchangeEnded {x : Exchange} {result : Except IoFault Verdict} {w : Wires} {ledger : Ledger}
      (hs : s.stage = .exchange x)
      (h : Exchange.Step c.gateway now t.dial x s.wires (.ended result) w ledger) :
      Step c now t s (((s.on w).count ledger).finish (.ofExchange result))
  | connected {backend : Backend} {opening : Bytes} {deadline : Nat}
      (hs : s.stage = .dialling backend opening deadline) (hd : t.dial = some .accepted) :
      Step c now t s
        ((s.on { s.wires with backend := { s.wires.backend with hold := .held } }).enter c
          (.replaying opening))
  | refused {backend : Backend} {opening : Bytes} {deadline : Nat} {fault : IoFault}
      (hs : s.stage = .dialling backend opening deadline) (hd : t.dial = some (.refused fault)) :
      Step c now t s ((s.count [(.connectFailures backend, 1)]).finish
        (.failed (.connect backend (c.backends.address backend) fault)))
  | unanswered {backend : Backend} {opening : Bytes} {deadline : Nat}
      (hs : s.stage = .dialling backend opening deadline) (hd : t.dial = none)
      (hle : deadline ≤ now) :
      Step c now t s ((s.count [(.connectFailures backend, 1)]).finish
        (.failed (.connectTimeout backend (c.backends.address backend))))
  | replayedNothing (hs : s.stage = .replaying []) : Step c now t s (s.replayed c [])
  | replayFault {rest : Bytes} {fault : IoFault} {sink : Sink} (hs : s.stage = .replaying rest)
      (h : s.wires.backend.sink.push rest = (some (.error fault), sink)) :
      Step c now t s
        ((s.on (s.wires.toBackend sink)).finish (.failed (.backendWrite fault)))
  | replayed {rest rest' : Bytes} {sink : Sink} (hs : s.stage = .replaying rest)
      (h : s.wires.backend.sink.push rest = (some (.ok rest'), sink)) :
      Step c now t s ((s.on (s.wires.toBackend sink)).replayed c rest')
  | relayed {r r' : Relay} {w : Wires} {ledger : Ledger} (hs : s.stage = .relaying r)
      (hr : r'.result? = none) (h : Relay.Step c.relayChunk t.pump r s.wires r' w ledger) :
      Step c now t s (((s.on w).count ledger).enter c (.relaying r'))
  | relayEnded {r r' : Relay} {w : Wires} {ledger : Ledger} {result : Except RelayError RelayStats}
      (hs : s.stage = .relaying r) (hr : r'.result? = some result)
      (h : Relay.Step c.relayChunk t.pump r s.wires r' w ledger) :
      Step c now t s (((s.on w).count ledger).finish (.ofRelay result))

variable {c : SessionSettings} {now : Nat} {t : Turn} {s s' : Session}

/-- **Every step is one of the list.** -/
theorem step_cases (h : s.step c now t = some s') : Step c now t s s' := by
  unfold step at h
  cases hs : s.stage with
  | admitted =>
    simp only [hs, Option.some.injEq] at h
    exact h ▸ .begins hs
  | priming deadline =>
    simp only [hs] at h
    rcases hr : s.wires.client.source.await c.sniff now deadline with
      ⟨_ | ⟨_ | ⟨b, opening⟩⟩ | fault | _, source⟩
    · simp [hr] at h
    · simp only [hr, Option.some.injEq] at h
      exact h ▸ .noData hs hr
    · simp only [hr, Option.some.injEq] at h
      exact h ▸ .dispatched hs (List.cons_ne_nil b opening) hr
    · simp only [hr, Option.some.injEq] at h
      exact h ▸ .unreadable hs hr
    · simp only [hr, Option.some.injEq] at h
      exact h ▸ .silent hs hr
  | exchange x =>
    simp only [hs] at h
    obtain ⟨⟨x', w, ledger⟩, hx, rfl⟩ := Option.map_eq_some_iff.mp h
    have hstep := Exchange.step_cases hx
    cases x' with
    | ended result =>
      cases result with
      | ok verdict => exact .exchangeEnded hs hstep
      | error fault => exact .exchangeEnded hs hstep
    | intake | dialling | sending | collecting | answering | closing =>
      exact .exchanged hs (fun _ => Exchange.noConfusion) hstep
  | dialling backend opening deadline =>
    simp only [hs] at h
    rcases hd : t.dial with _ | _ | fault
    · simp only [hd] at h
      split at h
      · next hle =>
        rw [Option.some.injEq] at h
        exact h ▸ .unanswered hs hd hle
      · cases h
    · simp only [hd, Option.some.injEq] at h
      exact h ▸ .connected hs hd
    · simp only [hd, Option.some.injEq] at h
      exact h ▸ .refused hs hd
  | replaying rest =>
    cases rest with
    | nil =>
      simp only [hs, Option.some.injEq] at h
      exact h ▸ .replayedNothing hs
    | cons b rest =>
      simp only [hs] at h
      rcases hp : s.wires.backend.sink.push (b :: rest) with ⟨_ | fault | rest', sink⟩
      · simp [hp] at h
      · simp only [hp, Option.some.injEq] at h
        exact h ▸ .replayFault hs hp
      · simp only [hp, Option.some.injEq] at h
        exact h ▸ .replayed hs hp
  | relaying r =>
    simp only [hs] at h
    obtain ⟨⟨r', w, ledger⟩, hr, rfl⟩ := Option.map_eq_some_iff.mp h
    have hstep := Relay.step_cases hr
    show Step c now t s (((s.on w).count ledger).relayed c r')
    unfold Session.relayed
    rcases hres : r'.result? with _ | error | stats
    · exact .relayed hs hres hstep
    · exact .relayEnded hs hres hstep
    · exact .relayEnded hs hres hstep
  | ended how => simp [hs] at h

/-- A session stays its client's. -/
theorem Step.client_eq (h : Step c now t s s') : s'.client = s.client := by
  cases h with
  | begins | exchanged | connected | replayedNothing | replayed | relayed =>
    exact client_enter _ _ _
  | dispatched =>
    obtain ⟨stage, h⟩ := dispatch_enters c _ now _
    rw [h]
    exact client_enter _ _ _
  | silent | unreadable | noData | exchangeEnded | refused | unanswered | replayFault
  | relayEnded => rfl

/-- **A poll is a step, or the end that the session was told to come to.** -/
theorem poll_cases {cancelled : Bool} (h : s.poll c now cancelled t = some s') :
    s.isEnded = false ∧ (cancelled = true ∧ s' = s.finish .cancelled ∨
      cancelled = false ∧ Step c now t s s') := by
  unfold poll at h
  cases hended : s.isEnded with
  | true => simp [hended] at h
  | false =>
    rw [hended, if_neg Bool.false_ne_true] at h
    cases cancelled with
    | true =>
      rw [if_pos rfl, Option.some.injEq] at h
      exact ⟨rfl, Or.inl ⟨rfl, h.symm⟩⟩
    | false =>
      rw [if_neg Bool.false_ne_true] at h
      exact ⟨rfl, Or.inr ⟨rfl, step_cases h⟩⟩

/-- **A poll of a session that has not been told to end is a step of it.** -/
theorem poll_running (c : SessionSettings) (now : Nat) (t : Turn) (s : Session) :
    s.poll c now false t = s.step c now t := by
  unfold poll
  rw [if_neg Bool.false_ne_true]
  split
  · next hended =>
    unfold isEnded at hended
    split at hended
    · next how hs => simp only [step, hs]
    · cases hended
  · rfl

/-- Only the first read gives a route. -/
theorem Step.route_eq (h : Step c now t s s') (hs : ∀ deadline, s.stage ≠ .priming deadline) :
    s'.route = s.route := by
  cases h with
  | silent hs' | unreadable hs' | noData hs' | dispatched hs' => exact absurd hs' (hs _)
  | begins | exchanged | connected | replayedNothing | replayed | relayed =>
    exact route_enter _ _ _
  | exchangeEnded | refused | unanswered | replayFault | relayEnded => rfl

theorem not_isEnded_enter (s : Session) {stage : SessionStage} (h : ∀ how, stage ≠ .ended how) :
    (s.enter c stage).isEnded = false := by
  unfold isEnded
  rw [stage_enter]
  cases stage with
  | ended how => exact absurd rfl (h how)
  | admitted | priming | exchange | dialling | replaying | relaying => rfl

/-- **A step that ends a session lets go of its connections.** -/
theorem Step.finishes (h : Step c now t s s') (he : s'.isEnded = true) :
    ∃ before how, s' = finish before how := by
  -- all other steps enter a stage that is no end
  have henter {before : Session} {stage : SessionStage} (hs : ∀ how, stage ≠ .ended how)
      (he : (before.enter c stage).isEnded = true) :
      ∃ before' how, before.enter c stage = finish before' how := by
    rw [not_isEnded_enter before hs] at he
    cases he
  cases h with
  | begins | exchanged | connected | relayed => exact henter (fun _ => SessionStage.noConfusion) he
  | replayedNothing | replayed =>
    refine henter (fun how => ?_) he
    split <;> exact SessionStage.noConfusion
  | dispatched =>
    rename_i deadline opening source hs hne h
    by_cases hb : (c.classify opening).backend = .httpLogin
    · rw [dispatch_http c _ hb] at he ⊢
      exact henter (fun _ => SessionStage.noConfusion) he
    · rw [dispatch_of_ne_http c _ rfl hb] at he ⊢
      exact henter (fun _ => SessionStage.noConfusion) he
  | silent | unreadable | noData | exchangeEnded | refused | unanswered | replayFault
  | relayEnded => exact ⟨_, _, rfl⟩

theorem client_poll {cancelled : Bool} (h : s.poll c now cancelled t = some s') :
    s'.client = s.client := by
  obtain ⟨-, ⟨-, rfl⟩ | ⟨-, hstep⟩⟩ := poll_cases h
  · rfl
  · exact hstep.client_eq

/-! ## 3. What the world leaves alone -/

/-- **What happens to a session between two steps**: more bytes arrive on each way through, and what
the session is, has done and has written stays. -/
structure Outside (more : Direction → Bytes) (s s' : Session) : Prop where
  client : s'.client = s.client
  stage : s'.stage = s.stage
  route : s'.route = s.route
  calls : s'.calls = s.calls
  ledger : s'.ledger = s.ledger
  hold : s'.wires.backend.hold = s.wires.backend.hold
  delivered : ∀ d, (s'.wires.sinkOf d).delivered = (s.wires.sinkOf d).delivered
  unread : ∀ d, (s'.wires.sourceOf d).unread = (s.wires.sourceOf d).unread ++ more d

/-- A client sends on the way to the service. -/
theorem outside_clientActs (s : Session) {action : PeerAction} {more : Direction → Bytes}
    (hup : more .clientToBackend = action.sent) (hdown : more .backendToClient = []) :
    Outside more s (s.on (s.wires.clientActs action)) := by
  refine ⟨rfl, rfl, rfl, rfl, rfl, rfl, fun d => ?_, fun d => ?_⟩
  · cases d with
    | clientToBackend => rfl
    | backendToClient => exact Duplex.delivered_act _ action
  · cases d with
    | clientToBackend => rw [hup]; exact Duplex.unread_act _ action
    | backendToClient => rw [hdown]; exact (List.append_nil _).symm

/-- A service sends on the way to the client. -/
theorem outside_backendActs (s : Session) {action : PeerAction} {more : Direction → Bytes}
    (hup : more .clientToBackend = []) (hdown : more .backendToClient = action.sent) :
    Outside more s (s.on (s.wires.backendActs action)) := by
  refine ⟨rfl, rfl, rfl, rfl, rfl, Duplex.hold_act _ action, fun d => ?_, fun d => ?_⟩
  · cases d with
    | clientToBackend => exact Duplex.delivered_act _ action
    | backendToClient => rfl
  · cases d with
    | clientToBackend => rw [hup]; exact (List.append_nil _).symm
    | backendToClient => rw [hdown]; exact Duplex.unread_act _ action

/-- What a session holds besides its connections changes nothing else. -/
theorem outside_membership (s : Session) (membership : Membership) :
    Outside (fun _ => []) s { s with membership } :=
  ⟨rfl, rfl, rfl, rfl, rfl, rfl, fun _ => rfl, fun _ => (List.append_nil _).symm⟩

theorem outside_refl (s : Session) : Outside (fun _ => []) s s :=
  ⟨rfl, rfl, rfl, rfl, rfl, rfl, fun _ => rfl, fun _ => (List.append_nil _).symm⟩

/-- What a step would be the first to read. -/
def firstReading (c : SessionSettings) (now : Nat) (s : Session) : Option Reading :=
  match s.stage with
  | .priming deadline => (s.wires.client.source.await c.sniff now deadline).1
  | _ => none

theorem firstReading_of_priming {deadline : Nat} (h : s.stage = .priming deadline) :
    s.firstReading c now = (s.wires.client.source.await c.sniff now deadline).1 := by
  unfold firstReading
  rw [h]

theorem firstReading_of_isEnded (h : s.isEnded = true) : s.firstReading c now = none := by
  unfold firstReading
  unfold isEnded at h
  cases hs : s.stage with
  | priming deadline =>
    rw [hs] at h
    cases h
  | admitted | exchange | dialling | replaying | relaying | ended => rfl

end Session

end TrafficRouter
