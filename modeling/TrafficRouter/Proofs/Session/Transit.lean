import TrafficRouter.Proofs.Session.Routing

/-!
# What a session carries

Of a session that is not for the HTTP service, the bytes of each direction are always, in order, those
that the receiver has accepted, those that the session has in hand and those not read: the first
bytes go from the read to the opening that is replayed, and from there the relay goes on with what
came behind them.

* `SessionStage.hand`: the bytes in hand at each stage;
* `Carried`: the invariant; a session that has ended keeps what it had in hand;
* `Transit.outside`, `Transit.poll`: the world keeps it, and so does every poll.

NOT here: HTTP exchanges, which answer (`Answer`) and do not relay.
-/

namespace TrafficRouter

/-! ## 1. The invariant -/

/-- The bytes of a direction that are in hand at a stage. -/
def SessionStage.hand : SessionStage → Direction → Bytes
  | .dialling _ opening _, .clientToBackend => opening
  | .replaying rest, .clientToBackend => rest
  | .relaying r, d => (r.pump d).rest
  | .dialling .., .backendToClient | .replaying _, .backendToClient => []
  | .admitted, _ | .priming _, _ | .exchange _, _ | .ended _, _ => []

namespace Session

/-- **The bytes of each direction are those that were sent**, and without a connection to the service
none were passed on. -/
structure Carried (sent : Direction → Bytes) (s : Session) : Prop where
  content : ∃ hand : Direction → Bytes, (s.isEnded = false → ∀ d, hand d = s.stage.hand d) ∧
    ∀ d, s.wires.content (hand d) d = sent d
  untouched : s.wires.backend.hold = .absent → ∀ d, (s.wires.sinkOf d).delivered = []

/-- **The invariant of the bytes.** The first bytes are the first that the client sent, and all of a
session that is not for the HTTP service is carried. -/
structure Transit (sent : Direction → Bytes) (s : Session) : Prop where
  opening : ∀ route, s.route = some route → route.opening <+: sent .clientToBackend
  carried : (∀ route, s.route = some route → route.protocol.backend ≠ .httpLogin) → Carried sent s

variable {c : SessionSettings} {now : Nat} {t : Turn} {first : Option Reading}
  {s s' : Session} {sent more : Direction → Bytes}

/-- What is delivered is what was sent, from the beginning. -/
theorem Carried.delivered_prefix (h : Carried sent s) (d : Direction) :
    (s.wires.sinkOf d).delivered <+: sent d := by
  obtain ⟨hand, -, hc⟩ := h.content
  rw [← hc d]
  exact Wires.delivered_prefix_content _ _ _

/-! ## 2. The world keeps it -/

theorem Carried.outside (h : Carried sent s) (ho : Outside more s s') :
    Carried (fun d => sent d ++ more d) s' := by
  obtain ⟨hand, hhand, hc⟩ := h.content
  refine ⟨⟨hand, ?_, fun d => ?_⟩, fun ha d => ?_⟩
  · unfold isEnded
    rw [ho.stage]
    exact hhand
  · show s'.wires.content (hand d) d = sent d ++ more d
    unfold Wires.content
    rw [ho.delivered, ho.unread, ← List.append_assoc]
    exact congrArg (· ++ more d) (hc d)
  · rw [ho.hold] at ha
    rw [ho.delivered]
    exact h.untouched ha d

/-- **What the world adds is carried with the rest.** -/
theorem Transit.outside (h : Transit sent s) (ho : Outside more s s') :
    Transit (fun d => sent d ++ more d) s' where
  opening route hr := by
    rw [ho.route] at hr
    exact (h.opening route hr).trans (List.prefix_append _ _)
  carried hr := by
    rw [ho.route] at hr
    exact (h.carried hr).outside ho

/-! ## 3. The steps keep it -/

/-- A session that moves bytes from where they are to where they are next. -/
theorem Carried.move (h : Carried sent s) (hended : s.isEnded = false)
    (hand : Direction → Bytes) (hhand : s'.isEnded = false → ∀ d, hand d = s'.stage.hand d)
    (hc : ∀ d, s'.wires.content (hand d) d = s.wires.content (s.stage.hand d) d)
    (hu : s'.wires.backend.hold = .absent → s.wires.backend.hold = .absent ∧
      ∀ d, (s'.wires.sinkOf d).delivered = (s.wires.sinkOf d).delivered) : Carried sent s' := by
  obtain ⟨hand', hhand', hc'⟩ := h.content
  refine ⟨⟨hand, hhand, fun d => ?_⟩, fun ha d => ?_⟩
  · rw [hc d, ← hhand' hended d, hc' d]
  · obtain ⟨ha', hd⟩ := hu ha
    rw [hd, h.untouched ha' d]

/-- A session that ends keeps what it has in hand. -/
theorem Carried.finish (h : Carried sent s) (hended : s.isEnded = false) {how : SessionEnd}
    {wires : Wires} (hs : s'.stage = .ended how) (hw : s'.wires = wires.release)
    (hand : Direction → Bytes)
    (hc : ∀ d, wires.content (hand d) d = s.wires.content (s.stage.hand d) d)
    (hu : wires.backend.hold = .absent → s.wires.backend.hold = .absent ∧
      ∀ d, (wires.sinkOf d).delivered = (s.wires.sinkOf d).delivered) : Carried sent s' := by
  refine h.move hended hand (fun he => ?_) (fun d => ?_) fun ha => ?_
  · unfold isEnded at he
    rw [hs] at he
    cases he
  · rw [← hc d, hw]
    exact Wires.content_congr _ (Wires.sourceOf_release _ d) (Wires.sinkOf_release _ d)
  · rw [hw] at ha ⊢
    obtain ⟨ha', hd⟩ := hu ((Duplex.hold_release_eq_absent _).mp ha)
    exact ⟨ha', fun d => (congrArg Sink.delivered (Wires.sinkOf_release _ d)).trans (hd d)⟩

/-- What the first read takes from the source it takes into the hand. -/
theorem content_first_read {w : Wires} {max deadline : Nat} {reading : Reading} {source : Source}
    (h : w.client.source.await max now deadline = (some reading, source)) {hand : Direction → Bytes}
    (hup : hand .clientToBackend = reading.content) (hdown : hand .backendToClient = [])
    (d : Direction) : (w.fromClient source).content (hand d) d = w.content [] d := by
  cases d with
  | clientToBackend =>
    rw [hup]
    show w.backend.sink.delivered ++ reading.content ++ source.unread =
      w.backend.sink.delivered ++ [] ++ w.client.source.unread
    rw [List.append_assoc, Source.unread_await h, List.append_nil]
  | backendToClient =>
    rw [hdown]
    rfl

/-- **The first read is carried**, and its bytes are the first that the client sent. -/
theorem Transit.first_read (h : Transit sent s) (hu : Unrouted s) {deadline : Nat}
    (hs : s.stage = .priming deadline) {reading : Reading} {source : Source}
    (hread : s.wires.client.source.await c.sniff now deadline = (some reading, source)) :
    (∀ how, Transit sent ((s.on (s.wires.fromClient source)).finish how)) ∧
      ∀ opening, reading = .bytes opening →
        Transit sent ((s.on (s.wires.fromClient source)).dispatch c now opening) := by
  have hended : s.isEnded = false := by
    unfold isEnded
    rw [hs]
  have hcar : Carried sent s := h.carried fun route hroute => by
    rw [hu.route] at hroute
    cases hroute
  let hand := (SessionStage.replaying reading.content).hand
  have hcontent (d : Direction) : (s.wires.fromClient source).content (hand d) d =
      s.wires.content (s.stage.hand d) d := by
    rw [hs]
    exact content_first_read hread rfl rfl d
  refine ⟨fun how => ⟨fun route hroute => ?_, fun _ => ?_⟩, fun opening e => ?_⟩
  · have hnone : s.route = some route := hroute
    rw [hu.route] at hnone
    cases hnone
  · exact hcar.finish hended rfl rfl hand hcontent fun ha => ⟨ha, fun d => by cases d <;> rfl⟩
  · subst e
    have hroute : ((s.on (s.wires.fromClient source)).dispatch c now opening).route =
        some ⟨opening, c.classify opening⟩ := by
      obtain ⟨stage, hd⟩ := dispatch_enters c (s.on (s.wires.fromClient source)) now opening
      rw [hd]
      exact route_enter _ _ _
    refine ⟨fun route hr => ?_, fun hr => ?_⟩
    · -- nothing was delivered before, so all that was sent is the opening and what is behind it
      rw [hroute, Option.some.injEq] at hr
      rw [← hr]
      obtain ⟨hand', hhand', hc⟩ := hcar.content
      have hsent := hc .clientToBackend
      rw [hhand' hended, ← hcontent .clientToBackend] at hsent
      rw [← hsent]
      show opening <+: s.wires.backend.sink.delivered ++ opening ++ source.unread
      rw [show s.wires.backend.sink.delivered = [] from hu.untouched .clientToBackend]
      exact List.prefix_append _ _
    · have hb : (c.classify opening).backend ≠ .httpLogin := hr _ hroute
      rw [dispatch_of_ne_http c _ rfl hb]
      refine hcar.move hended hand (fun _ d => ?_) (fun d => ?_) fun ha => ⟨?_, fun d => ?_⟩
      · rw [stage_enter]
        cases d <;> rfl
      · rw [wires_enter]
        exact hcontent d
      · rw [wires_enter] at ha
        exact ha
      · rw [wires_enter]
        cases d <;> rfl

/-- A step that keeps the route keeps the bytes where it keeps those that are carried. -/
theorem Transit.keep (h : Transit sent s) (hroute : s'.route = s.route)
    (hc : (∀ route, s.route = some route → route.protocol.backend ≠ .httpLogin) → Carried sent s →
      Carried sent s') : Transit sent s' where
  opening := by
    rw [hroute]
    exact h.opening
  carried hr := by
    rw [hroute] at hr
    exact hc hr (h.carried hr)

/-- A connected session that goes on, where the bytes of each direction are kept. -/
theorem Carried.link (h : Carried sent s) (hended : s.isEnded = false) {stage : SessionStage}
    (hh : s'.wires.backend.hold ≠ .absent)
    (hc : ∀ d, s'.wires.content (stage.hand d) d = s.wires.content (s.stage.hand d) d) :
    Carried sent (s'.enter c stage) := by
  refine h.move hended stage.hand (fun _ d => ?_) (fun d => ?_) fun ha => ?_
  · rw [stage_enter]
  · rw [wires_enter]
    exact hc d
  · rw [wires_enter] at ha
    exact absurd ha hh

/-- **Every step keeps the bytes.** -/
theorem Transit.step (h : Transit sent s) (hr : Routing c first s) (hended : s.isEnded = false)
    (hstep : Step c now t s s') : Transit sent s' := by
  -- only an exchange is not carried on, and its route is not one that is carried
  have hexchange {x : Exchange} (hs : s.stage = .exchange x)
      (hno : ∀ route, s.route = some route → route.protocol.backend ≠ .httpLogin) : False := by
    obtain ⟨opening, hroute, hb⟩ := hr.of_exchange hs
    exact hno _ hroute hb
  cases hstep with
  | begins hs =>
    refine h.keep (route_enter _ _ _) fun _ hc => ?_
    refine hc.move hended (fun _ => []) (fun _ d => ?_) (fun d => ?_) fun ha => ⟨?_, fun d => ?_⟩
    · rw [stage_enter]
      rfl
    · rw [wires_enter, hs]
      rfl
    · rw [wires_enter] at ha
      exact ha
    · rw [wires_enter]
  | silent hs hread => exact (h.first_read (hr.unrouted_of_priming hs) hs hread).1 _
  | unreadable hs hread => exact (h.first_read (hr.unrouted_of_priming hs) hs hread).1 _
  | noData hs hread => exact (h.first_read (hr.unrouted_of_priming hs) hs hread).1 _
  | dispatched hs hne hread => exact (h.first_read (hr.unrouted_of_priming hs) hs hread).2 _ rfl
  | exchanged hs => exact h.keep (route_enter _ _ _) fun hno _ => (hexchange hs hno).elim
  | exchangeEnded hs => exact h.keep rfl fun hno _ => (hexchange hs hno).elim
  | connected hs hd =>
    refine h.keep (route_enter _ _ _) fun _ hc => hc.link hended Hold.noConfusion fun d => ?_
    rw [hs]
    cases d <;> rfl
  | refused hs hd | unanswered hs hd =>
    exact h.keep rfl fun _ hc =>
      hc.finish hended rfl rfl s.stage.hand (fun _ => rfl) fun ha => ⟨ha, fun _ => rfl⟩
  | replayedNothing hs =>
    refine h.keep (route_enter _ _ _) fun _ hc =>
      hc.link hended (hr.connected (Or.inl ⟨_, hs⟩)) fun d => ?_
    rw [hs]
    cases d <;> rfl
  | replayFault hs hp =>
    refine h.keep rfl fun _ hc => hc.finish hended rfl rfl s.stage.hand (fun d => ?_) fun ha =>
      absurd ha (hr.connected (Or.inl ⟨_, hs⟩))
    cases d with
    | clientToBackend => exact s.wires.content_push_error (d := .clientToBackend) _ _ hp
    | backendToClient => rfl
  | replayed hs hp =>
    rename_i rest rest' sink
    refine h.keep (route_enter _ _ _) fun _ hc =>
      hc.link hended (hr.connected (Or.inl ⟨_, hs⟩)) fun d => ?_
    have hhand : ∀ d, (if rest'.isEmpty then SessionStage.relaying {} else .replaying rest').hand d =
        if d = .clientToBackend then rest' else [] := fun d => by
      cases rest' <;> cases d <;> rfl
    rw [hhand, hs]
    cases d with
    | clientToBackend => exact s.wires.content_push (d := .clientToBackend) _ hp
    | backendToClient => rfl
  | relayed hs hres hrelay =>
    have hh := mt hrelay.hold_eq_absent.mp (hr.connected (Or.inr ⟨_, hs⟩))
    refine h.keep (route_enter _ _ _) fun _ hc => hc.link hended hh fun d => ?_
    rw [hs]
    exact hrelay.content d
  | relayEnded hs hres hrelay =>
    rename_i r r' w ledger result
    have hh := mt hrelay.hold_eq_absent.mp (hr.connected (Or.inr ⟨_, hs⟩))
    refine h.keep rfl fun _ hc => hc.finish hended rfl rfl (fun d => (r'.pump d).rest) (fun d => ?_)
      fun ha => absurd ha hh
    rw [hs]
    exact hrelay.content d

/-- **A poll keeps the bytes.** -/
theorem Transit.poll {cancelled : Bool} (h : Transit sent s) (hr : Routing c first s)
    (hp : s.poll c now cancelled t = some s') : Transit sent s' := by
  obtain ⟨hended, ⟨-, rfl⟩ | ⟨-, hstep⟩⟩ := poll_cases hp
  · exact h.keep rfl fun _ hc =>
      hc.finish hended rfl rfl s.stage.hand (fun _ => rfl) fun ha => ⟨ha, fun _ => rfl⟩
  · exact h.step hr hended hstep

end Session

end TrafficRouter
