import TrafficRouter.Proofs.Routing
import TrafficRouter.Proofs.Settings
import TrafficRouter.Proofs.Server.Stillness

/-!
# How much of a request is recognised

The first read of a session returns no more than the bytes that it is allowed, and what it returns is
all that is classified. So a request is one for the HTTP service exactly where its method token fits
into that read, the space behind the method included.

* `Session.Exchanging`: a session that is handled as a request, and stays so;
* `request_recognised`: what becomes of a client whose first bytes begin with a method token, by the
  size of the first read, with settings that were validated. Eight bytes are enough for all methods.
  The two that validation asks for are enough for none.

NOT here: what a request is answered.
-/

namespace TrafficRouter

/-! ## 1. Sessions that are requests -/

namespace Session

/-- **A session that is handled as a request**: it has its exchange, or that has ended, or the session
was told to end. -/
inductive Exchanging (s : Session) : Prop where
  | going {x : Exchange} (hs : s.stage = .exchange x)
  | ended {result : Except IoFault Verdict} (hs : s.stage = .ended (.ofExchange result))
  | cancelled (hs : s.stage = .ended .cancelled)

variable {c : ServerSettings} {server : Server} {place : Nat} {label : Label}
  {more : Direction → Bytes} {s s' : Session}

theorem Exchanging.outside (h : Exchanging s) (ho : Outside more s s') : Exchanging s' := by
  cases h with
  | going hs => exact .going (ho.stage.trans hs)
  | ended hs => exact .ended (ho.stage.trans hs)
  | cancelled hs => exact .cancelled (ho.stage.trans hs)

/-- **A request stays one**, whatever a label changes of its session. -/
theorem Exchanging.change (h : Exchanging s) (hc : Change c server place s label s') :
    Exchanging s' := by
  rcases hc.outside with ⟨turn, rfl, hp⟩ | ⟨ho, -⟩
  · obtain ⟨hended, ⟨-, rfl⟩ | ⟨-, hstep⟩⟩ := poll_cases hp
    · exact .cancelled rfl
    · obtain ⟨x, hx⟩ : ∃ x, s.stage = .exchange x := by
        unfold isEnded at hended
        cases h with
        | going hs => exact ⟨_, hs⟩
        | ended hs | cancelled hs => rw [hs] at hended; cases hended
      cases hstep with
      | exchanged => exact .going (stage_enter _ _ _)
      | exchangeEnded => exact .ended rfl
      | begins hs | silent hs | unreadable hs | noData hs | dispatched hs | connected hs
      | refused hs | unanswered hs | replayedNothing hs | replayFault hs | replayed hs | relayed hs
      | relayEnded hs => rw [hx] at hs; cases hs
  · exact h.outside ho

/-- A session whose first bytes are known keeps its route, whatever a label changes of it. -/
theorem Routing.change {opening : Bytes} (h : Routing c.session (some (.bytes opening)) s)
    (hc : Change c server place s label s') : Routing c.session (some (.bytes opening)) s' := by
  rcases hc.outside with ⟨turn, rfl, hp⟩ | ⟨ho, -⟩
  · exact h.poll hp
  · exact h.outside ho

/-- **A session whose first bytes are known** has their route, calls the service of their protocol and
no other, and has an exchange only where that is the HTTP one. -/
theorem Routing.of_opening {opening : Bytes} {c : SessionSettings}
    (h : Routing c (some (.bytes opening)) s) (hne : opening ≠ []) :
    s.route = some ⟨opening, c.classify opening⟩ ∧
      (∀ call ∈ s.calls, Serves c.backends (c.classify opening) call) ∧
      ∀ x, s.stage = .exchange x → (c.classify opening).backend = .httpLogin := by
  rcases h.outcome with ⟨hnone, -⟩ | ⟨opening', hfirst, -, -, hroute, hunderway⟩
  · rw [Option.bind_some, Route.ofReading_bytes c hne] at hnone
    cases hnone
  · obtain rfl : opening = opening' := by
      simpa using hfirst
    refine ⟨hroute, fun call hcall => ?_, fun x hx => (hunderway.of_exchange hx).1⟩
    rcases hunderway.calls_cases with ⟨hcalls, -⟩ | hcalls <;> rw [hcalls] at hcall
    · cases hcall
    · rw [List.mem_singleton.mp hcall]
      exact serves c _

/-- A session that finds bytes takes as many as it may, and they decide. -/
theorem poll_of_pieces (c : SessionSettings) (now : Nat) (t : Turn) {deadline : Nat} {piece : Bytes}
    {pieces : List Bytes} (hs : s.stage = .priming deadline)
    (hp : s.wires.client.source.pieces = piece :: pieces) (hne : piece.take c.sniff ≠ []) :
    ∃ source, s.wires.client.source.await c.sniff now deadline =
        (some (.bytes (piece.take c.sniff)), source) ∧
      s.poll c now false t =
        some ((s.on (s.wires.fromClient source)).dispatch c now (piece.take c.sniff)) := by
  obtain ⟨source, hread⟩ : ∃ source, s.wires.client.source.read c.sniff =
      (some (.bytes (piece.take c.sniff)), source) := by
    unfold Source.read
    rw [hp]
    exact ⟨_, rfl⟩
  have hawait : s.wires.client.source.await c.sniff now deadline =
      (some (.bytes (piece.take c.sniff)), source) := Source.await_of_read hread
  refine ⟨source, hawait, ?_⟩
  obtain ⟨b, opening, hopening⟩ := List.exists_cons_of_ne_nil hne
  have hended : s.isEnded = false := by
    unfold isEnded
    rw [hs]
  unfold poll step
  simp only [hended, hs, hawait, hopening, Bool.false_eq_true, if_false]

/-- **The turn at which a session finds its first bytes**: it is routed by them, and is a request where
they say so. -/
theorem routed_of_pieces (c : SessionSettings) (now : Nat) (t : Turn) {deadline : Nat}
    {piece : Bytes} {pieces : List Bytes} (hs : s.stage = .priming deadline) (hunrouted : s.Unrouted)
    (hp : s.wires.client.source.pieces = piece :: pieces) (hne : piece.take c.sniff ≠ []) :
    ∃ s', s.poll c now false t = some s' ∧ s'.client = s.client ∧
      s'.Routing c (some (.bytes (piece.take c.sniff))) ∧
      (c.classify (piece.take c.sniff) = .http → s'.Exchanging) := by
  obtain ⟨source, hawait, hpoll⟩ := poll_of_pieces c now t hs hp hne
  have hstep := (poll_cases hpoll).2.resolve_left fun h => Bool.false_ne_true h.1
  have hfirst : s.firstReading c now = some (.bytes (piece.take c.sniff)) := by
    rw [firstReading_of_priming hs, hawait]
  have hrouting := routing_step_unread hstep.2 (Or.inr ⟨deadline, hs⟩) hunrouted
  rw [hfirst] at hrouting
  refine ⟨_, hpoll, hstep.2.client_eq, hrouting, fun hhttp => ?_⟩
  rw [dispatch_http c _ (congrArg Protocol.backend hhttp)]
  exact .going (stage_enter _ _ _)

end Session

/-! ## 2. Clients that begin with a method -/

/-- **Which requests are recognised.** For all settings that pass validation, and a client whose bytes
that are there when its session first reads begin with a method token, the session is routed by as
many of them as the read may return. Where these hold the token, the session is a request from then
on, and calls no service but the HTTP one; eight bytes hold every token. Where they do not, the
session is never a request, but goes to the login or to the game service, by what the first two
letters are as a number. -/
theorem request_recognised (settings : Settings) (hvalid : settings.validate = .ok settings)
    (before after : List Label) (place deadline : Nat) (turn : Turn) (session : Session)
    (token rest : Bytes) (pieces : List Bytes) (htoken : token ∈ methodTokens) :
    let c := ServerSettings.ofSettings settings
    let s := (Server.start c).run c before
    let sniff := settings.buffers.sniff
    let threshold := settings.classifier.loginLengthThreshold
    s.registry.cancelled = false → s.sessions[place]? = some session →
    session.stage = .priming deadline →
    session.wires.client.source.pieces = (token ++ rest) :: pieces →
    ∃ session' protocol,
      (s.run c (.poll place turn :: after)).sessions[place]? = some session' ∧
        session'.client = session.client ∧
        session'.route = some ⟨(token ++ rest).take sniff, protocol⟩ ∧
        (∀ call ∈ session'.calls, Serves settings.backends protocol call) ∧
        (token.length ≤ sniff → protocol = .http ∧ session'.Exchanging) ∧
        (8 ≤ sniff → protocol = .http) ∧
        (sniff < token.length → (∀ x, session'.stage ≠ .exchange x) ∧
          ∃ length, lengthHeader token = some length ∧
            protocol = if length < threshold then .login else .game) := by
  intro c s sniff threshold hcancelled hn hstage hpieces
  let opening := (token ++ rest).take sniff
  let protocol := classify threshold opening
  have hsniff : 2 ≤ sniff := settings.two_le_sniff hvalid
  obtain ⟨hwhole, hcut⟩ := classify_take htoken rest hsniff threshold
  have hne : opening ≠ [] := take_ne_nil htoken rest hsniff
  -- the turn at which the first bytes are read
  have hunrouted : session.Unrouted := by
    have hserver : (Observed.run c ⟨.start c, {}⟩ before).server = s := Observed.server_run _ _ _
    exact ((integrity_run c before).session place session
      (hserver ▸ hn)).2.routing.unrouted_of_priming hstage
  obtain ⟨first, hpoll, hfirst, hrouting, hhttp⟩ :=
    Session.routed_of_pieces c.session s.now turn hstage hunrouted hpieces hne
  -- and what is so at every later moment
  have hchange : ∀ (s : Server) (u u' : Session) (label : Label),
      Session.Change c s place u label u' →
      u.Routing c.session (some (.bytes opening)) ∧ (protocol = .http → u.Exchanging) →
      u'.Routing c.session (some (.bytes opening)) ∧ (protocol = .http → u'.Exchanging) :=
    fun _ _ _ _ hc h => ⟨h.1.change hc, fun hp => (h.2 hp).change hc⟩
  rw [← hcancelled] at hpoll
  obtain ⟨s', hs', hnext⟩ := Server.step_of_poll hn hpoll
  rw [Server.run_cons, hs', Option.getD_some]
  obtain ⟨session', hn', hclient, hrouting', hexchanging⟩ :=
    Server.session_run (P := fun u => u.Routing c.session (some (.bytes opening)) ∧
      (protocol = .http → u.Exchanging)) hchange hnext ⟨hrouting, hhttp⟩ after
  obtain ⟨hroute, hcalls, hexchange⟩ := hrouting'.of_opening hne
  refine ⟨session', protocol, hn', hclient.trans hfirst, hroute, hcalls,
    fun hle => ⟨hwhole hle, hexchanging (hwhole hle)⟩,
    fun hle => hwhole (Nat.le_trans (token_length htoken).2 hle), fun hlt => ⟨fun x hx => ?_, hcut hlt⟩⟩
  obtain ⟨length, -, hprotocol⟩ := hcut hlt
  have hbackend := hexchange x hx
  rw [show c.session.classify opening = _ from hprotocol] at hbackend
  split at hbackend <;> cases hbackend

/-- A client that is taken and whose session is about to read its first bytes. -/
def firstBytes (bytes : Bytes) : List Label :=
  [.arrive { ip := .v4 10 0 0 1, port := 40000 }, .accept, .accept,
    .poll 0 ⟨.clientToBackend, none⟩, .client 0 (.send bytes)]

/-- The longest method is recognised by its eight bytes. -/
theorem request_recognised_options :
    let settings : Settings := { buffers := { sniff := 8 } }
    let c := ServerSettings.ofSettings settings
    let token := ascii ['O', 'P', 'T', 'I', 'O', 'N', 'S', ' ']
    let s := (Server.start c).run c (firstBytes (token ++ ascii ['*', ' ', 'H']))
    settings.validate = .ok settings ∧ ∃ session',
      (s.run c [.poll 0 ⟨.clientToBackend, none⟩]).sessions[0]? = some session' ∧
        session'.route = some ⟨token, .http⟩ ∧ session'.Exchanging := by
  intro settings c token s
  have hvalid : settings.validate = .ok settings := by
    unfold Settings.validate
    rw [if_pos (by decide +kernel)]
  obtain ⟨session, hn, hstage, hpieces⟩ : ∃ session, s.sessions[0]? = some session ∧
      session.stage = .priming 5000 ∧
      session.wires.client.source.pieces = [token ++ ascii ['*', ' ', 'H']] :=
    ⟨_, rfl, rfl, rfl⟩
  obtain ⟨session', protocol, hn', -, hroute, -, hfits, -⟩ :=
    request_recognised settings hvalid (firstBytes (token ++ ascii ['*', ' ', 'H'])) [] 0 5000
      ⟨.clientToBackend, none⟩ session token (ascii ['*', ' ', 'H']) [] (by decide) rfl hn hstage
      hpieces
  obtain ⟨rfl, hexchanging⟩ := hfits (by decide)
  exact ⟨hvalid, session', hn', hroute, hexchanging⟩

/-- **The two bytes that validation asks for are not enough**: a request for the HTTP service is taken
to the game service. -/
theorem request_missed_get :
    let settings : Settings := { buffers := { sniff := 2 } }
    let c := ServerSettings.ofSettings settings
    let token := ascii ['G', 'E', 'T', ' ']
    let s := (Server.start c).run c (firstBytes (token ++ ascii ['/', ' ', 'H']))
    settings.validate = .ok settings ∧ token ∈ methodTokens ∧ s.registry.cancelled = false ∧
      (∃ session, s.sessions[0]? = some session ∧ session.stage = .priming 5000 ∧
        session.wires.client.source.pieces = [token ++ ascii ['/', ' ', 'H']]) ∧
      ∃ session', (s.run c [.poll 0 ⟨.clientToBackend, none⟩,
          .poll 0 ⟨.clientToBackend, some .accepted⟩, .poll 0 ⟨.clientToBackend, none⟩]).sessions[0]? =
          some session' ∧
        session'.route = some ⟨ascii ['G', 'E'], .game⟩ ∧
        session'.calls = [(.game, "127.0.0.1:7172")] ∧
        session'.wires.backend.sink.delivered = ascii ['G', 'E'] := by
  intro settings c token s
  have hvalid : settings.validate = .ok settings := by
    unfold Settings.validate
    rw [if_pos (by decide +kernel)]
  have hrun : ((s.run c [.poll 0 ⟨.clientToBackend, none⟩,
      .poll 0 ⟨.clientToBackend, some .accepted⟩, .poll 0 ⟨.clientToBackend, none⟩]).sessions[0]?).map
        (fun session => (session.route, session.calls, session.wires.backend.sink.delivered)) =
      some (some ⟨ascii ['G', 'E'], .game⟩, [(.game, "127.0.0.1:7172")], ascii ['G', 'E']) := by
    decide +kernel
  obtain ⟨session', hn', hsession⟩ := Option.map_eq_some_iff.mp hrun
  simp only [Prod.mk.injEq] at hsession
  exact ⟨hvalid, by decide, rfl, ⟨_, rfl, rfl, rfl⟩, session', hn', hsession⟩

end TrafficRouter
