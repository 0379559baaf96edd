import TrafficRouter.Proofs.Server.Steps
import TrafficRouter.Proofs.Session.Transit

/-!
# Sessions keep their routes and their bytes

Of every session of a server, at every moment of every run, with any number of clients:

* `Integrity`: the invariant. Each session is routed by its own first read, and carries what its own
  client and the service on its own connection have sent; a client that waits is owed all that it
  has sent;
* `session_integrity`: a session calls one service at most, the one that is set for what its first
  bytes are; the service gets what the client sent, from the first bytes on, and the client what the
  service sent; and without first bytes nothing is called, classified or written.

NOT here: HTTP exchanges, which are answered (`Answer`) by what the service is asked (`Admission`).
-/

namespace TrafficRouter

/-- The service for each protocol, and the address at which it is called. -/
inductive Serves (b : BackendSettings) : Protocol → Backend × String → Prop where
  | http : Serves b .http (.httpLogin, b.http)
  | login : Serves b .login (.login, b.login)
  | game : Serves b .game (.game, b.game)
  | indeterminate : Serves b .indeterminate (.game, b.game)

theorem serves (c : SessionSettings) (protocol : Protocol) :
    Serves c.backends protocol (Session.callOf c protocol.backend) := by
  cases protocol with
  | http => exact .http
  | login => exact .login
  | game => exact .game
  | indeterminate => exact .indeterminate

/-! ## 1. The invariant -/

/-- A session that is routed by its first read and carries what was sent. -/
structure Session.Kept (c : SessionSettings) (t : Traffic) (place : Nat) (s : Session) : Prop where
  routing : Routing c (t.firstRead place) s
  transit : Transit (t.sent place s.client) s

/-- **The invariant of a server and its traffic.** -/
structure Integrity (c : ServerSettings) (o : Observed) : Prop where
  session : ∀ (place : Nat) (session : Session), o.server.sessions[place]? = some session →
    session.client < o.server.arrivals ∧ session.Kept c.session o.traffic place
  queue : ∀ a ∈ o.server.queue, a.client < o.server.arrivals ∧
    a.line.source.unread = o.traffic.client a.client ∧ a.line.sink.delivered = []
  noClient : ∀ number, o.server.arrivals ≤ number → o.traffic.client number = []
  noSession : ∀ place, o.server.sessions.length ≤ place →
    o.traffic.service place = [] ∧ o.traffic.firstRead place = none

/-! ## 2. One session -/

namespace Session

variable {c : ServerSettings} {s : Server} {t : Traffic} {place : Nat} {label : Label}
  {session session' : Session}

/-- A label that is not a turn of a session at most sends something through it. -/
theorem Change.outside (h : Change c s place session label session') :
    (∃ turn, label = .poll place turn ∧
        session.poll c.session s.now s.registry.cancelled turn = some session') ∨
      Outside (label.sends place session.client) session session' ∧
        (label.polls place = false ∨ session.isEnded = true) := by
  cases h with
  | nothing h =>
    obtain ⟨hsends, hpolls⟩ := Label.not_concerns h
    rw [hsends]
    exact Or.inr ⟨outside_refl session, Or.inl hpolls⟩
  | client action => exact Or.inr ⟨outside_clientActs session (if_pos rfl) rfl, Or.inl rfl⟩
  | backend action => exact Or.inr ⟨outside_backendActs session rfl (if_pos rfl), Or.inl rfl⟩
  | leaves turn membership he =>
    rw [Label.sends_poll]
    exact Or.inr ⟨outside_membership session membership, Or.inr he⟩
  | polls hp => exact Or.inl ⟨_, rfl, hp⟩

/-- **A session keeps its route and its bytes.** -/
theorem Kept.change (h : session.Kept c.session t place)
    (hclient : session.client < s.arrivals) (hn : s.sessions[place]? = some session)
    (hc : Change c s place session label session') :
    session'.client = session.client ∧ session'.Kept c.session (t.after c s label) place := by
  have hplace : place < s.sessions.length := (List.getElem?_eq_some_iff.mp hn).1
  have hsent := t.sent_after c label hplace hclient
  have hfirst : s.firstReading c place =
      if s.registry.cancelled then none else session.firstReading c.session s.now := by
    unfold Server.firstReading
    rw [hn]
    rfl
  rcases hc.outside with ⟨turn, rfl, hp⟩ | ⟨ho, hpolls⟩
  · have hpolled : (t.after c s (.poll place turn)).firstRead place =
        (t.firstRead place).or
          (if s.registry.cancelled then none else session.firstReading c.session s.now) := by
      show (t.firstRead place).or (if decide (place = place) then s.firstReading c place else none) = _
      rw [decide_eq_true rfl, if_pos rfl, hfirst]
    have hkept : (t.after c s (.poll place turn)).sent place session.client =
        t.sent place session.client := by
      rw [hsent, Label.sends_poll]
      exact funext fun d => List.append_nil _
    have hclient' : session'.client = session.client := client_poll hp
    refine ⟨hclient', ?_, ?_⟩
    · rw [hpolled]
      exact h.routing.poll hp
    · rw [hclient', hkept]
      exact h.transit.poll h.routing hp
  · have hunread : (if label.polls place then s.firstReading c place else none) = none := by
      rcases hpolls with hpolls | hended
      · rw [hpolls]
        rfl
      · rw [hfirst, firstReading_of_isEnded hended]
        cases label.polls place <;> cases s.registry.cancelled <;> rfl
    refine ⟨ho.client, ?_, ?_⟩
    · show Routing c.session ((t.firstRead place).or _) session'
      rw [hunread, Option.or_none]
      exact h.routing.outside ho
    · rw [ho.client, hsent]
      exact h.transit.outside ho

end Session

/-! ## 3. All sessions -/

/-- The session of a client that is taken. -/
theorem kept_begin {c : SessionSettings} {t : Traffic} {place : Nat} {a : Arrival}
    (id : SessionId) (hunread : a.line.source.unread = t.client a.client)
    (hdelivered : a.line.sink.delivered = []) (hservice : t.service place = [])
    (hfirst : t.firstRead place = none) : (a.session id).Kept c t place := by
  have huntouched (d : Direction) : ((a.session id).wires.sinkOf d).delivered = [] := by
    cases d with
    | clientToBackend => rfl
    | backendToClient => exact hdelivered
  refine ⟨?_, fun route hr => ?_, fun _ => ⟨⟨fun _ => [], fun _ _ => rfl, fun d => ?_⟩,
    fun _ => huntouched⟩⟩
  · rw [hfirst]
    exact .unread (Or.inl rfl) rfl ⟨rfl, rfl, rfl, fun _ => rfl, huntouched⟩
  · cases hr
  · unfold Wires.content
    rw [huntouched]
    cases d with
    | clientToBackend => exact hunread
    | backendToClient => exact hservice.symm

/-- **Every step keeps the invariant.** -/
theorem Integrity.step {c : ServerSettings} (o : Observed) (s : Server) (label : Label)
    (hs : Server.Step c o.server label s) (h : Integrity c o) :
    Integrity c ⟨s, o.traffic.after c o.server label⟩ := by
  obtain ⟨harrivals, hlength⟩ := hs.mono
  refine ⟨fun place session hn => ?_, fun a ha => ?_, fun number hle => ?_, fun place hle => ?_⟩
  · rcases hs.session_cases hn with ⟨old, ho, hc⟩ | ⟨a, rest, rfl, hq, rfl, rfl⟩
    · obtain ⟨hlt, hkept⟩ := h.session place old ho
      obtain ⟨hclient, hkept'⟩ := hkept.change hlt ho hc
      refine ⟨?_, hkept'⟩
      rw [hclient]
      exact Nat.lt_of_lt_of_le hlt harrivals
    · obtain ⟨hlt, hunread, hdelivered⟩ := h.queue a (by rw [hq]; exact List.mem_cons_self)
      obtain ⟨hservice, hfirst⟩ := h.noSession _ (Nat.le_refl _)
      refine ⟨Nat.lt_of_lt_of_le hlt harrivals, kept_begin _ ?_ hdelivered ?_ ?_⟩
      · show a.line.source.unread = if a.client < o.server.arrivals then _ else _
        rw [if_pos hlt, hunread]
        exact (List.append_nil _).symm
      · exact (if_neg (Nat.lt_irrefl _)).trans hservice
      · show (o.traffic.firstRead _).or none = none
        rw [hfirst]
        rfl
  · rcases hs.queue_cases ha with ⟨old, ho, hclient, hunread, hdelivered⟩ | ⟨hmore, hclient, hline⟩
    · obtain ⟨hlt, hunread', hdelivered'⟩ := h.queue old ho
      rw [hclient]
      refine ⟨Nat.lt_of_lt_of_le hlt harrivals, ?_, hdelivered.trans hdelivered'⟩
      show _ = if old.client < o.server.arrivals then _ else _
      rw [if_pos hlt, hunread, hunread']
    · rw [hclient, hline]
      refine ⟨?_, ?_, rfl⟩
      · show o.server.arrivals < s.arrivals
        omega
      · exact ((if_neg (Nat.lt_irrefl _)).trans (h.noClient _ (Nat.le_refl _))).symm
  · have hle' : o.server.arrivals ≤ number := Nat.le_trans harrivals hle
    exact (if_neg (Nat.not_lt_of_le hle')).trans (h.noClient number hle')
  · have hle' : o.server.sessions.length ≤ place := Nat.le_trans hlength hle
    obtain ⟨hservice, hfirst⟩ := h.noSession place hle'
    refine ⟨(if_neg (Nat.not_lt_of_le hle')).trans hservice, ?_⟩
    have hnone : o.server.firstReading c place = none := by
      unfold Server.firstReading
      rw [List.getElem?_eq_none hle']
      rfl
    show (o.traffic.firstRead place).or (if label.polls place then o.server.firstReading c place
      else none) = none
    rw [hfirst, hnone]
    cases label.polls place <;> rfl

/-- **The invariant at every moment.** -/
theorem integrity_run (c : ServerSettings) (labels : List Label) :
    Integrity c (Observed.run c ⟨.start c, {}⟩ labels) := by
  refine Observed.run_induct Integrity.step ⟨fun place session hn => ?_, fun a ha => ?_,
    fun _ _ => rfl, fun _ _ => ⟨rfl, rfl⟩⟩ labels
  · cases hn
  · cases ha

/-! ## 4. What a session has done -/

/-- **Sessions keep their routes and their bytes.** For all settings, all clients and every order of
what they, the services, the clock and the server do, at every moment, every session has called at
most one service, and has a connection to one only behind a call. Where its first read brought bytes
it is routed by what they are, and has called no service but the one that is set for that. Then, if
it is not for the HTTP service, what the service has accepted is what the client sent, from the
first bytes on, and what the client has accepted is what the service sent on this connection, and
neither is anything while there is no connection or where there could be none. Where the first read
has brought no bytes, nothing is called, classified or written. -/
theorem session_integrity (settings : Settings) (labels : List Label) :
    let c := ServerSettings.ofSettings settings
    let o := Observed.run c ⟨.start c, {}⟩ labels
    ∀ (place : Nat) (session : Session), o.server.sessions[place]? = some session →
      let first := o.traffic.firstRead place
      let up := session.wires.backend.sink.delivered
      let down := session.wires.client.sink.delivered
      session.calls.length ≤ 1 ∧
        (session.wires.backend.hold ≠ .absent → session.calls ≠ []) ∧
        (∀ opening, opening ≠ [] → first = some (.bytes opening) →
          let protocol := classify settings.classifier.loginLengthThreshold opening
          session.route = some ⟨opening, protocol⟩ ∧
            opening.length ≤ settings.buffers.sniff ∧
            opening <+: o.traffic.client session.client ∧
            (∀ call ∈ session.calls, Serves settings.backends protocol call) ∧
            (protocol ≠ .http →
              up <+: o.traffic.client session.client ∧ (up <+: opening ∨ opening <+: up) ∧
                down <+: o.traffic.service place ∧
                (session.wires.backend.hold = .absent → up = [] ∧ down = []) ∧
                ∀ how, session.stage = .ended how → how.isUnreached = true →
                  up = [] ∧ down = [])) ∧
        ((∀ opening, opening ≠ [] → first ≠ some (.bytes opening)) →
          session.route = none ∧ session.calls = [] ∧ session.wires.backend.hold = .absent ∧
            (∀ protocol, session.ledger.total (.classified protocol) = 0) ∧
            up = [] ∧ down = []) := by
  intro c o place session hn first up down
  obtain ⟨-, hkept⟩ := (integrity_run c labels).session place session hn
  rcases hkept.routing.outcome with ⟨hnone, hu⟩ | ⟨opening, hf, hne, hle, hroute, hw⟩
  · refine ⟨?_, fun hh => absurd hu.absent hh, fun opening hne hf => ?_, fun _ => ?_⟩
    · rw [hu.calls]
      exact Nat.zero_le _
    · have hsome : first.bind (Route.ofReading c.session) =
          some ⟨opening, c.session.classify opening⟩ := by
        rw [hf]
        exact Route.ofReading_bytes c.session hne
      rw [hnone] at hsome
      cases hsome
    · exact ⟨hu.route, hu.calls, hu.absent, hu.unclassified, hu.untouched .clientToBackend,
        hu.untouched .backendToClient⟩
  · refine ⟨?_, fun hh hc => ?_, fun opening' hne' hf' => ?_, fun hno => absurd hf (hno _ hne)⟩
    · rcases hw.calls_cases with ⟨hc, -⟩ | hc <;> rw [hc]
      · exact Nat.zero_le _
      · exact Nat.le_refl _
    · rcases hw.calls_cases with ⟨-, ha⟩ | hc'
      · exact hh ha
      · rw [hc] at hc'
        cases hc'
    · have heq : opening' = opening := by
        have hf'' : some (Reading.bytes opening') = some (.bytes opening) := hf'.symm.trans hf
        cases hf''
        rfl
      subst heq
      have hopening := hkept.transit.opening _ hroute
      refine ⟨hroute, hle, hopening, fun call hcall => ?_, fun hhttp => ?_⟩
      · rcases hw.calls_cases with ⟨hc, -⟩ | hc <;> rw [hc] at hcall
        · cases hcall
        · rw [List.mem_singleton.mp hcall]
          exact serves c.session _
      · have hcar := hkept.transit.carried fun route hr => by
          rw [hroute, Option.some.injEq] at hr
          rw [← hr]
          exact mt Protocol.backend_eq_httpLogin.mp hhttp
        have hup := hcar.delivered_prefix .clientToBackend
        refine ⟨hup, List.prefix_or_prefix_of_prefix hup hopening,
          hcar.delivered_prefix .backendToClient, fun ha => ?_, fun how hs hunreached => ?_⟩
        · exact ⟨hcar.untouched ha .clientToBackend, hcar.untouched ha .backendToClient⟩
        · have ha := hw.absent_of_isUnreached hs hunreached
          exact ⟨hcar.untouched ha .clientToBackend, hcar.untouched ha .backendToClient⟩

/-- A client that opens a game session, is connected and hears from its service. -/
def gameSession : List Label :=
  [.arrive { ip := .v4 10 0 0 1, port := 40000 }, .accept, .accept, .poll 0 ⟨.clientToBackend, none⟩,
    .client 0 (.send [200, 0, 7]), .client 0 (.send [8]), .poll 0 ⟨.clientToBackend, none⟩,
    .poll 0 ⟨.clientToBackend, some .accepted⟩, .poll 0 ⟨.clientToBackend, none⟩,
    .backend 0 (.send [9]), .poll 0 ⟨.clientToBackend, none⟩, .poll 0 ⟨.clientToBackend, none⟩,
    .poll 0 ⟨.backendToClient, none⟩, .poll 0 ⟨.backendToClient, none⟩]

/-- That client's session gets four bytes to the service and one byte back. -/
theorem session_integrity_game :
    let o := Observed.run (.ofSettings {}) ⟨.start (.ofSettings {}), {}⟩ gameSession
    ∃ session, o.server.sessions[0]? = some session ∧
      session.calls = [(.game, "127.0.0.1:7172")] ∧
      session.wires.backend.sink.delivered = [200, 0, 7, 8] ∧
      [200, 0, 7, 8] <+: o.traffic.client 0 ∧ [9] <+: o.traffic.service 0 := by
  intro o
  have hrun : (o.server.sessions[0]?).map (fun session => (session.client, session.calls,
      session.wires.backend.sink.delivered, session.wires.client.sink.delivered)) =
        some (0, [(.game, "127.0.0.1:7172")], [200, 0, 7, 8], [9]) := by
    decide +kernel
  have hfirst : o.traffic.firstRead 0 = some (.bytes [200, 0, 7]) := by decide +kernel
  obtain ⟨session, hs, hsession⟩ := Option.map_eq_some_iff.mp hrun
  simp only [Prod.mk.injEq] at hsession
  obtain ⟨hclient, hcalls, hup, hdown⟩ := hsession
  obtain ⟨-, -, hrouted, -⟩ := session_integrity {} gameSession 0 session hs
  obtain ⟨-, -, -, -, hbytes⟩ := hrouted [200, 0, 7] (List.cons_ne_nil _ _) hfirst
  obtain ⟨hsent, -, hheard, -⟩ := hbytes (by decide)
  rw [hup, hclient] at hsent
  rw [hdown] at hheard
  exact ⟨session, hs, hcalls, hup, hsent, hheard⟩

end TrafficRouter
