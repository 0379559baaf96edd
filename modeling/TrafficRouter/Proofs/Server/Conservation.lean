import TrafficRouter.Proofs.Server.Stillness
import TrafficRouter.Proofs.Session.Tally
import TrafficRouter.Proofs.Session.Volume

/-!
# What the counters say of one another

The counters of a server are the sums of what its sessions have counted, and of each session they
give the account that its first read calls for. What the relays have counted is bounded by what the
connections of the sessions have accepted, summed over those that are relayed.

* `Session.Change.tally`, `Server.tally_run`: the account of every session at every moment;
* `Session.Change.total_connectFailures`: behind a verdict no failure to connect is counted;
* `relayed_le`: the sum over all relays;
* `counters_conserved`: the relations between the counters.

NOT here: what one session counts step by step (`Session.Tally`, `Session.Volume`).
-/

namespace TrafficRouter

/-! ## 1. One session -/

namespace Session

variable {c : ServerSettings} {server : Server} {place : Nat} {label : Label} {s s' : Session}

/-- **Whatever happens to a session**, it has counted what it should by then. -/
theorem Change.tally (h : Change c server place s label s')
    (hs : Tally s.route s.stage s.ledger) : Tally s'.route s'.stage s'.ledger := by
  cases h with
  | nothing | client | backend | leaves => exact hs
  | polls hp =>
    obtain ⟨-, ⟨-, rfl⟩ | ⟨-, hstep⟩⟩ := poll_cases hp
    · exact hs.finish fun _ e => nomatch e
    · exact hs.step hstep

/-- **Behind its verdict a session counts no failure to connect**, whatever happens to it. -/
theorem Change.total_connectFailures (h : Change c server place s label s')
    (hs : s.stage.isDecided = true) (backend : Backend) : s'.stage.isDecided = true ∧
      s'.ledger.total (.connectFailures backend) = s.ledger.total (.connectFailures backend) := by
  cases h with
  | nothing | client | backend | leaves => exact ⟨hs, rfl⟩
  | polls hp =>
    obtain ⟨-, ⟨-, rfl⟩ | ⟨-, hstep⟩⟩ := poll_cases hp
    · exact ⟨rfl, rfl⟩
    · exact hstep.total_connectFailures hs backend

/-- Whether a session goes to a relay: it has a route, which is not for HTTP. -/
def isRelayed (s : Session) : Bool :=
  match s.route with
  | some route => route.protocol != .http
  | none => false

end Session

/-! ## 2. All sessions -/

namespace Server

/-- **Every session has counted what it should**, at every moment of every run. -/
theorem tally_run (c : ServerSettings) (labels : List Label) :
    ∀ session ∈ ((start c).run c labels).sessions,
      Session.Tally session.route session.stage session.ledger :=
  sessions_run (fun _ _ => .unrouted rfl rfl rfl) (fun _ _ _ _ _ hchange h => hchange.tally h)
    labels

/-- **A session that once had a response to forward** never counts that it did not reach its
service. -/
theorem total_of_forwarded (c : ServerSettings) (before after : List Label) {place : Nat}
    {earlier session : Session} {response : Bytes}
    (he : ((start c).run c before).sessions[place]? = some earlier)
    (hv : earlier.stage.verdict? = some (.forwarded response))
    (hn : ((start c).run c (before ++ after)).sessions[place]? = some session) :
    session.ledger.total (.connectFailures .httpLogin) = 0 := by
  have hzero := (tally_run c before earlier (List.mem_of_getElem? he)).total_of_forwarded hv
  obtain ⟨later, hl, -, -, htotal⟩ := session_run
    (P := fun s => s.stage.isDecided = true ∧ s.ledger.total (.connectFailures .httpLogin) = 0)
    (fun _ _ _ _ hchange ⟨hd, ht⟩ => by
      obtain ⟨hd', ht'⟩ := hchange.total_connectFailures hd .httpLogin
      exact ⟨hd', ht'.trans ht⟩)
    he ⟨Session.isDecided_of_verdict hv, hzero⟩ after
  rw [run_append, hl, Option.some.injEq] at hn
  rw [← hn]
  exact htotal

/-- What is at most something each, and nothing outside a part, is at most that in the part. -/
theorem sum_le_of_filter {α : Type} {part : α → Bool} {f g h : α → Nat} {l : List α}
    (hle : ∀ a ∈ l, f a + g a ≤ h a) (hz : ∀ a ∈ l, part a = false → f a = 0) :
    (l.map f).sum + ((l.filter part).map g).sum ≤ ((l.filter part).map h).sum := by
  induction l with
  | nil => exact Nat.le_refl 0
  | cons a l ih =>
    have ih := ih (fun b hb => hle b (List.mem_cons_of_mem _ hb))
      (fun b hb => hz b (List.mem_cons_of_mem _ hb))
    have ha := hle a List.mem_cons_self
    cases hp : part a with
    | true =>
      rw [List.filter_cons_of_pos hp]
      simp only [List.map_cons, List.sum_cons]
      omega
    | false =>
      have hzero := hz a List.mem_cons_self hp
      rw [List.filter_cons_of_neg (by rw [hp]; exact Bool.false_ne_true), List.map_cons,
        List.sum_cons, hzero, Nat.zero_add]
      exact ih

/-- **What relays have counted was accepted**, behind what was accepted of the openings. -/
theorem relayed_le (c : ServerSettings) (labels : List Label) (d : Direction) :
    let s := (start c).run c labels
    let relayed := s.sessions.filter (·.isRelayed)
    s.ledger.total (.relayBytes d) + (relayed.map (·.primed d)).sum ≤
      (relayed.map (·.accepted d)).sum := by
  intro s relayed
  rw [show s.ledger.total (.relayBytes d) = _ from Ledger.total_flatMap _ _ _]
  refine sum_le_of_filter (fun session hmem => ?_) fun session hmem hno => ?_
  · rw [relayBytes_run c labels session hmem d]
    exact (supplied_run c labels session hmem).relayed_le d
  · refine Ledger.total_eq_zero_of_sum (Decidable.byContradiction fun hne => ?_)
    obtain ⟨protocol, hp, hhttp⟩ := (tally_run c labels session hmem).account.relayed hne
    obtain ⟨route, hr, rfl⟩ := Option.map_eq_some_iff.mp hp
    unfold Session.isRelayed at hno
    rw [hr] at hno
    exact hhttp (by simpa using hno)

end Server

/-! ## 3. The relations between the counters -/

/-- **The counters of a server are in proportion.** For all settings, all clients and every order of
what they, the services, the clock and the server do, with shutdown at any point, at every moment:

* there are as many connections counted as sessions, and as ids given to them; every counter is the
  sum over the sessions;
* each session has counted what the protocol of its first bytes calls for (`Ledger.Account`), and
  counts as classified, once, exactly where its first read brought bytes; and one that ever had a
  response to forward never counts that the HTTP service could not be connected to;
* what relays have counted of the way to the services, with what these have accepted of the openings,
  is at most what they have accepted, and what they have counted of the way back is at most what
  their clients have accepted. -/
theorem counters_conserved (c : ServerSettings) (labels : List Label) :
    let o := Observed.run c ⟨.start c, {}⟩ labels
    let ledger := o.server.ledger
    let relayed := o.server.sessions.filter (·.isRelayed)
    (ledger.total .connections = o.server.sessions.length ∧
        o.server.nextId = firstSessionId + o.server.sessions.length ∧
        ∀ counter, ledger.total counter =
          (o.server.sessions.map fun session => session.ledger.total counter).sum) ∧
      (∀ (place : Nat) (session : Session), o.server.sessions[place]? = some session →
        let first := o.traffic.firstRead place
        session.route = first.bind (Route.ofReading c.session) ∧
          session.ledger.Account (session.route.map (·.protocol)) ∧
          (session.ledger.sum .classified = 1 ↔
            ∃ opening, opening ≠ [] ∧ first = some (.bytes opening)) ∧
          (∀ before after, labels = before ++ after → ∀ earlier response,
            ((Server.start c).run c before).sessions[place]? = some earlier →
            earlier.stage.verdict? = some (.forwarded response) →
            session.ledger.total (.connectFailures .httpLogin) = 0) ∧
          ∀ route, session.route = some route → route.protocol ≠ .http →
            session.wires.backend.sink.delivered.take (session.primed .clientToBackend) =
              route.opening.take (session.primed .clientToBackend)) ∧
      ledger.total (.relayBytes .clientToBackend) +
          (relayed.map (·.primed .clientToBackend)).sum ≤
        (relayed.map (·.wires.backend.sink.delivered.length)).sum ∧
      ledger.total (.relayBytes .backendToClient) ≤
        (relayed.map (·.wires.client.sink.delivered.length)).sum := by
  intro o ledger relayed
  have hserver : o.server = (Server.start c).run c labels := Observed.server_run c _ labels
  have hrelayed (d : Direction) : ledger.total (.relayBytes d) + (relayed.map (·.primed d)).sum ≤
      (relayed.map (·.accepted d)).sum := by
    have h := Server.relayed_le c labels d
    rw [← hserver] at h
    exact h
  have haccount (session : Session) (hmem : session ∈ o.server.sessions) :
      session.ledger.Account (session.route.map (·.protocol)) :=
    (Server.tally_run c labels session (hserver ▸ hmem)).account
  refine ⟨⟨?_, ?_, fun counter => Ledger.total_flatMap _ _ _⟩, fun place session hn => ?_,
    hrelayed .clientToBackend, ?_⟩
  · have hone : o.server.sessions.map (fun session => session.ledger.total .connections) =
        o.server.sessions.map fun _ => 1 :=
      List.map_congr_left fun session hmem => (haccount session hmem).connections
    rw [show ledger.total .connections = _ from Ledger.total_flatMap _ _ _, hone, List.map_const',
      List.sum_replicate_nat, Nat.mul_one]
  · have hnext := (Server.slots_run c labels).nextId
    rw [← hserver] at hnext
    exact hnext.trans (congrArg (firstSessionId + ·) (List.length_map _))
  · obtain ⟨-, hkept⟩ := (integrity_run c labels).session place session hn
    have hroute := hkept.routing.route_eq
    have hmem := List.mem_of_getElem? hn
    refine ⟨hroute, haccount session hmem, ?_, fun before after hlabels earlier response he hv => ?_,
      fun route hr hhttp => ?_⟩
    · rw [(haccount session hmem).classified, Option.isSome_map, hroute,
        ← Route.isSome_ofReading (c := c.session)]
      split
      · next h => exact iff_of_true rfl h
      · next h => exact iff_of_false (by decide) h
    · subst hlabels
      rw [hserver] at hn
      exact Server.total_of_forwarded c before after he hv hn
    · exact hkept.transit.take_primed hr hhttp
  · exact Nat.le_trans (Nat.le_add_right _ _) (hrelayed .backendToClient)

/-- A client opens a game session, sends a byte more and closes; another opens a login session, whose
service refuses. -/
def relayedAndRefused : List Label :=
  [.arrive { ip := .v4 10 0 0 1, port := 40000 }, .accept, .accept, .poll 0 ⟨.clientToBackend, none⟩,
    .client 0 (.send [200, 0, 7]), .client 0 (.send [8]), .client 0 .finish,
    .poll 0 ⟨.clientToBackend, none⟩, .poll 0 ⟨.clientToBackend, some .accepted⟩,
    .poll 0 ⟨.clientToBackend, none⟩, .poll 0 ⟨.clientToBackend, none⟩,
    .poll 0 ⟨.clientToBackend, none⟩, .poll 0 ⟨.clientToBackend, none⟩,
    .poll 0 ⟨.clientToBackend, none⟩, .poll 0 ⟨.clientToBackend, none⟩,
    .poll 0 ⟨.clientToBackend, none⟩,
    .arrive { ip := .v4 10 0 0 2, port := 40001 }, .accept, .accept,
    .poll 1 ⟨.clientToBackend, none⟩, .client 1 (.send [9, 0, 1]),
    .poll 1 ⟨.clientToBackend, none⟩, .poll 1 ⟨.clientToBackend, some (.refused .connectionReset)⟩]

/-- Of the four bytes that the game service has accepted, three are the opening, and the one behind
them is counted; the refused session is counted as such and with no bytes. -/
theorem counters_conserved_refused :
    let o := Observed.run (.ofSettings {}) ⟨.start (.ofSettings {}), {}⟩ relayedAndRefused
    let ledger := o.server.ledger
    let relayed := o.server.sessions.filter (·.isRelayed)
    ledger = [(.connections, 1), (.classified .game, 1), (.relayBytes .clientToBackend, 1),
        (.relayBytes .backendToClient, 0), (.connections, 1), (.classified .login, 1),
        (.connectFailures .login, 1)] ∧
      relayed.map (·.primed .clientToBackend) = [3, 0] ∧
      relayed.map (·.wires.backend.sink.delivered.length) = [4, 0] ∧
      ledger.total .connections = o.server.sessions.length ∧
      ledger.total (.relayBytes .clientToBackend) +
          (relayed.map (·.primed .clientToBackend)).sum ≤
        (relayed.map (·.wires.backend.sink.delivered.length)).sum := by
  intro o ledger relayed
  obtain ⟨⟨hconnections, -, -⟩, -, hup, -⟩ := counters_conserved (.ofSettings {}) relayedAndRefused
  exact ⟨by decide +kernel, by decide +kernel, by decide +kernel, hconnections, hup⟩

end TrafficRouter
