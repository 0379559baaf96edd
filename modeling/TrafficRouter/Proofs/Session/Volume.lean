import TrafficRouter.Proofs.Relay.Content
import TrafficRouter.Proofs.Server.Accounts
import TrafficRouter.Proofs.Server.Integrity

/-!
# How many bytes a session counts

A relay counts a chunk once it is written in full, so what a session counts of a direction has been
accepted there; and on the way to the service the opening was accepted before, which is not counted.

* `Pump.Backed`: what a pump has moved was accepted, behind what was accepted before it began;
* `SessionStage.Supplied`: the invariant, by how far the session is; `Server.supplied_run`: it holds
  of every session at every moment of every run;
* `Session.Supplied.relayed_le`: so what a session says of its relay was accepted, and was so behind
  what its service has of the opening.

NOT here: which bytes these are (`Transit`).
-/

namespace TrafficRouter

/-! ## 1. Pumps -/

/-- **What a pump has moved was accepted**, behind `before` bytes that were accepted first; and so
was what of the chunk in hand is not still to be written. -/
structure Pump.Backed (before accepted : Nat) (p : Pump) : Prop where
  moved : before + p.moved ≤ accepted
  chunk : p.stage ≠ .reading → before + p.moved + p.chunk ≤ accepted + p.rest.length

variable {chunkSize : Nat} {d turn : Direction} {p p' : Pump} {w w' : Wires} {before : Nat}

/-- A pump that has moved nothing. -/
theorem Pump.backed_fresh {accepted : Nat} (h : before ≤ accepted) :
    Backed before accepted {} :=
  ⟨h, fun hs => absurd rfl hs⟩

/-- **A turn counts nothing that was not accepted.** -/
theorem Pump.Turn.backed (h : Pump.Turn chunkSize d p w (.goesOn p' w'))
    (hb : p.Backed before (w.sinkOf d).delivered.length) :
    p'.Backed before (w'.sinkOf d).delivered.length := by
  obtain ⟨hmoved, hchunk⟩ := hb
  -- what a write takes out of the hand it gives the sink
  have hwrite {rest rest' : Bytes} {sink : Sink} (hp : p.stage = .writing rest)
      (hpush : (w.sinkOf d).push rest = (some (.ok rest'), sink)) :
      before + p.moved ≤ sink.delivered.length ∧
        before + p.moved + p.chunk ≤ sink.delivered.length + rest'.length := by
    obtain ⟨accepted, hd, hrest, -⟩ := Sink.delivered_push hpush
    have hle := hchunk (by rw [hp]; exact PumpStage.noConfusion)
    rw [Pump.rest_of_writing hp, ← hrest, List.length_append] at hle
    rw [hd, List.length_append]
    omega
  cases h with
  | reads hp hne hr =>
    rw [Wires.sinkOf_setSource]
    exact ⟨hmoved, fun _ => Nat.add_le_add_right hmoved _⟩
  | written hp hpush =>
    rw [Wires.sinkOf_setSink_self]
    exact ⟨(hwrite hp hpush).1, fun _ => (hwrite hp hpush).2⟩
  | writes hp hne hpush =>
    rw [Wires.sinkOf_setSink_self]
    exact ⟨(hwrite hp hpush).1, fun _ => (hwrite hp hpush).2⟩
  | flushed hp hf =>
    have hle := hchunk (by rw [hp]; exact PumpStage.noConfusion)
    rw [Pump.rest_of_flushing hp, Nat.add_assoc] at hle
    exact ⟨hle, fun hs => absurd rfl hs⟩

/-- **A step of a relay counts nothing that was not accepted.** -/
theorem Relay.Step.backed {r r' : Relay} {ledger : Ledger} {before : Direction → Nat}
    (h : Relay.Step chunkSize turn r w r' w' ledger)
    (hb : ∀ d, (r.pump d).Backed (before d) (w.sinkOf d).delivered.length) (d : Direction) :
    (r'.pump d).Backed (before d) (w'.sinkOf d).delivered.length := by
  rcases h.direction_cases d with ⟨-, ht⟩ | ⟨hp, ⟨fault, -, ht⟩ | ⟨-, hdelivered⟩⟩
  · exact ht.backed (hb d)
  · rw [hp, ht.delivered_ends]
    exact hb d
  · rw [hp, hdelivered]
    exact hb d

/-! ## 2. Sessions -/

/-- **What the receivers of a session have**, by how far it is: of each way, how much there is ahead
of the relay and how much has been accepted. -/
def SessionStage.Supplied (ahead accepted : Direction → Nat) : SessionStage → Prop
  | .admitted | .priming _ => accepted .clientToBackend = 0
  | .exchange _ => True
  | .dialling _ opening _ =>
    accepted .clientToBackend = 0 ∧ opening.length = ahead .clientToBackend
  | .replaying rest => accepted .clientToBackend + rest.length = ahead .clientToBackend
  | .relaying r => ∀ d, (r.pump d).Backed (ahead d) (accepted d)
  | .ended how =>
    ∀ d, (SessionStage.ended how).relayed d + min (ahead d) (accepted d) ≤ accepted d

namespace Session

/-- How much has been accepted. -/
def accepted (s : Session) (d : Direction) : Nat := (s.wires.sinkOf d).delivered.length

/-- How much goes ahead of the relay: on the way to the service, the opening. -/
def ahead (s : Session) : Direction → Nat
  | .clientToBackend => (s.route.map (·.opening.length)).getD 0
  | .backendToClient => 0

/-- How much of that has been accepted. -/
def primed (s : Session) (d : Direction) : Nat := min (s.ahead d) (s.accepted d)

/-- **The invariant of the volume.** -/
def Supplied (s : Session) : Prop := s.stage.Supplied s.ahead s.accepted

variable {c : SessionSettings} {now : Nat} {t : Turn} {s s' : Session} {more : Direction → Bytes}

/-- **What a session says of its relay was accepted**, behind what its service has of the opening. -/
theorem Supplied.relayed_le (h : s.Supplied) (d : Direction) :
    s.stage.relayed d + s.primed d ≤ s.accepted d := by
  cases hs : s.stage with
  | ended how =>
    unfold Supplied at h
    rw [hs] at h
    exact h d
  | admitted | priming | exchange | dialling | replaying | relaying =>
    show 0 + s.primed d ≤ _
    rw [Nat.zero_add]
    exact Nat.min_le_right _ _

/-- A session whose end says nothing of a relay. -/
theorem supplied_of_end {how : SessionEnd} (hs : s.stage = .ended how)
    (hz : ∀ d, (SessionStage.ended how).relayed d = 0) : s.Supplied := by
  unfold Supplied
  rw [hs]
  intro d
  rw [hz, Nat.zero_add]
  exact Nat.min_le_right _ _

theorem ahead_congr (h : s'.route = s.route) : s'.ahead = s.ahead := by
  funext d
  unfold ahead
  rw [h]

/-- **The world takes nothing from the receivers.** -/
theorem Supplied.outside (h : s.Supplied) (ho : Outside more s s') : s'.Supplied := by
  have haccepted : s'.accepted = s.accepted := funext fun d => congrArg List.length (ho.delivered d)
  unfold Supplied
  rw [ho.stage, ahead_congr ho.route, haccepted]
  exact h

theorem accepted_finish (s : Session) (how : SessionEnd) : (s.finish how).accepted = s.accepted :=
  funext fun d => congrArg (·.delivered.length) (Wires.sinkOf_release s.wires d)

/-- A session that goes on to a stage that supplies it. -/
theorem supplied_enter {stage : SessionStage} (h : stage.Supplied s.ahead s.accepted) :
    (s.enter c stage).Supplied := by
  have haccepted : (s.enter c stage).accepted = s.accepted := by
    funext d
    unfold accepted
    rw [wires_enter]
  unfold Supplied
  rw [stage_enter, ahead_congr (route_enter _ _ _), haccepted]
  exact h

/-- The first bytes are still to be replayed. -/
theorem supplied_dispatch (h : s.accepted .clientToBackend = 0) (opening : Bytes) :
    (s.dispatch c now opening).Supplied := by
  by_cases hb : (c.classify opening).backend = .httpLogin
  · rw [dispatch_http c s hb]
    exact supplied_enter trivial
  · rw [dispatch_of_ne_http c s rfl hb]
    exact supplied_enter ⟨h, rfl⟩

/-- **A part of the opening is replayed**, and behind all of it the relay begins. -/
theorem supplied_replayed {rest : Bytes}
    (h : s.accepted .clientToBackend + rest.length = s.ahead .clientToBackend) :
    (s.replayed c rest).Supplied := by
  refine supplied_enter ?_
  split
  · next hrest =>
    rw [List.isEmpty_iff.mp hrest] at h
    intro d
    cases d with
    | clientToBackend => exact Pump.backed_fresh (Nat.le_of_eq h.symm)
    | backendToClient => exact Pump.backed_fresh (Nat.zero_le _)
  · exact h

/-- **Every step gives the receivers what it counts.** -/
theorem Supplied.step (h : s.Supplied) (hstep : Step c now t s s') : s'.Supplied := by
  unfold Supplied at h
  cases hstep with
  | begins hs =>
    rw [hs] at h
    exact supplied_enter h
  | silent hs | unreadable hs | noData hs | replayFault hs | refused hs | unanswered hs =>
    exact supplied_of_end rfl fun _ => rfl
  | dispatched hs =>
    rw [hs] at h
    refine supplied_dispatch ?_ _
    exact h
  | exchanged hs => exact supplied_enter trivial
  | exchangeEnded hs hx =>
    rename_i x result w ledger
    exact supplied_of_end rfl fun _ => by cases result <;> rfl
  | connected hs =>
    rw [hs] at h
    refine supplied_enter ?_
    show s.accepted .clientToBackend + _ = s.ahead .clientToBackend
    rw [h.1, Nat.zero_add]
    exact h.2
  | replayedNothing hs =>
    rw [hs] at h
    exact supplied_replayed h
  | replayed hs hp =>
    rename_i rest rest' sink
    rw [hs] at h
    obtain ⟨accepted, hd, hrest, -⟩ := Sink.delivered_push hp
    refine supplied_replayed ?_
    show sink.delivered.length + _ = s.ahead .clientToBackend
    rw [hd, List.length_append, Nat.add_assoc, ← List.length_append, hrest]
    exact h
  | relayed hs hr hrelay =>
    rw [hs] at h
    exact supplied_enter (hrelay.backed h)
  | relayEnded hs hr hrelay =>
    rename_i r r' w ledger result
    rw [hs] at h
    intro d
    have hreported : (SessionStage.ended (.ofRelay result)).relayed d = (r'.pump d).moved := by
      rw [← (Relay.result?_cases hr).2 d]
      cases result <;> rfl
    rw [accepted_finish, hreported, Nat.add_comm]
    exact Nat.le_trans (Nat.add_le_add_right (Nat.min_le_left _ _) _) (hrelay.backed h d).moved

/-- **What a service has accepted begins with the opening**, as far as it has that. -/
theorem Transit.take_primed {sent : Direction → Bytes} (h : Transit sent s)
    {route : Route} (hr : s.route = some route) (hhttp : route.protocol ≠ .http) :
    s.wires.backend.sink.delivered.take (s.primed .clientToBackend) =
      route.opening.take (s.primed .clientToBackend) := by
  have hcar := h.carried fun route' hr' => by
    rw [hr, Option.some.injEq] at hr'
    exact hr' ▸ mt Protocol.backend_eq_httpLogin.mp hhttp
  have hahead : s.ahead .clientToBackend = route.opening.length := by
    unfold ahead
    rw [hr]
    rfl
  obtain ⟨more, hup⟩ := hcar.delivered_prefix .clientToBackend
  obtain ⟨rest, hopening⟩ := h.opening route hr
  have htake := congrArg (List.take (s.primed .clientToBackend)) (hup.trans hopening.symm)
  have hopens : s.primed .clientToBackend ≤ route.opening.length :=
    hahead ▸ Nat.min_le_left _ _
  have haccepts : s.primed .clientToBackend ≤ (s.wires.sinkOf .clientToBackend).delivered.length :=
    Nat.min_le_right _ _
  rw [List.take_append_of_le_length hopens, List.take_append_of_le_length haccepts] at htake
  exact htake

/-! ## 3. Servers -/

/-- **Whatever happens to a session**, its receivers have what it counts. -/
theorem Change.supplied {c : ServerSettings} {server : Server} {place : Nat} {label : Label}
    (h : Change c server place s label s') (hs : s.Supplied) : s'.Supplied := by
  rcases h.outside with ⟨turn, -, hp⟩ | ⟨ho, -⟩
  · obtain ⟨-, ⟨-, rfl⟩ | ⟨-, hstep⟩⟩ := poll_cases hp
    · exact supplied_of_end rfl fun _ => rfl
    · exact hs.step hstep
  · exact hs.outside ho

end Session

/-- **What sessions say of their relays was accepted**, at every moment of every run. -/
theorem Server.supplied_run (c : ServerSettings) (labels : List Label) :
    ∀ session ∈ ((start c).run c labels).sessions, session.Supplied :=
  sessions_run (fun _ _ => rfl) (fun _ _ _ _ _ hchange h => hchange.supplied h) labels

end TrafficRouter
