import TrafficRouter.Proofs.Server.Stillness
import TrafficRouter.Settle

/-!
# The end of a server

Once shutdown is asked for, no client is taken and no session begins (`Closing`). The sessions do not
hear of it at once: the accept loop tells them to end when it has its turn, and from then on they are
still. When the server has taken its steps, in whatever order, all sessions are gone and it has
returned (`Drained`), and no time has passed.

* `step_asked`, `run_asked`: until the accept loop has its turn, the shutdown changes nothing;
* `Closing.step`, `closing_run`: the invariant of every run behind the shutdown;
* `drained_of_rest`: a server that comes to rest is drained;
* `unfinished`, `settled_eq_run`, `atRest_settled`: each step shrinks what is still to be done, so the
  server comes to rest;
* `graceful_shutdown`: the shutdown of a server in any state;
* `shutdown_overtaken`: a session that has its turn before the accept loop.

NOT here: who asks for the shutdown.
-/

namespace TrafficRouter

namespace Server

variable {c : ServerSettings} {s s' u u' : Server} {label : Label} {services : Services}

/-! ## 1. The accept loop -/

theorem isTaking_of_ne (hr : s.isReturned = false) (ha : ∀ deadline, s.accept ≠ .draining deadline) :
    s.accept.isTaking = true := by
  unfold isReturned at hr
  cases hacc : s.accept with
  | idle | holding | pausing => rfl
  | draining deadline => exact absurd hacc (ha deadline)
  | returned result =>
    rw [hacc] at hr
    cases hr

/-- A loop that is to end does so with its next step. -/
theorem acceptStep_of_shutdown (hs : s.shutdown = true) (ha : s.accept.isTaking = true) :
    s.acceptStep c = some (s.beginDrain c) := by
  unfold acceptStep
  cases hacc : s.accept with
  | idle | holding | pausing => simp only [hs, if_true]
  | draining | returned =>
    rw [hacc] at ha
    cases ha

/-- **Behind a step of a loop that is to end, sessions are told to end.** -/
theorem cancelled_accept (h : Slots c s) (hs : s.shutdown = true) :
    ((s.step c .accept).getD s).registry.cancelled = true := by
  cases ha : s.accept.isTaking with
  | true =>
    have hstep : s.step c .accept = some (s.beginDrain c) := acceptStep_of_shutdown hs ha
    rw [hstep]
    rfl
  | false =>
    have hcancelled : s.registry.cancelled = true := by
      rw [h.cancelled, ha]
      rfl
    cases hstep : s.step c .accept with
    | none => exact hcancelled
    | some s' => exact (step_cases hstep).cancelled hcancelled

/-- **All sessions are still while a server that is to end takes its steps**, if the accept loop has the
first. -/
theorem still_of_first (h : Slots c s) (hs : s.shutdown = true) {labels : List Label}
    (hown : ∀ label ∈ labels, label.isOwn = true) : Still [] s (s.run c (.accept :: labels)) := by
  intro place session hn
  have hfirst : ∀ label ∈ [Label.accept], label.isOwn = true := fun label hmem => by
    rw [List.mem_singleton.mp hmem]
    rfl
  -- the step of the loop is no session's, and behind it all of them are told to end
  obtain ⟨next, hnext, hkept⟩ := still_of_waiting (c := c) hfirst hn fun t hmem => by
    cases List.mem_singleton.mp hmem
  obtain ⟨session', hn', hstill⟩ := still_run (cancelled_accept h hs) labels place next hnext
  rw [Label.sent_of_isOwn hown] at hstill
  exact ⟨session', hn', hkept.trans hstill⟩

/-- Only the accept loop asks whether it is to end. -/
theorem step_asked (s : Server) (hne : label ≠ .accept) :
    ({ s with shutdown := true } : Server).step c label =
      (s.step c label).map fun s' => { s' with shutdown := true } := by
  cases label with
  | advance | client | starve | shutdown => rfl
  | arrive peer =>
    show (if s.isReturned then none else _) = (if s.isReturned then none else _ : Option Server).map _
    cases s.isReturned <;> rfl
  | backend place action =>
    show some (backendActs _ place action) = some _
    unfold backendActs
    cases hn : s.sessions[place]? <;> rfl
  | accept => exact absurd rfl hne
  | poll place t =>
    show sessionStep c _ place t = (sessionStep c s place t).map _
    unfold sessionStep
    cases hn : s.sessions[place]? with
    | none => rfl
    | some session =>
      cases he : session.isEnded with
      | true => cases hm : session.membership <;> simp [he, hm, setSession]
      | false => simp [he, setSession, Function.comp_def]

/-- **Until the accept loop has its turn, all goes on as if no shutdown had been asked for.** -/
theorem run_asked (s : Server) {labels : List Label} (hne : ∀ label ∈ labels, label ≠ .accept) :
    ({ s with shutdown := true } : Server).run c labels =
      { s.run c labels with shutdown := true } := by
  induction labels generalizing s with
  | nil => rfl
  | cons label labels ih =>
    obtain ⟨hfirst, hrest⟩ := List.forall_mem_cons.mp hne
    rw [run_cons, run_cons, step_asked s hfirst]
    cases s.step c label with
    | none => exact ih s hrest
    | some s' => exact ih s' hrest

/-! ## 2. Behind the shutdown -/

/-- The limit on the wait for sessions, if there is one, is over for a wait that began at a given time
or later. -/
def WaitOver (c : ServerSettings) (begun now : Nat) : Prop :=
  ∃ limit, c.drainLimit = some limit ∧ begun + limit ≤ now

/-- **What holds of a server `u` since shutdown was asked for in `s`**: no client is taken, no session
begins or enters the registry, and the server does not return before the registry is empty, or
before the limit on the wait for that is over. -/
structure Closing (c : ServerSettings) (s u : Server) : Prop where
  shutdown : u.shutdown = true
  sessions : u.sessions.length = s.sessions.length
  nextId : u.nextId = s.nextId
  waiting : s.queue.map (·.client) <+: u.queue.map (·.client)
  ids : u.registry.ids.Sublist s.registry.ids
  now : s.now ≤ u.now
  deadline : ∀ deadline, u.accept = .draining (some deadline) → WaitOver c s.now deadline
  returned : u.accept = .returned (.ok ()) → u.registry.ids = []
  failed : ∀ timeout, u.accept = .returned (.error timeout) → WaitOver c s.now u.now

theorem WaitOver.mono {begun now now' : Nat} (h : WaitOver c begun now) (hle : now ≤ now') :
    WaitOver c begun now' := by
  obtain ⟨limit, hlimit, hover⟩ := h
  exact ⟨limit, hlimit, Nat.le_trans hover hle⟩

/-- A session that changes leaves the rest as it is. -/
theorem Closing.setSession (h : Closing c s u) (place : Nat) (session : Session) :
    Closing c s (u.setSession place session) :=
  { h with sessions := List.length_set.trans h.sessions }

/-- Fewer entries in the registry. -/
theorem Closing.shrinks (h : Closing c s u) {r : Registry} (hr : r.ids.Sublist u.registry.ids)
    {freeSlots : Nat} : Closing c s { u with registry := r, freeSlots } := by
  refine { h with ids := hr.trans h.ids, returned := fun ha => ?_ }
  have hnone := h.returned ha
  rw [hnone] at hr
  exact List.sublist_nil.mp hr

/-- **Every step behind the shutdown** keeps the invariant. -/
theorem Closing.step (h : Closing c s u) (hslots : Slots c u) (hstep : Step c u label u') :
    Closing c s u' := by
  have hrunning {P : Prop} (hs : u.shutdown = false) : P := by
    rw [h.shutdown] at hs
    cases hs
  cases hstep with
  | advance ms =>
    exact { h with
      now := Nat.le_trans h.now (Nat.le_add_right _ _)
      failed := fun timeout ha => (h.failed timeout ha).mono (Nat.le_add_right _ _) }
  | arrive peer =>
    refine { h with waiting := h.waiting.trans ?_ }
    show _ <+: (u.queue ++ [_]).map Arrival.client
    rw [List.map_append]
    exact List.prefix_append _ _
  | client number action =>
    exact { h with
      sessions := (List.length_map _).trans h.sessions
      waiting := waiting_clientActs u number action ▸ h.waiting }
  | backend action hn => exact h.setSession _ _
  | nobody => exact h
  | starve fails => exact { h with }
  | shutdown => exact { h with shutdown := rfl }
  | takesSlot hs | fails hs | takes hs | resumes hs => exact hrunning hs
  | drains hs ha hr =>
    refine { h with deadline := fun deadline hd => ?_, returned := nofun, failed := nofun }
    have hdeadline : c.drainLimit.map (u.now + ·) = some deadline := AcceptStage.draining.inj hd
    obtain ⟨limit, hlimit, rfl⟩ := Option.map_eq_some_iff.mp hdeadline
    exact ⟨limit, hlimit, Nat.add_le_add_right h.now limit⟩
  | returns ha hd =>
    rcases Registry.drained_cases hd with ⟨hlive, rfl⟩ | ⟨d, rfl, hle, rfl⟩
    · refine { h with
        waiting := waiting_release u ▸ h.waiting
        deadline := nofun
        returned := fun _ => ?_
        failed := nofun }
      rw [hslots.live] at hlive
      exact List.eq_nil_of_length_eq_zero hlive
    · exact { h with
        waiting := waiting_release u ▸ h.waiting
        deadline := nofun
        returned := nofun
        failed := fun _ _ => (h.deadline d ha).mono hle }
  | leaves t hn he hm => exact (h.setSession _ _).shrinks (Registry.ids_deregister_sublist _ _)
  | frees t hn he hm => exact (h.setSession _ _).shrinks (List.Sublist.refl _)
  | polls hn he hp =>
    rename_i place session next t
    obtain ⟨hids, -, -⟩ := noteRoute_kept u.registry next
    exact (h.setSession _ _).shrinks (hids ▸ List.Sublist.refl _)

/-- **The invariant of every run behind the shutdown.** -/
theorem closing_run (hslots : Slots c s) (hs : s.shutdown = false) (labels : List Label) :
    Slots c ((s.run c [.shutdown]).run c labels) ∧
      Closing c s ((s.run c [.shutdown]).run c labels) := by
  have htaking := hslots.isTaking hs
  have hfired : Slots c (s.run c [.shutdown]) ∧ Closing c s (s.run c [.shutdown]) := by
    refine ⟨Slots.step s _ .shutdown .shutdown hslots,
      ⟨rfl, rfl, rfl, List.prefix_rfl, List.Sublist.refl _, Nat.le_refl _, fun d ha => ?_,
        fun ha => ?_, fun t ha => ?_⟩⟩
    all_goals
      rw [show s.accept = _ from ha] at htaking
      cases htaking
  refine run_induct (P := fun u => Slots c u ∧ Closing c s u) ?_ hfired labels
  rintro u u' label hstep ⟨hslots', hclosing⟩
  exact ⟨hslots'.step _ _ label hstep, hclosing.step hslots' hstep⟩

/-! ## 3. At rest -/

/-- **A session that has ended holds no connection.** -/
theorem unheld_run (c : ServerSettings) (labels : List Label) :
    ∀ session ∈ ((start c).run c labels).sessions, session.isEnded = true →
      session.wires.client.hold ≠ .held ∧ session.wires.backend.hold ≠ .held := by
  have hfinish (session : Session) (how : SessionEnd) :
      (session.finish how).wires.client.hold ≠ .held ∧
        (session.finish how).wires.backend.hold ≠ .held :=
    ⟨Duplex.hold_release_ne_held _, Duplex.hold_release_ne_held _⟩
  refine sessions_run (fun a id he => ?_) (fun s place session next label hchange h he => ?_) labels
  · cases he
  · cases hchange with
    | nothing | leaves => exact h he
    | client action =>
      obtain ⟨hclient, hbackend⟩ := h he
      refine ⟨?_, hbackend⟩
      show (session.wires.client.act action).hold ≠ .held
      rw [Duplex.hold_act]
      exact hclient
    | backend action =>
      obtain ⟨hclient, hbackend⟩ := h he
      refine ⟨hclient, ?_⟩
      show (session.wires.backend.act action).hold ≠ .held
      rw [Duplex.hold_act]
      exact hbackend
    | polls hp =>
      obtain ⟨-, ⟨-, rfl⟩ | ⟨-, hstep⟩⟩ := Session.poll_cases hp
      · exact hfinish session .cancelled
      · obtain ⟨before, how, rfl⟩ := hstep.finishes he
        exact hfinish before how

/-- **A server `u` that has ended well since it was in `s`**, without any time passing: all sessions
have ended, have let go of their connections and are gone, no one has an entry in the registry, all
slots are free, and the server has returned. -/
structure Drained (c : ServerSettings) (s u : Server) : Prop where
  now : u.now = s.now
  session : ∀ session ∈ u.sessions, session.isEnded = true ∧ session.membership = .gone ∧
    session.wires.client.hold ≠ .held ∧ session.wires.backend.hold ≠ .held
  entries : u.registry.entries = []
  live : u.registry.live = 0
  freeSlots : u.freeSlots = c.slots
  returned : u.accept = .returned (.ok ())

/-- **At rest, a loop that is to end has ended**, and has told the sessions to end. -/
theorem AtRest.not_taking (hrest : u.AtRest c services) (hs : u.shutdown = true) :
    u.accept.isTaking = false := by
  cases ha : u.accept.isTaking with
  | false => rfl
  | true =>
    have hstep := hrest.accept
    rw [acceptStep_of_shutdown hs ha] at hstep
    cases hstep

/-- **At rest, sessions that were told to end are gone.** -/
theorem AtRest.ended_and_gone (hrest : u.AtRest c services) (hc : u.registry.cancelled = true) :
    ∀ session ∈ u.sessions, session.isEnded = true ∧ session.membership = .gone := by
  intro session hmem
  obtain ⟨place, hplace⟩ := List.getElem?_of_mem hmem
  cases he : session.isEnded with
  | true => exact ⟨rfl, hrest.gone hplace he⟩
  | false =>
    have hwaits := hrest.waits hplace he .clientToBackend
    unfold Session.poll at hwaits
    rw [he, hc] at hwaits
    cases hwaits

/-- **At rest, a loop whose sessions have left has returned.** -/
theorem AtRest.returned (hrest : u.AtRest c services) (ha : u.accept.isTaking = false)
    (hlive : u.registry.live = 0) : ∃ result, u.accept = .returned result := by
  cases hacc : u.accept with
  | idle | holding | pausing =>
    rw [hacc] at ha
    cases ha
  | draining deadline =>
    have hstep := hrest.accept
    unfold acceptStep at hstep
    rw [hacc] at hstep
    simp [Registry.drained, hlive] at hstep
  | returned result => exact ⟨result, rfl⟩

/-- **A server that comes to rest behind the shutdown is drained.** -/
theorem drained_of_rest (hslots : Slots c u) (hclosing : Closing c s u) (hnow : u.now = s.now)
    (hlimit : ∀ limit, c.drainLimit = some limit → 0 < limit)
    (hunheld : ∀ session ∈ u.sessions, session.isEnded = true →
      session.wires.client.hold ≠ .held ∧ session.wires.backend.hold ≠ .held)
    (hrest : u.AtRest c services) : Drained c s u := by
  have htaking : u.accept.isTaking = false := hrest.not_taking hclosing.shutdown
  have hcancelled : u.registry.cancelled = true := by
    rw [hslots.cancelled, htaking]
    rfl
  have hsession := hrest.ended_and_gone hcancelled
  obtain ⟨hheld, hregistered⟩ : Seat.held u.seats = 0 ∧ Seat.registered u.seats = [] := by
    refine Seat.of_gone fun seat hmem => ?_
    obtain ⟨session, hsession', rfl⟩ := List.mem_map.mp hmem
    exact (hsession session hsession').2
  have hids : u.registry.ids = [] := hslots.ids.trans hregistered
  have hlive : u.registry.live = 0 := by
    rw [hslots.live, hids]
    rfl
  have hfree : u.freeSlots = c.slots := by
    have hconserved := hslots.conserved
    have hnone : u.accept.slots = 0 := AcceptStage.slots_of_not_taking htaking
    omega
  have hreturned : u.accept = .returned (.ok ()) := by
    obtain ⟨result, hresult⟩ := hrest.returned htaking hlive
    cases result with
    | ok => exact hresult
    | error timeout =>
      -- there was no time for the wait to be over
      obtain ⟨limit, hl, hover⟩ := hclosing.failed timeout hresult
      have hpositive := hlimit limit hl
      omega
  refine ⟨hnow, fun session hmem => ?_, List.map_eq_nil_iff.mp hids, hlive, hfree, hreturned⟩
  obtain ⟨hended, hm⟩ := hsession session hmem
  exact ⟨hended, hm, hunheld session hmem hended⟩

end Server

/-! ## 4. Coming to rest -/

/-- How many turns a session that has ended still takes. -/
def Membership.unfinished : Membership → Nat
  | .registered => 2
  | .leaving => 1
  | .gone => 0

/-- How many turns a session that is told to end still takes. -/
def Session.unfinished (s : Session) : Nat :=
  if s.isEnded then s.membership.unfinished else 3

/-- How many steps an accept loop that has told the sessions to end still takes. -/
def AcceptStage.unfinished : AcceptStage → Nat
  | .returned _ => 0
  | .idle | .holding | .pausing _ | .draining _ => 1

theorem AcceptStage.unfinished_le (stage : AcceptStage) : stage.unfinished ≤ 1 := by
  cases stage with
  | idle | holding | pausing | draining => exact Nat.le_refl _
  | returned => exact Nat.zero_le _

theorem Session.unfinished_of_isEnded {s : Session} (h : s.isEnded = true) :
    s.unfinished = s.membership.unfinished :=
  if_pos h

theorem Session.unfinished_of_not_isEnded {s : Session} (h : s.isEnded = false) :
    s.unfinished = 3 := by
  unfold unfinished
  rw [h]
  rfl

theorem Session.unfinished_le (s : Session) : s.unfinished ≤ 3 := by
  unfold unfinished
  cases s.isEnded with
  | true => cases s.membership <;> decide
  | false => exact Nat.le_refl _

namespace Server

variable {c : ServerSettings} {s s' u : Server} {label : Label} {services : Services}

/-- How many steps a server whose sessions are told to end still takes. -/
def unfinished (s : Server) : Nat :=
  s.accept.unfinished + (s.sessions.map Session.unfinished).sum

/-- One session that has less to do. -/
theorem unfinished_setSession {place : Nat} {session next : Session}
    (hn : s.sessions[place]? = some session) (hlt : next.unfinished < session.unfinished) :
    (s.setSession place next).unfinished < s.unfinished := by
  obtain ⟨before, after, hsessions, hset⟩ := sessions_split hn
  unfold unfinished
  rw [hset, hsessions]
  simp only [List.map_append, List.map_cons, List.sum_append, List.sum_cons]
  show s.accept.unfinished + _ < s.accept.unfinished + _
  omega

/-- **Every step of the server shrinks what is still to be done**, once the sessions are told to end. -/
theorem Step.unfinished_lt (h : Step c s label s') (hown : label.isOwn = true) (hslots : Slots c s)
    (hc : s.registry.cancelled = true) : s'.unfinished < s.unfinished := by
  have htaking : s.accept.isTaking = false := by
    have hcancelled := hslots.cancelled
    rw [hc] at hcancelled
    simpa using hcancelled.symm
  cases h with
  | advance | arrive | client | backend | nobody | starve | shutdown => cases hown
  | drains hs ha hr =>
    rw [isTaking_of_ne hr ha] at htaking
    cases htaking
  | takesSlot hs ha | fails hs ha | takes hs ha | resumes hs ha =>
    rw [ha] at htaking
    cases htaking
  | returns ha hd =>
    unfold unfinished
    rw [ha]
    exact Nat.add_lt_add_right Nat.zero_lt_one _
  | leaves t hn he hm =>
    rename_i place session
    have hone : Session.unfinished { session with membership := .leaving } = 1 :=
      Session.unfinished_of_isEnded he
    refine unfinished_setSession hn ?_
    rw [hone, Session.unfinished_of_isEnded he, hm]
    decide
  | frees t hn he hm =>
    rename_i place session
    have hzero : Session.unfinished { session with membership := .gone } = 0 :=
      Session.unfinished_of_isEnded he
    refine unfinished_setSession hn ?_
    rw [hzero, Session.unfinished_of_isEnded he, hm]
    decide
  | polls hn he hp =>
    rename_i place session next t
    refine unfinished_setSession hn ?_
    rw [Session.unfinished_of_not_isEnded he]
    obtain ⟨-, ⟨-, rfl⟩ | ⟨hno, -⟩⟩ := Session.poll_cases hp
    · have hended : (session.finish .cancelled).isEnded = true := rfl
      rw [Session.unfinished_of_isEnded hended]
      cases (session.finish .cancelled).membership <;> decide
    · rw [hc] at hno
      cases hno

/-- **A run of steps of the server shrinks what is still to be done**, if one of them can happen. -/
theorem unfinished_run {labels : List Label} (hown : ∀ label ∈ labels, label.isOwn = true)
    (hslots : Slots c s) (hc : s.registry.cancelled = true) :
    (s.run c labels).unfinished ≤ s.unfinished ∧
      ((∃ label ∈ labels, (s.step c label).isSome = true) →
        (s.run c labels).unfinished < s.unfinished) := by
  induction labels generalizing s with
  | nil =>
    refine ⟨Nat.le_refl _, fun hsome => ?_⟩
    obtain ⟨label, hmem, -⟩ := hsome
    cases hmem
  | cons label labels ih =>
    have hown' : ∀ label ∈ labels, label.isOwn = true := fun l hl =>
      hown l (List.mem_cons_of_mem _ hl)
    rw [run_cons]
    cases hs : s.step c label with
    | some s' =>
      have hstep := step_cases hs
      have hlt := hstep.unfinished_lt (hown label List.mem_cons_self) hslots hc
      obtain ⟨hle, -⟩ := ih hown' (hslots.step _ _ label hstep) (hstep.cancelled hc)
      have hless := Nat.lt_of_le_of_lt hle hlt
      exact ⟨Nat.le_of_lt hless, fun _ => hless⟩
    | none =>
      obtain ⟨hle, hless⟩ := ih hown' hslots hc
      refine ⟨hle, fun hsome => hless ?_⟩
      obtain ⟨l, hmem, hl⟩ := hsome
      rcases List.mem_cons.mp hmem with rfl | hmem
      · rw [hs] at hl
        cases hl
      · exact ⟨l, hmem, hl⟩

theorem isOwn_of_mem_ownLabels (h : label ∈ s.ownLabels services) : label.isOwn = true := by
  rcases List.mem_cons.mp h with rfl | h
  · rfl
  · obtain ⟨place, -, hmem⟩ := List.mem_flatMap.mp h
    rcases List.mem_cons.mp hmem with rfl | hmem
    · rfl
    · rw [List.mem_singleton.mp hmem]
      rfl

/-- A round is a run of steps of the server, one of which can happen. -/
theorem round_cases (h : s.round c services = some s') :
    s' = s.run c (s.ownLabels services) ∧
      ∃ label ∈ s.ownLabels services, (s.step c label).isSome = true := by
  unfold round at h
  by_cases hany : ((s.ownLabels services).any fun l => (s.step c l).isSome) = true
  · simp only [hany, if_true, Option.some.injEq] at h
    exact ⟨h.symm, List.any_eq_true.mp hany⟩
  · simp [hany] at h

/-- Without a round the server is at rest. -/
theorem atRest_of_round (h : s.round c services = none) : s.AtRest c services := by
  intro label hmem
  cases hs : s.step c label with
  | none => rfl
  | some s' =>
    have hany : ((s.ownLabels services).any fun l => (s.step c l).isSome) = true :=
      List.any_eq_true.mpr ⟨label, hmem, by rw [hs]; rfl⟩
    unfold round at h
    simp [hany] at h

/-- The rounds that a server may take are more than what is still to be done. -/
theorem unfinished_lt_bound (s : Server) : s.unfinished + 2 < s.bound := by
  have hsessions : ∀ sessions : List Session,
      (sessions.map Session.unfinished).sum ≤ (sessions.map Session.bound).sum := by
    intro sessions
    induction sessions with
    | nil => exact Nat.le_refl _
    | cons session sessions ih =>
      have hle : session.unfinished ≤ session.bound := by
        have hthree := session.unfinished_le
        unfold Session.bound
        omega
      rw [List.map_cons, List.map_cons, List.sum_cons, List.sum_cons]
      exact Nat.add_le_add hle ih
  have hsum := hsessions s.sessions
  have hloop := s.accept.unfinished_le
  unfold unfinished bound
  rw [← List.sum_eq_foldl]
  omega

/-- Rounds are runs of steps of the server. -/
theorem settle_eq_run (services : Services) (bound : Nat) (s : Server) :
    ∃ labels, (∀ label ∈ labels, label.isOwn = true) ∧
      settle (round c services) bound s = s.run c labels := by
  refine settle_induct (P := fun u => ∃ labels, (∀ label ∈ labels, label.isOwn = true) ∧
    u = s.run c labels) ?_ bound ⟨[], fun _ h => absurd h List.not_mem_nil, rfl⟩
  rintro u u' ⟨labels, hlabels, rfl⟩ hround
  obtain ⟨rfl, -⟩ := round_cases hround
  refine ⟨labels ++ _, fun label hmem => ?_, (run_append s labels _).symm⟩
  rcases List.mem_append.mp hmem with hmem | hmem
  · exact hlabels label hmem
  · exact isOwn_of_mem_ownLabels hmem

/-- That sessions are told to end is kept by every run. -/
theorem told_run (hslots : Slots c s) (hc : s.registry.cancelled = true) (labels : List Label) :
    Slots c (s.run c labels) ∧ (s.run c labels).registry.cancelled = true := by
  refine run_induct (P := fun u => Slots c u ∧ u.registry.cancelled = true) ?_ ⟨hslots, hc⟩ labels
  rintro u u' label hstep ⟨hslots', hc'⟩
  exact ⟨hslots'.step _ _ label hstep, hstep.cancelled hc'⟩

/-- **A server whose sessions are told to end comes to rest** within as many rounds as there are steps
to be done. -/
theorem atRest_settle (hslots : Slots c s) (hc : s.registry.cancelled = true) {bound : Nat}
    (hlt : s.unfinished < bound) (services : Services) :
    (settle (round c services) bound s).AtRest c services := by
  refine atRest_of_round (step_settle_eq_none (P := fun u =>
    Slots c u ∧ u.registry.cancelled = true) unfinished ?_ ?_ ⟨hslots, hc⟩ hlt)
  · rintro u u' ⟨hslots', hc'⟩ hround
    obtain ⟨rfl, -⟩ := round_cases hround
    exact told_run hslots' hc' _
  · rintro u u' ⟨hslots', hc'⟩ hround
    obtain ⟨rfl, hsome⟩ := round_cases hround
    exact (unfinished_run (fun _ => isOwn_of_mem_ownLabels) hslots' hc').2 hsome

/-- **A server that is to end comes to rest**, in a run of its own steps that begins with one of the
accept loop. -/
theorem settled_eq_run (hslots : Slots c s) (hs : s.shutdown = true)
    (ha : s.accept.isTaking = true) (services : Services) :
    ∃ labels, (∀ label ∈ labels, label.isOwn = true) ∧
      s.settled c services = s.run c (.accept :: labels) ∧
      (s.settled c services).AtRest c services := by
  have hfirst : s.step c .accept = some (s.beginDrain c) := acceptStep_of_shutdown hs ha
  obtain ⟨polls, hpolls⟩ : ∃ polls, s.ownLabels services = .accept :: polls := ⟨_, rfl⟩
  have hown : ∀ label ∈ polls, label.isOwn = true := by
    intro label hmem
    have hmem' : label ∈ s.ownLabels services := hpolls ▸ List.mem_cons_of_mem _ hmem
    exact isOwn_of_mem_ownLabels hmem'
  -- the first round begins with the end of the taking
  have hround : s.round c services = some ((s.beginDrain c).run c polls) := by
    unfold round
    simp [hpolls, hfirst, run_cons]
  have hlt := s.unfinished_lt_bound
  obtain ⟨bound, hbound⟩ : ∃ bound, s.bound = bound + 1 := ⟨s.bound - 1, by omega⟩
  have hsettled : s.settled c services =
      settle (round c services) bound ((s.beginDrain c).run c polls) := by
    unfold settled
    rw [hbound, settle, hround]
  have hbegun : Slots c (s.beginDrain c) := hslots.step _ _ .accept (step_cases hfirst)
  have hless : ((s.beginDrain c).run c polls).unfinished < bound := by
    obtain ⟨hle, -⟩ := unfinished_run hown hbegun rfl
    have hbegin : (s.beginDrain c).unfinished ≤ s.unfinished + 1 := by
      have hloop := (s.beginDrain c).accept.unfinished_le
      show _ + (s.sessions.map Session.unfinished).sum ≤
        _ + (s.sessions.map Session.unfinished).sum + 1
      omega
    omega
  obtain ⟨htold, hc⟩ := told_run hbegun rfl polls
  obtain ⟨labels, hlabels, hrun⟩ :=
    settle_eq_run (c := c) services bound ((s.beginDrain c).run c polls)
  refine ⟨polls ++ labels, fun label hmem => ?_, ?_, ?_⟩
  · rcases List.mem_append.mp hmem with hmem | hmem
    · exact hown label hmem
    · exact hlabels label hmem
  · rw [hsettled, hrun, run_cons, hfirst]
    exact (run_append _ polls labels).symm
  · rw [hsettled]
    exact atRest_settle htold hc hless services

/-- **A server that is to end comes to rest**, however far it is, in a run of its own steps. -/
theorem atRest_settled (hslots : Slots c s) (hs : s.shutdown = true) (services : Services) :
    ∃ labels, (∀ label ∈ labels, label.isOwn = true) ∧ s.settled c services = s.run c labels ∧
      (s.settled c services).AtRest c services := by
  cases ha : s.accept.isTaking with
  | true =>
    obtain ⟨labels, hown, hrun, hrest⟩ := settled_eq_run hslots hs ha services
    exact ⟨_, List.forall_mem_cons.mpr ⟨rfl, hown⟩, hrun, hrest⟩
  | false =>
    have hc : s.registry.cancelled = true := by
      rw [hslots.cancelled, ha]
      rfl
    obtain ⟨labels, hown, hrun⟩ := settle_eq_run (c := c) services s.bound s
    have hlt : s.unfinished < s.bound := Nat.lt_of_add_right_lt s.unfinished_lt_bound
    exact ⟨labels, hown, hrun, atRest_settle hslots hc hlt services⟩

end Server

/-! ## 5. The shutdown -/

/-- The server settings of every configuration give sessions some time to end, or any. -/
theorem ServerSettings.drainLimit_pos (classify : Bytes → Protocol) (settings : Settings) :
    ∀ limit, (withClassifier classify settings).drainLimit = some limit → 0 < limit := by
  intro limit h
  have hlimit : settings.timeouts.drainLimit = some limit := h
  unfold TimeoutSettings.drainLimit at hlimit
  split at hlimit
  · cases hlimit
  · cases hlimit
    omega

/-- **Shutdown of a server in any state.** For all settings and every classifier, let a server be in any
state that it can come to before shutdown is asked for, with any number of sessions, each as far as
it may be, and clients that wait.

Whatever happens from then on, no client is taken, no session begins, and the server returns no
sooner than the registry is empty or its limit on that is over. With its next step the accept loop
tells the sessions to end, and from there on none of them reads, calls, writes or counts anything
more, whatever arrives. Until then all goes on as if no shutdown had been asked for; a session that
waits, and each if the loop has the first turn, has done nothing more while the server takes its steps.

From wherever it is, a server that takes its own steps comes to rest. Whatever happened in between, if
no time has passed it then is drained: all sessions are gone, their connections let go of and their
slots free, and it has returned well, at the time at which shutdown was asked for. From the shutdown
itself on it comes to rest with no session having done anything more. -/
theorem graceful_shutdown (classify : Bytes → Protocol) (settings : Settings)
    (before : List Label) :
    let c := ServerSettings.withClassifier classify settings
    let s := (Server.start c).run c before
    let fired := s.run c [.shutdown]
    s.shutdown = false →
      (∀ after, Server.Closing c s (fired.run c after)) ∧
      (∀ early later, let told := fired.run c (early ++ [.accept])
        told.registry.cancelled = true ∧ Server.Still later told (told.run c later) ∧
          (told.run c later).ledger = told.ledger) ∧
      (∀ early : List Label, (∀ label ∈ early, label ≠ .accept) →
        fired.run c early = { s.run c early with shutdown := true }) ∧
      (∀ tasks : List Label, (∀ task ∈ tasks, task.isOwn = true) →
        ∀ place session, s.sessions[place]? = some session →
          (tasks.head? = some .accept ∨
            ∀ t, .poll place t ∈ tasks → session.step c.session s.now t = none) →
          ∃ session', (fired.run c tasks).sessions[place]? = some session' ∧
            session.Still (fun _ => []) session') ∧
      (∀ after services, let u := fired.run c after
        let r := u.settled c services
        r.AtRest c services ∧
          (u.now = s.now → Server.Drained c s r ∧ (u.AtRest c services → Server.Drained c s u))) ∧
      ∀ services, let r := fired.settled c services
        Server.Still [] s r ∧ r.ledger = s.ledger := by
  intro c s fired hs
  have hslots : Server.Slots c s := Server.slots_run c before
  have hclosing (labels : List Label) := Server.closing_run hslots hs labels
  have hfired : Server.Slots c fired := (hclosing []).1
  have hdrained {after : List Label} {services : Server.Services}
      (hnow : (fired.run c after).now = s.now) (hrest : (fired.run c after).AtRest c services) :
      Server.Drained c s (fired.run c after) := by
    have hrun : fired.run c after = (Server.start c).run c (before ++ ([.shutdown] ++ after)) := by
      rw [Server.run_append, Server.run_append]
    have hunheld := Server.unheld_run c (before ++ ([.shutdown] ++ after))
    rw [← hrun] at hunheld
    obtain ⟨hslots', hclosing'⟩ := hclosing after
    exact Server.drained_of_rest hslots' hclosing' hnow
      (ServerSettings.drainLimit_pos classify settings) hunheld hrest
  refine ⟨fun after => (hclosing after).2, fun early later => ?_, fun early => Server.run_asked s,
    fun tasks hown place session hn hcases => ?_, fun after services => ?_, fun services => ?_⟩
  · intro told
    obtain ⟨hslots', hclosing'⟩ := hclosing early
    have hc : told.registry.cancelled = true := by
      rw [show told = (fired.run c early).run c [.accept] from Server.run_append _ _ _]
      exact Server.cancelled_accept hslots' hclosing'.shutdown
    have hstill := Server.still_run (c := c) hc later
    have hlength := (hclosing (early ++ [.accept] ++ later)).2.sessions
    rw [Server.run_append] at hlength
    exact ⟨hc, hstill, hstill.ledger (hlength.trans (hclosing _).2.sessions.symm)⟩
  · rcases hcases with hhead | hw
    · obtain ⟨labels, rfl⟩ := List.head?_eq_some_iff.mp hhead
      exact Server.still_of_first hfired rfl (List.forall_mem_cons.mp hown).2 place session hn
    · exact Server.still_of_waiting (s := fired) hown hn hw
  · intro u r
    obtain ⟨hslots', hclosing'⟩ := hclosing after
    obtain ⟨labels, hown, hrun, hrest⟩ :=
      Server.atRest_settled hslots' hclosing'.shutdown services
    have hrun' : r = fired.run c (after ++ labels) :=
      hrun.trans (Server.run_append fired after labels).symm
    have hrest' : r.AtRest c services := hrest
    refine ⟨hrest', fun hnow => ⟨?_, hdrained hnow⟩⟩
    have hnow' : r.now = s.now := by
      rw [show r = u.run c labels from hrun]
      exact (Server.now_run_of_isOwn hown).trans hnow
    rw [hrun'] at hnow' hrest' ⊢
    exact hdrained hnow' hrest'
  · obtain ⟨labels, hown, hrun, -⟩ :=
      Server.settled_eq_run hfired rfl (hslots.isTaking hs) services
    have hstill := Server.still_of_first hfired rfl hown
    show Server.Still [] s (fired.settled c services) ∧ (fired.settled c services).ledger = s.ledger
    rw [hrun]
    exact ⟨hstill, hstill.ledger (hclosing _).2.sessions⟩

/-- A session relays and has read a byte that it has not written yet, a second one has not done
anything, and a third client waits. -/
def busyServer : List Label :=
  [.arrive { ip := .v4 10 0 0 1, port := 40000 }, .accept, .accept, .poll 0 ⟨.clientToBackend, none⟩,
    .client 0 (.send [200, 0, 7]), .poll 0 ⟨.clientToBackend, none⟩,
    .poll 0 ⟨.clientToBackend, some .accepted⟩, .poll 0 ⟨.clientToBackend, none⟩,
    .client 0 (.send [8]), .poll 0 ⟨.clientToBackend, none⟩,
    .arrive { ip := .v4 10 0 0 2, port := 40000 }, .accept, .accept,
    .arrive { ip := .v4 10 0 0 3, port := 40000 }]

/-- All slots of that server are free again and it has returned well, also where one more byte arrives
behind the shutdown; and the byte that was read is not written. -/
theorem graceful_shutdown_busy :
    let c := ServerSettings.withClassifier (classify 150) {}
    let s := (Server.start c).run c busyServer
    let fired := s.run c [.shutdown]
    let u := (fired.run c [.client 0 (.send [9])]).settled c fun _ => none
    let r := fired.settled c fun _ => none
    s.shutdown = false ∧ s.sessions.length = 2 ∧ s.queue.length = 1 ∧ s.freeSlots = 9998 ∧
      u.accept = .returned (.ok ()) ∧ u.freeSlots = 10000 ∧ r.ledger = s.ledger ∧
      ∃ session, r.sessions[0]? = some session ∧
        session.wires.backend.sink.delivered = [200, 0, 7] := by
  intro c s fired u r
  have hs : s.shutdown = false := by decide +kernel
  have hnow : (fired.run c [.client 0 (.send [9])]).now = s.now := by decide +kernel
  have hcounts : s.sessions.length = 2 ∧ s.queue.length = 1 ∧ s.freeSlots = 9998 := by
    decide +kernel
  have hwritten : (s.sessions[0]?).map (·.wires.backend.sink.delivered) = some [200, 0, 7] := by
    decide +kernel
  obtain ⟨hsessions, hqueue, hfree⟩ := hcounts
  obtain ⟨-, -, -, -, hrests, hstills⟩ := graceful_shutdown (classify 150) {} busyServer hs
  obtain ⟨-, hends⟩ := hrests _ fun _ => none
  obtain ⟨hdrained, -⟩ := hends hnow
  obtain ⟨hstill, hledger⟩ := hstills fun _ => none
  obtain ⟨session, hsession, hdelivered⟩ := Option.map_eq_some_iff.mp hwritten
  obtain ⟨session', hsession', hkept⟩ := hstill 0 session hsession
  refine ⟨hs, hsessions, hqueue, hfree, hdrained.returned, hdrained.freeSlots, hledger, session',
    hsession', ?_⟩
  exact (hkept.delivered .clientToBackend).trans hdelivered

/-- A client has sent three bytes, and its session is registered and has had no turn. -/
def unpolledServer : List Label :=
  [.arrive { ip := .v4 10 0 0 1, port := 40000 }, .accept, .accept, .client 0 (.send [200, 0, 7])]

/-- **The shutdown may be overtaken.** Shutdown is asked for, and that session has its turns before the
accept loop has its own: it reads what its client has sent, counts it, calls the game service and
writes the bytes there. -/
theorem shutdown_overtaken :
    let c := ServerSettings.withClassifier (classify 150) {}
    let s := (Server.start c).run c unpolledServer
    let fired := s.run c [.shutdown]
    let u := fired.run c [.poll 0 ⟨.clientToBackend, none⟩, .poll 0 ⟨.clientToBackend, none⟩,
      .poll 0 ⟨.clientToBackend, some .accepted⟩, .poll 0 ⟨.clientToBackend, none⟩]
    s.shutdown = false ∧ fired.shutdown = true ∧
      fired.sessions.map (·.wires.client.source.unread) = [[200, 0, 7]] ∧
      fired.sessions.map (·.calls) = [[]] ∧
      fired.sessions.map (·.wires.backend.sink.delivered) = [[]] ∧
      fired.ledger = [(.connections, 1)] ∧
      u.sessions.map (·.wires.client.source.unread) = [[]] ∧
      u.sessions.map (·.calls) = [[(.game, "127.0.0.1:7172")]] ∧
      u.sessions.map (·.wires.backend.sink.delivered) = [[200, 0, 7]] ∧
      u.ledger = [(.connections, 1), (.classified .game, 1)] := by
  decide +kernel

end TrafficRouter
