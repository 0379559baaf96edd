import TrafficRouter.Proofs.Session.Steps
import TrafficRouter.Server

/-!
# What a server does

`Server.Step` lists what a step of a server can be, and `Session.Change` what it can be to one
session: a label concerns the sessions of one client, or the session at one place, and leaves every
other session alone.

A server that is observed (`Observed`) carries along what has passed on its connections: what each
client and each service has sent, and what the first read of each session came to.

* `Server.step_cases`: every step is one of the list;
* `Server.Step.session_cases`: a session behind a step is one from before, changed as the label says,
  or one that begins;
* `Observed.server_run`: observing changes nothing; `Observed.run_induct`: what holds at the start
  and is kept by every step holds at every moment of every run.

NOT here: any property of the runs.
-/

namespace TrafficRouter

/-! ## 1. What a step can be -/

namespace Server

/-- **A step of a server**, by its label. -/
inductive Step (c : ServerSettings) (s : Server) : Label → Server → Prop where
  | advance (ms : Nat) : Step c s (.advance ms) { s with now := s.now + ms }
  | arrive (peer : SocketAddress) (h : s.isReturned = false) :
      Step c s (.arrive peer) { s with
        queue := s.queue ++ [{ client := s.arrivals, peer }], arrivals := s.arrivals + 1 }
  | client (number : Nat) (action : PeerAction) :
      Step c s (.client number action) (s.clientActs number action)
  | backend {place : Nat} {session : Session} (action : PeerAction)
      (h : s.sessions[place]? = some session) :
      Step c s (.backend place action)
        (s.setSession place (session.on (session.wires.backendActs action)))
  | nobody {place : Nat} (action : PeerAction) (h : s.sessions[place]? = none) :
      Step c s (.backend place action) s
  | starve (fails : Bool) : Step c s (.starve fails) { s with starved := fails }
  | shutdown : Step c s .shutdown { s with shutdown := true }
  | drains (h : s.shutdown = true) (ha : ∀ deadline, s.accept ≠ .draining deadline)
      (hr : s.isReturned = false) : Step c s .accept (s.beginDrain c)
  | takesSlot (h : s.shutdown = false) (ha : s.accept = .idle) (hf : s.freeSlots ≠ 0) :
      Step c s .accept { s with freeSlots := s.freeSlots - 1, accept := .holding }
  | fails {a : Arrival} {rest : List Arrival} (h : s.shutdown = false) (ha : s.accept = .holding)
      (hq : s.queue = a :: rest) (hs : s.starved = true) :
      Step c s .accept
        { s with freeSlots := s.freeSlots + 1, accept := .pausing (s.now + acceptPause) }
  | takes {a : Arrival} {rest : List Arrival} (h : s.shutdown = false) (ha : s.accept = .holding)
      (hq : s.queue = a :: rest) (hs : s.starved = false) :
      Step c s .accept (s.takeClient a rest)
  | resumes {resumeAt : Nat} (h : s.shutdown = false) (ha : s.accept = .pausing resumeAt)
      (hle : resumeAt ≤ s.now) : Step c s .accept { s with accept := .idle }
  | returns {deadline : Option Nat} {result : Except DrainTimeout Unit}
      (ha : s.accept = .draining deadline) (hd : s.registry.drained s.now deadline = some result) :
      Step c s .accept { s with
        accept := .returned result
        queue := s.queue.map fun a => { a with line := a.line.release } }
  | leaves {place : Nat} {session : Session} (t : Turn) (h : s.sessions[place]? = some session)
      (he : session.isEnded = true) (hm : session.membership = .registered) :
      Step c s (.poll place t) { s.setSession place { session with membership := .leaving } with
        registry := s.registry.deregister session.id }
  | frees {place : Nat} {session : Session} (t : Turn) (h : s.sessions[place]? = some session)
      (he : session.isEnded = true) (hm : session.membership = .leaving) :
      Step c s (.poll place t) { s.setSession place { session with membership := .gone } with
        freeSlots := s.freeSlots + 1 }
  | polls {place : Nat} {session next : Session} {t : Turn} (h : s.sessions[place]? = some session)
      (he : session.isEnded = false)
      (hp : session.poll c.session s.now s.registry.cancelled t = some next) :
      Step c s (.poll place t)
        { s.setSession place next with registry := noteRoute s.registry next }

variable {c : ServerSettings} {s s' : Server} {label : Label}

theorem acceptStep_cases (h : s.acceptStep c = some s') : Step c s .accept s' := by
  -- a loop that has not begun the end does so where shutdown was asked for
  have hdrains (hs : s.shutdown = true) (hr : s.isReturned = false)
      (ha : ∀ deadline, s.accept ≠ .draining deadline) (h : some (s.beginDrain c) = some s') :
      Step c s .accept s' := Option.some.inj h ▸ .drains hs ha hr
  unfold acceptStep at h
  cases ha : s.accept with
  | returned result => simp [ha] at h
  | draining deadline =>
    simp only [ha] at h
    obtain ⟨result, hd, rfl⟩ := Option.map_eq_some_iff.mp h
    exact .returns ha hd
  | idle =>
    simp only [ha] at h
    by_cases hs : s.shutdown = true
    · rw [if_pos hs] at h
      exact hdrains hs (by unfold isReturned; rw [ha])
        (fun _ => by rw [ha]; exact AcceptStage.noConfusion) h
    · rw [if_neg hs] at h
      by_cases hf : s.freeSlots = 0
      · rw [if_pos hf] at h
        cases h
      · rw [if_neg hf] at h
        exact Option.some.inj h ▸ .takesSlot (Bool.eq_false_iff.mpr hs) ha hf
  | holding =>
    simp only [ha] at h
    by_cases hs : s.shutdown = true
    · rw [if_pos hs] at h
      exact hdrains hs (by unfold isReturned; rw [ha])
        (fun _ => by rw [ha]; exact AcceptStage.noConfusion) h
    · rw [if_neg hs] at h
      split at h
      · cases h
      · next a rest hq =>
        by_cases hst : s.starved = true
        · rw [if_pos hst] at h
          exact Option.some.inj h ▸ .fails (Bool.eq_false_iff.mpr hs) ha hq hst
        · rw [if_neg hst] at h
          exact Option.some.inj h ▸
            .takes (Bool.eq_false_iff.mpr hs) ha hq (Bool.eq_false_iff.mpr hst)
  | pausing resumeAt =>
    simp only [ha] at h
    by_cases hs : s.shutdown = true
    · rw [if_pos hs] at h
      exact hdrains hs (by unfold isReturned; rw [ha])
        (fun _ => by rw [ha]; exact AcceptStage.noConfusion) h
    · rw [if_neg hs] at h
      by_cases hle : resumeAt ≤ s.now
      · rw [if_pos hle] at h
        exact Option.some.inj h ▸ .resumes (Bool.eq_false_iff.mpr hs) ha hle
      · rw [if_neg hle] at h
        cases h

theorem sessionStep_cases {place : Nat} {t : Turn} (h : s.sessionStep c place t = some s') :
    Step c s (.poll place t) s' := by
  unfold sessionStep at h
  cases hn : s.sessions[place]? with
  | none => simp [hn] at h
  | some session =>
    cases he : session.isEnded with
    | true =>
      cases hm : session.membership with
      | registered =>
        simp only [hn, he, hm, if_true, Option.some.injEq] at h
        exact h ▸ .leaves t hn he hm
      | leaving =>
        simp only [hn, he, hm, if_true, Option.some.injEq] at h
        exact h ▸ .frees t hn he hm
      | gone => simp [hn, he, hm] at h
    | false =>
      simp only [hn, he, Bool.false_eq_true, if_false] at h
      obtain ⟨next, hp, rfl⟩ := Option.map_eq_some_iff.mp h
      exact .polls hn he hp

/-- **Every step is one of the list.** -/
theorem step_cases (h : s.step c label = some s') : Step c s label s' := by
  cases label with
  | advance ms => exact Option.some.inj h ▸ .advance ms
  | arrive peer =>
    unfold step at h
    cases hr : s.isReturned with
    | true => simp [hr] at h
    | false =>
      simp only [hr, Bool.false_eq_true, if_false, Option.some.injEq] at h
      exact h ▸ .arrive peer hr
  | client number action => exact Option.some.inj h ▸ .client number action
  | backend place action =>
    have hs : s.backendActs place action = s' := Option.some.inj h
    unfold backendActs at hs
    cases hn : s.sessions[place]? with
    | none =>
      simp only [hn] at hs
      exact hs ▸ .nobody action hn
    | some session =>
      simp only [hn] at hs
      exact hs ▸ .backend action hn
  | starve fails => exact Option.some.inj h ▸ .starve fails
  | shutdown => exact Option.some.inj h ▸ .shutdown
  | accept => exact acceptStep_cases h
  | poll place t => exact sessionStep_cases h

end Server

/-! ## 2. What a step is to one session -/

/-- The session of a client that is taken. -/
def Arrival.session (a : Arrival) (id : SessionId) : Session where
  id
  client := a.client
  wires := { client := a.line }

namespace Label

/-- The label concerns the session at a place, that of a client. -/
def Concerns (place client : Nat) : Label → Prop
  | .client number _ => number = client
  | .backend place' _ | .poll place' _ => place' = place
  | .advance _ | .arrive _ | .starve _ | .shutdown | .accept => False

/-- What a client sends with a label. -/
def clientSends (client : Nat) : Label → Bytes
  | .client number action => if number = client then action.sent else []
  | .backend .. | .poll .. | .advance _ | .arrive _ | .starve _ | .shutdown | .accept => []

/-- What the service sends with a label on the connection of the session at a place. -/
def serviceSends (place : Nat) : Label → Bytes
  | .backend place' action => if place' = place then action.sent else []
  | .client .. | .poll .. | .advance _ | .arrive _ | .starve _ | .shutdown | .accept => []

/-- What a label sends each way through the session at a place, that of a client. -/
def sends (place client : Nat) (label : Label) : Direction → Bytes
  | .clientToBackend => label.clientSends client
  | .backendToClient => label.serviceSends place

theorem sends_poll (place client place' : Nat) (t : Turn) :
    (Label.poll place' t).sends place client = fun _ => [] :=
  funext fun d => by cases d <;> rfl

/-- The label is a turn of the session at a place. -/
def polls (place : Nat) : Label → Bool
  | .poll place' _ => place' = place
  | .client .. | .backend .. | .advance _ | .arrive _ | .starve _ | .shutdown | .accept => false

/-- A label that does not concern a session sends nothing through it and is not its turn. -/
theorem not_concerns {place client : Nat} {label : Label} (h : ¬ label.Concerns place client) :
    label.sends place client = (fun _ => []) ∧ label.polls place = false := by
  cases label with
  | client number action => exact ⟨funext fun d => by cases d <;> first | exact if_neg h | rfl, rfl⟩
  | backend place' action => exact ⟨funext fun d => by cases d <;> first | exact if_neg h | rfl, rfl⟩
  | poll place' t => exact ⟨sends_poll _ _ _ _, decide_eq_false h⟩
  | advance | arrive | starve | shutdown | accept =>
    exact ⟨funext fun d => by cases d <;> rfl, rfl⟩

end Label

/-- **What a label changes of the session at a place.** -/
inductive Session.Change (c : ServerSettings) (s : Server) (place : Nat) (session : Session) :
    Label → Session → Prop where
  | nothing {label : Label} (h : ¬ label.Concerns place session.client) :
      Change c s place session label session
  | client (action : PeerAction) :
      Change c s place session (.client session.client action)
        (session.on (session.wires.clientActs action))
  | backend (action : PeerAction) :
      Change c s place session (.backend place action)
        (session.on (session.wires.backendActs action))
  | leaves (t : Turn) (membership : Membership) (he : session.isEnded = true) :
      Change c s place session (.poll place t) { session with membership }
  | polls {next : Session} {t : Turn}
      (hp : session.poll c.session s.now s.registry.cancelled t = some next) :
      Change c s place session (.poll place t) next

namespace Server

variable {c : ServerSettings} {s s' : Server} {label : Label}

/-- What a new session at a place is to the sessions there are. -/
theorem getElem?_setSession (s : Server) {place : Nat} {old : Session}
    (h : s.sessions[place]? = some old) (new : Session) (p : Nat) :
    (s.setSession place new).sessions[p]? = if p = place then some new else s.sessions[p]? := by
  have hlt : place < s.sessions.length := (List.getElem?_eq_some_iff.mp h).1
  show (s.sessions.set place new)[p]? = _
  rw [List.getElem?_set]
  by_cases hp : p = place
  · subst hp
    rw [if_pos rfl, if_pos hlt, if_pos rfl]
  · rw [if_neg (Ne.symm hp), if_neg hp]

/-- A session that can take its turn gets it. -/
theorem step_of_poll {place : Nat} {t : Turn} {session next : Session}
    (hn : s.sessions[place]? = some session)
    (hp : session.poll c.session s.now s.registry.cancelled t = some next) :
    ∃ s', s.step c (.poll place t) = some s' ∧ s'.sessions[place]? = some next := by
  refine ⟨{ s.setSession place next with registry := noteRoute s.registry next }, ?_,
    (s.getElem?_setSession hn next place).trans (if_pos rfl)⟩
  show s.sessionStep c place t = _
  unfold sessionStep
  simp only [hn, (Session.poll_cases hp).1, hp, Bool.false_eq_true, if_false, Option.map_some]

/-- **A session behind a step** is one from before, changed as the label says, or one that begins. -/
theorem Step.session_cases (h : Step c s label s') {place : Nat} {session' : Session}
    (hn : s'.sessions[place]? = some session') :
    (∃ session, s.sessions[place]? = some session ∧
        Session.Change c s place session label session') ∨
      ∃ a rest, label = .accept ∧ s.queue = a :: rest ∧ place = s.sessions.length ∧
        session' = a.session s.nextId := by
  -- a session that takes the place of the one before it
  have hset {place' : Nat} {old new : Session} (ho : s.sessions[place']? = some old)
      (hl : ∀ client, label.Concerns place client ↔ place' = place)
      (hn : (s.setSession place' new).sessions[place]? = some session')
      (hc : Session.Change c s place' old label new) :
      ∃ session, s.sessions[place]? = some session ∧
        Session.Change c s place session label session' := by
    rw [s.getElem?_setSession ho] at hn
    by_cases hp : place = place'
    · subst hp
      rw [if_pos rfl, Option.some.injEq] at hn
      exact ⟨old, ho, hn ▸ hc⟩
    · rw [if_neg hp] at hn
      exact ⟨session', hn, .nothing fun h => hp ((hl _).mp h).symm⟩
  cases h with
  | advance | arrive | starve | shutdown | drains | takesSlot | fails | resumes | returns =>
    exact Or.inl ⟨session', hn, .nothing fun h => h⟩
  | client number action =>
    have hn' : (s.sessions.map fun session =>
        if session.client = number then session.on (session.wires.clientActs action)
        else session)[place]? = some session' := hn
    rw [List.getElem?_map] at hn'
    obtain ⟨session, hs, rfl⟩ := Option.map_eq_some_iff.mp hn'
    refine Or.inl ⟨session, hs, ?_⟩
    by_cases hc : session.client = number
    · rw [if_pos hc, ← hc]
      exact .client action
    · rw [if_neg hc]
      exact .nothing fun h => hc h.symm
  | backend action h => exact Or.inl (hset h (fun _ => Iff.rfl) hn (.backend action))
  | nobody action h =>
    refine Or.inl ⟨session', hn, .nothing fun e => ?_⟩
    rw [show _ = place from e, hn] at h
    cases h
  | takes hs ha hq hst =>
    rename_i a rest
    have hn' : (s.sessions ++ [a.session s.nextId])[place]? = some session' := hn
    rcases Nat.lt_trichotomy place s.sessions.length with hlt | heq | hgt
    · rw [List.getElem?_append_left hlt] at hn'
      exact Or.inl ⟨session', hn', .nothing fun h => h⟩
    · subst heq
      rw [List.getElem?_append_right (Nat.le_refl _), Nat.sub_self] at hn'
      exact Or.inr ⟨a, rest, rfl, hq, rfl, (Option.some.inj hn').symm⟩
    · rw [List.getElem?_eq_none (by simp; omega)] at hn'
      cases hn'
  | leaves t h he hm => exact Or.inl (hset h (fun _ => Iff.rfl) hn (.leaves t _ he))
  | frees t h he hm => exact Or.inl (hset h (fun _ => Iff.rfl) hn (.leaves t _ he))
  | polls h he hp => exact Or.inl (hset h (fun _ => Iff.rfl) hn (.polls hp))

/-- **A client that waits behind a step** is one from before that has sent what the label says, or one
that has just arrived. -/
theorem Step.queue_cases (h : Step c s label s') {a' : Arrival} (ha : a' ∈ s'.queue) :
    (∃ a ∈ s.queue, a'.client = a.client ∧
        a'.line.source.unread = a.line.source.unread ++ label.clientSends a.client ∧
        a'.line.sink.delivered = a.line.sink.delivered) ∨
      s'.arrivals = s.arrivals + 1 ∧ a'.client = s.arrivals ∧ a'.line = {} := by
  have hsame {label : Label} (hm : a' ∈ s.queue) (hl : label.clientSends a'.client = []) :
      ∃ a ∈ s.queue, a'.client = a.client ∧
        a'.line.source.unread = a.line.source.unread ++ label.clientSends a.client ∧
        a'.line.sink.delivered = a.line.sink.delivered := by
    refine ⟨a', hm, rfl, ?_, rfl⟩
    rw [hl, List.append_nil]
  cases h with
  | advance | backend | nobody | starve | shutdown | drains | takesSlot | fails | resumes | leaves
  | frees | polls => exact Or.inl (hsame ha rfl)
  | takes h ha' hq hs =>
    refine Or.inl (hsame ?_ rfl)
    rw [hq]
    exact List.mem_cons_of_mem _ ha
  | arrive peer h =>
    have ha' : a' ∈ s.queue ++ [{ client := s.arrivals, peer }] := ha
    rcases List.mem_append.mp ha' with ha | ha
    · exact Or.inl (hsame ha rfl)
    · rw [List.mem_singleton.mp ha]
      exact Or.inr ⟨rfl, rfl, rfl⟩
  | client number action =>
    obtain ⟨a, hm, rfl⟩ := List.mem_map.mp ha
    refine Or.inl ⟨a, hm, ?_⟩
    by_cases hc : a.client = number
    · rw [if_pos hc]
      refine ⟨rfl, ?_, Duplex.delivered_act _ action⟩
      show (a.line.act action).source.unread = _ ++ if number = a.client then action.sent else []
      rw [if_pos hc.symm, Duplex.unread_act]
    · rw [if_neg hc]
      refine ⟨rfl, ?_, rfl⟩
      show _ = _ ++ if number = a.client then action.sent else []
      rw [if_neg (Ne.symm hc), List.append_nil]
  | returns hacc hd =>
    obtain ⟨a, hm, rfl⟩ := List.mem_map.mp ha
    exact Or.inl ⟨a, hm, rfl, (List.append_nil _).symm, rfl⟩

/-- No client and no session is ever forgotten. -/
theorem Step.mono (h : Step c s label s') :
    s.arrivals ≤ s'.arrivals ∧ s.sessions.length ≤ s'.sessions.length := by
  have hset (place : Nat) (session : Session) :
      s.sessions.length ≤ (s.setSession place session).sessions.length :=
    Nat.le_of_eq List.length_set.symm
  cases h with
  | advance | nobody | starve | shutdown | drains | takesSlot | fails | resumes | returns =>
    exact ⟨Nat.le_refl _, Nat.le_refl _⟩
  | arrive => exact ⟨Nat.le_succ _, Nat.le_refl _⟩
  | client number action => exact ⟨Nat.le_refl _, Nat.le_of_eq (List.length_map _).symm⟩
  | takes h ha hq hs =>
    refine ⟨Nat.le_refl _, ?_⟩
    show _ ≤ (s.sessions ++ [_]).length
    rw [List.length_append]
    exact Nat.le_add_right _ _
  | backend | leaves | frees | polls => exact ⟨Nat.le_refl _, hset _ _⟩

end Server

/-! ## 3. Observing -/

/-- What has passed on the connections of a server: what each client has sent, by its number; and
what the service has sent on the connection of each session, and what the first read of the session
came to, by its place. -/
structure Traffic where
  client : Nat → Bytes := fun _ => []
  service : Nat → Bytes := fun _ => []
  firstRead : Nat → Option Reading := fun _ => none

/-- What the next step of the session at a place would be the first to read. -/
def Server.firstReading (c : ServerSettings) (s : Server) (place : Nat) : Option Reading :=
  (s.sessions[place]?).bind fun session =>
    if s.registry.cancelled then none else session.firstReading c.session s.now

namespace Traffic

/-- What has been sent each way through the session at a place, that of a client. -/
def sent (t : Traffic) (place client : Nat) : Direction → Bytes
  | .clientToBackend => t.client client
  | .backendToClient => t.service place

/-- The traffic behind a label. A client that has not arrived sends nothing, and neither does the
service of a session that there is not. -/
def after (t : Traffic) (c : ServerSettings) (s : Server) (label : Label) : Traffic where
  client number :=
    if number < s.arrivals then t.client number ++ label.clientSends number
    else t.client number
  service place :=
    if place < s.sessions.length then t.service place ++ label.serviceSends place
    else t.service place
  firstRead place :=
    (t.firstRead place).or (if label.polls place then s.firstReading c place else none)

/-- What is sent through a session that there is comes behind what was sent before. -/
theorem sent_after (t : Traffic) (c : ServerSettings) {s : Server} (label : Label)
    {place client : Nat} (hp : place < s.sessions.length) (hc : client < s.arrivals) :
    (t.after c s label).sent place client =
      fun d => t.sent place client d ++ label.sends place client d := by
  funext d
  cases d with
  | clientToBackend => exact if_pos hc
  | backendToClient => exact if_pos hp

end Traffic

/-- A server with what has passed on its connections. -/
structure Observed where
  server : Server
  traffic : Traffic := {}

namespace Observed

/-- Where a label leads; only what can happen is observed. -/
def happen (c : ServerSettings) (o : Observed) (label : Label) : Observed :=
  match o.server.step c label with
  | some s => ⟨s, o.traffic.after c o.server label⟩
  | none => o

/-- The observed server after some labels. -/
def run (c : ServerSettings) (o : Observed) (labels : List Label) : Observed :=
  labels.foldl (happen c) o

/-- **Observing changes nothing.** -/
theorem server_run (c : ServerSettings) (o : Observed) (labels : List Label) :
    (o.run c labels).server = o.server.run c labels := by
  induction labels generalizing o with
  | nil => rfl
  | cons label labels ih =>
    show ((o.happen c label).run c labels).server =
      ((o.server.step c label).getD o.server).run c labels
    rw [ih]
    unfold happen
    cases o.server.step c label <;> rfl

/-- **What holds at the start and is kept by every step holds at every moment.** -/
theorem run_induct {c : ServerSettings} {P : Observed → Prop}
    (step : ∀ (o : Observed) (s : Server) (label : Label), Server.Step c o.server label s → P o →
      P ⟨s, o.traffic.after c o.server label⟩)
    {o : Observed} (h : P o) (labels : List Label) : P (o.run c labels) := by
  induction labels generalizing o with
  | nil => exact h
  | cons label labels ih =>
    refine ih (o := o.happen c label) ?_
    unfold happen
    cases hs : o.server.step c label with
    | none => exact h
    | some s => exact step o s label (Server.step_cases hs) h

end Observed

end TrafficRouter
