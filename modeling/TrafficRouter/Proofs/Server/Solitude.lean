import TrafficRouter.Proofs.Server.Slots

/-!
# A session by itself

A `Solo` is a session where there is no server: the clock, and what became of the session. What can
happen to it is that time passes, that its client arrives, that its client or its service does
something, and that it has a turn.

The session of the client of a number is such a session, as long as shutdown is not asked for: of all
that happens in a run only its own events change it, and they change it as they would alone.

* `Session.bare_step`: a turn is the same whatever the id, the client's number and the slot are;
* `Server.solo_step`: what a step of the server is to the session;
* `Server.chronicle_eq_scanl`: what a run is to the session.

NOT here: when the session has its turns.
-/

namespace TrafficRouter

/-! ## 1. What a turn does not see -/

namespace Session

/-- The session without what makes it one of many: its id, its client's number and its slot. -/
def bare (s : Session) : Session := { s with id := 0, client := 0, membership := .registered }

variable (c : SessionSettings) (s : Session)

theorem bare_enter (stage : SessionStage) : (s.enter c stage).bare = s.bare.enter c stage := by
  have hstage : s.bare.stage = s.stage := rfl
  unfold enter
  rw [hstage]
  split <;> rfl

theorem bare_dispatch (now : Nat) (opening : Bytes) :
    (s.dispatch c now opening).bare = s.bare.dispatch c now opening := by
  by_cases h : (c.classify opening).backend = .httpLogin
  · rw [dispatch_http c s h, dispatch_http c s.bare h, bare_enter]
    rfl
  · rw [dispatch_of_ne_http c s rfl h, dispatch_of_ne_http c s.bare rfl h, bare_enter]
    rfl

theorem bare_exchanged (x : Exchange) : (s.exchanged c x).bare = s.bare.exchanged c x := by
  unfold exchanged
  split
  · rfl
  · rfl
  · exact bare_enter c s _

theorem bare_replayed (rest : Bytes) : (s.replayed c rest).bare = s.bare.replayed c rest :=
  bare_enter c s _

theorem bare_relayed (r : Relay) : (s.relayed c r).bare = s.bare.relayed c r := by
  unfold relayed
  split
  · exact bare_enter c s _
  · rfl
  · rfl

/-- **A turn is the same** whatever the id, the client's number and the slot of a session are. -/
theorem bare_step (now : Nat) (t : Turn) : s.bare.step c now t = (s.step c now t).map bare := by
  have hstage : s.bare.stage = s.stage := rfl
  have hwires : s.bare.wires = s.wires := rfl
  unfold step
  simp only [hstage, hwires]
  cases s.stage with
  | admitted => exact congrArg some (bare_enter c s _).symm
  | priming deadline =>
    dsimp only
    rcases s.wires.client.source.await c.sniff now deadline with
      ⟨_ | ⟨_ | ⟨b, opening⟩⟩ | fault | _, source⟩
    · rfl
    · rfl
    · exact congrArg some (bare_dispatch c (s.on (s.wires.fromClient source)) now _).symm
    · rfl
    · rfl
  | exchange x =>
    simp only [Option.map_map]
    refine congrArg (Option.map · _) (funext fun next => ?_)
    exact (bare_exchanged c ((s.on next.2.1).count next.2.2) next.1).symm
  | dialling backend opening deadline =>
    dsimp only
    rcases t.dial with _ | _ | fault
    · dsimp only
      split <;> rfl
    · exact congrArg some (bare_enter c (s.on _) _).symm
    · rfl
  | replaying rest =>
    cases rest with
    | nil => exact congrArg some (bare_replayed c s []).symm
    | cons b rest =>
      dsimp only
      rcases s.wires.backend.sink.push (b :: rest) with ⟨_ | fault | rest', sink⟩
      · rfl
      · rfl
      · exact congrArg some (bare_replayed c (s.on (s.wires.toBackend sink)) rest').symm
  | relaying r =>
    simp only [Option.map_map]
    refine congrArg (Option.map · _) (funext fun next => ?_)
    exact (bare_relayed c ((s.on next.2.1).count next.2.2) next.1).symm
  | ended how => rfl

end Session

/-! ## 2. A session where there is no server -/

/-- A session by itself: the clock, and the session, if its client has arrived. -/
structure Solo where
  now : Nat := 0
  session : Option Session := none
  deriving Repr

/-- What can happen to a session. -/
inductive SoloEvent where
  /-- Time passes. -/
  | advance (ms : Nat)
  | arrive
  /-- What its client does. -/
  | client (action : PeerAction)
  /-- What the service does on its connection. -/
  | service (action : PeerAction)
  /-- What the session does. -/
  | turn (t : Turn)
  deriving DecidableEq, Repr

/-- Whether it is something that the session does. -/
def SoloEvent.isTurn : SoloEvent → Bool
  | .turn _ => true
  | .advance _ | .arrive | .client _ | .service _ => false

namespace Solo

/-- What becomes of a session. A client that arrives has a session from then on, which has its first
turn once the client is taken. -/
def happen (c : SessionSettings) (v : Solo) : SoloEvent → Solo
  | .advance ms => { v with now := v.now + ms }
  | .arrive => { v with session := some { id := 0, client := 0, wires := {} } }
  | .client action => { v with session := v.session.map fun s => s.on (s.wires.clientActs action) }
  | .service action => { v with session := v.session.map fun s => s.on (s.wires.backendActs action) }
  | .turn t => { v with session := v.session.map fun s => (s.step c v.now t).getD s }

/-- Whether the session can take a turn. -/
def canTake (c : SessionSettings) (v : Solo) (t : Turn) : Bool :=
  v.session.any fun s => (s.step c v.now t).isSome

end Solo

/-! ## 3. The session of a client -/

namespace Server

/-- A session for every client that has arrived, in order; those that wait have taken no turn yet. -/
def parties (s : Server) : List Session := s.sessions ++ s.queue.map fun a => a.session 0

/-- The session of the client of a number, by itself. -/
def solo (s : Server) (n : Nat) : Solo := ⟨s.now, (s.parties[n]?).map Session.bare⟩

/-- What a label is to the session of the client of a number. Nothing can happen to it before the
client has arrived, no service can do anything before the client is taken, and a session that has
ended has no turn. -/
def eventOf (s : Server) (n : Nat) : Label → Option SoloEvent
  | .advance ms => some (.advance ms)
  | .arrive _ => if n = s.arrivals then some .arrive else none
  | .client number action => if number = n ∧ n < s.arrivals then some (.client action) else none
  | .backend place action =>
    if place = n ∧ n < s.sessions.length then some (.service action) else none
  | .poll place t =>
    if place = n ∧ (s.sessions[n]?).any fun session => !session.isEnded then some (.turn t) else none
  | .starve _ | .shutdown | .accept => none

variable {c : ServerSettings} {s s' : Server} {label : Label} {n : Nat}

theorem Slots.clients (h : Slots c s) : s.parties.map (·.client) = List.range s.arrivals := by
  have htaken := h.taken
  unfold seats at htaken
  rw [List.map_map] at htaken
  unfold parties
  rw [List.map_append, List.map_map]
  exact htaken

/-- The session of the client of a number is its client's. -/
theorem Slots.client_eq (h : Slots c s) {session : Session} (hn : s.parties[n]? = some session) :
    session.client = n := by
  have hget := congrArg (·[n]?) h.clients
  simp only [List.getElem?_map, hn, Option.map_some] at hget
  obtain ⟨hlt, heq⟩ := List.getElem?_eq_some_iff.mp hget.symm
  rw [← heq, List.getElem_range]

theorem Slots.length_parties (h : Slots c s) : s.parties.length = s.arrivals := by
  have hlength := congrArg List.length h.clients
  rwa [List.length_map, List.length_range] at hlength

/-- The session of a client that has been taken. -/
theorem parties_of_taken {session : Session} (hn : s.sessions[n]? = some session) :
    s.parties[n]? = some session := by
  unfold parties
  rw [List.getElem?_append_left (List.getElem?_eq_some_iff.mp hn).1, hn]

/-- A session that is changed, among those of all clients. -/
theorem parties_setSession {place : Nat} {session : Session}
    (hn : s.sessions[place]? = some session) (next : Session) :
    (s.setSession place next).parties = s.parties.set place next := by
  unfold parties
  exact (List.set_append_left place next (List.getElem?_eq_some_iff.mp hn).1).symm

theorem parties_clientActs (s : Server) (number : Nat) (action : PeerAction) :
    (s.clientActs number action).parties = s.parties.map fun session =>
      if session.client = number then session.on (session.wires.clientActs action) else session := by
  unfold parties
  rw [List.map_append, List.map_map]
  show s.sessions.map _ ++ (s.queue.map _).map _ = _
  rw [List.map_map]
  refine congrArg (_ ++ ·) (List.map_congr_left fun a _ => ?_)
  show (if a.client = number then _ else a).session 0 = if a.client = number then _ else a.session 0
  split <;> rfl

/-- A client that is taken has the session that it had while it waited. -/
theorem bare_takeClient {a : Arrival} {rest : List Arrival} (hq : s.queue = a :: rest) :
    (s.takeClient a rest).parties.map Session.bare = s.parties.map Session.bare := by
  unfold parties
  rw [hq, List.map_append, List.map_append]
  show (s.sessions ++ [a.session s.nextId]).map _ ++ _ = _
  rw [List.map_append, List.append_assoc]
  rfl

/-- **A session that changes by a turn or by what is done to it**, among the others. -/
theorem solo_setSession {place : Nat} {session next : Session}
    (hn : s.sessions[place]? = some session) (n : Nat) :
    (s.setSession place next).solo n =
      if place = n then ⟨s.now, some next.bare⟩ else s.solo n := by
  have hlt : place < s.parties.length := (List.getElem?_eq_some_iff.mp (parties_of_taken hn)).1
  unfold solo
  rw [parties_setSession hn, List.getElem?_set, if_pos hlt]
  split <;> rfl

theorem solo_of_taken {session : Session} (hn : s.sessions[n]? = some session) :
    s.solo n = ⟨s.now, some session.bare⟩ := by
  unfold solo
  rw [parties_of_taken hn]
  rfl

/-- A client that has not arrived has no session. -/
theorem solo_of_absent (h : Slots c s) (hn : s.arrivals ≤ n) : s.solo n = ⟨s.now, none⟩ := by
  unfold solo
  rw [List.getElem?_eq_none (h.length_parties ▸ hn)]
  rfl

theorem Slots.solo_arrive (h : Slots c s) (peer : SocketAddress) (n : Nat) :
    solo { s with queue := s.queue ++ [{ client := s.arrivals, peer }], arrivals := s.arrivals + 1 } n =
      if n = s.arrivals then (s.solo n).happen c.session .arrive else s.solo n := by
  have hparties : parties { s with
        queue := s.queue ++ [{ client := s.arrivals, peer }], arrivals := s.arrivals + 1 } =
      s.parties ++ [Arrival.session { client := s.arrivals, peer } 0] := by
    unfold parties
    rw [List.map_append, List.append_assoc]
    rfl
  unfold solo
  rw [hparties, List.getElem?_append, h.length_parties, List.getElem?_singleton]
  rcases Nat.lt_trichotomy n s.arrivals with hlt | rfl | hgt
  · rw [if_pos hlt, if_neg (Nat.ne_of_lt hlt)]
  · rw [if_neg (Nat.lt_irrefl _), if_pos (Nat.sub_self _), if_pos rfl]
    rfl
  · rw [if_neg (Nat.lt_asymm hgt), if_neg (by omega), if_neg (Nat.ne_of_gt hgt),
      List.getElem?_eq_none (by rw [h.length_parties]; omega)]

theorem Slots.solo_clientActs (h : Slots c s) (number : Nat) (action : PeerAction) (n : Nat) :
    (s.clientActs number action).solo n =
      if number = n ∧ n < s.arrivals then (s.solo n).happen c.session (.client action)
      else s.solo n := by
  unfold solo
  rw [parties_clientActs, List.getElem?_map]
  cases hn : s.parties[n]? with
  | none => split <;> rfl
  | some session =>
    -- clients are numbered in the order of their arrival, so that a number says whose session it is
    have hlt : n < s.arrivals := h.length_parties ▸ (List.getElem?_eq_some_iff.mp hn).1
    rw [Option.map_some, h.client_eq hn]
    by_cases hnumber : number = n
    · rw [if_pos hnumber.symm, if_pos ⟨hnumber, hlt⟩]
      rfl
    · rw [if_neg (Ne.symm hnumber), if_neg fun hboth => hnumber hboth.1]
      rfl

/-- **What a step of the server is to the session of a client**: what its own event makes of it, if the
label is one, and nothing otherwise. -/
theorem solo_step (h : Slots c s) (hs : s.shutdown = false) (hstep : Step c s label s') (n : Nat) :
    s'.solo n = (s.eventOf n label).elim (s.solo n) ((s.solo n).happen c.session) := by
  have htaking := h.isTaking hs
  cases hstep with
  | advance | starve | shutdown | takesSlot | fails | resumes => rfl
  | arrive peer hr =>
    refine (h.solo_arrive peer n).trans ?_
    unfold eventOf
    dsimp only
    split <;> rfl
  | client number action =>
    refine (h.solo_clientActs number action n).trans ?_
    unfold eventOf
    dsimp only
    split <;> rfl
  | nobody action hn =>
    rename_i place
    unfold eventOf
    dsimp only
    rw [if_neg]
    · rfl
    · rintro ⟨rfl, hlt⟩
      rw [List.getElem?_eq_getElem hlt] at hn
      cases hn
  | backend action hn =>
    rename_i place session
    rw [solo_setSession hn]
    unfold eventOf
    dsimp only
    by_cases hplace : place = n
    · subst hplace
      rw [if_pos rfl, if_pos ⟨rfl, (List.getElem?_eq_some_iff.mp hn).1⟩, solo_of_taken hn]
      rfl
    · rw [if_neg hplace, if_neg fun hboth => hplace hboth.1]
      rfl
  | drains hshutdown =>
    rw [hs] at hshutdown
    cases hshutdown
  | returns ha =>
    rw [ha] at htaking
    cases htaking
  | takes _ _ hq =>
    have hbare := congrArg (·[n]?) (bare_takeClient hq)
    simp only [List.getElem?_map] at hbare
    unfold solo
    rw [hbare]
    rfl
  | leaves t hn he | frees t hn he =>
    rename_i place session hm
    have hno : ¬ (place = n ∧ (s.sessions[n]?).any (fun session => !session.isEnded) = true) := by
      rintro ⟨rfl, hany⟩
      rw [hn, Option.any_some, he] at hany
      cases hany
    refine (solo_setSession hn n).trans ?_
    unfold eventOf
    dsimp only
    rw [if_neg hno]
    split
    · next hplace => exact hplace ▸ (solo_of_taken hn).symm
    · rfl
  | polls hn he hp =>
    rename_i place session next t
    refine (solo_setSession hn n).trans ?_
    unfold eventOf
    dsimp only
    by_cases hplace : place = n
    · subst hplace
      rw [if_pos rfl, if_pos ⟨rfl, by rw [hn, Option.any_some, he]; rfl⟩, solo_of_taken hn]
      rw [h.not_cancelled hs, Session.poll_running] at hp
      show _ = Solo.mk s.now (some ((session.bare.step c.session s.now t).getD session.bare))
      rw [Session.bare_step, hp]
      rfl
    · rw [if_neg hplace, if_neg fun hboth => hplace hboth.1]
      rfl

/-- Shutdown is asked for by its label alone. -/
theorem Step.shutdown_eq (h : Step c s label s') (hl : label ≠ .shutdown) :
    s'.shutdown = s.shutdown := by
  cases h with
  | shutdown => exact absurd rfl hl
  | advance | arrive | client | backend | nobody | starve | drains | takesSlot | fails | takes
  | resumes | returns | leaves | frees | polls => rfl

end Server

/-! ## 4. Runs -/

/-- A moment of a run: what has happened to a session before, the server, and what happens to the
session next, unless the run ends. -/
structure Moment where
  past : List SoloEvent
  server : Server
  next : Option SoloEvent

namespace Server

/-- The moments of a run at which something happens to the session of the client of a number, and the
end of the run. -/
def moments (c : ServerSettings) (n : Nat) : List SoloEvent → Server → List Label → List Moment
  | past, s, [] => [⟨past, s, none⟩]
  | past, s, label :: labels =>
    match s.step c label with
    | none => moments c n past s labels
    | some s' =>
      match s.eventOf n label with
      | none => moments c n past s' labels
      | some e => ⟨past, s, some e⟩ :: moments c n (past ++ [e]) s' labels

/-- What happens to the session of the client of a number in a run from the start. -/
def events (c : ServerSettings) (n : Nat) (labels : List Label) : List SoloEvent :=
  (moments c n [] (start c) labels).filterMap (·.next)

/-- What the session of the client of a number is in a run from the start: before each thing that
happens to it, and at the end. -/
def chronicle (c : ServerSettings) (n : Nat) (labels : List Label) : List Solo :=
  (moments c n [] (start c) labels).map fun m => m.server.solo n

variable {c : ServerSettings} {n : Nat} {s : Server} {label : Label} {labels : List Label}

/-- **What a label of a run is to the session of a client**: nothing, or one of its moments. -/
theorem moments_cons_cases (h : Slots c s) (hs : s.shutdown = false) (hl : label ≠ .shutdown) (n : Nat)
    (past : List SoloEvent) (labels : List Label) :
    let s' := (s.step c label).getD s
    Slots c s' ∧ s'.shutdown = false ∧
      (moments c n past s (label :: labels) = moments c n past s' labels ∧ s'.solo n = s.solo n ∨
        ∃ e, Step c s label s' ∧ s.eventOf n label = some e ∧
          moments c n past s (label :: labels) =
            ⟨past, s, some e⟩ :: moments c n (past ++ [e]) s' labels ∧
          s'.solo n = (s.solo n).happen c.session e) := by
  cases hs' : s.step c label with
  | none => exact ⟨h, hs, Or.inl ⟨by simp only [moments, hs', Option.getD_none], rfl⟩⟩
  | some s' =>
    have hstep := step_cases hs'
    have hsolo := solo_step h hs hstep n
    refine ⟨h.step s s' label hstep, (hstep.shutdown_eq hl).trans hs, ?_⟩
    cases he : s.eventOf n label with
    | none =>
      rw [he] at hsolo
      exact Or.inl ⟨by simp only [moments, hs', he, Option.getD_some], hsolo⟩
    | some e =>
      rw [he] at hsolo
      exact Or.inr ⟨e, hstep, rfl, by simp only [moments, hs', he, Option.getD_some], hsolo⟩

/-- **What a run is to the session of a client**: what its own events make of it by itself. -/
theorem solo_moments (h : Slots c s) (hs : s.shutdown = false) (hl : .shutdown ∉ labels)
    (past : List SoloEvent) :
    (moments c n past s labels).map (fun m => m.server.solo n) =
      ((moments c n past s labels).filterMap (·.next)).scanl (Solo.happen c.session) (s.solo n) := by
  induction labels generalizing past s with
  | nil => exact List.scanl_nil.symm
  | cons label labels ih =>
    have hlabel : label ≠ .shutdown := (List.ne_of_not_mem_cons hl).symm
    have hrest : .shutdown ∉ labels := List.not_mem_of_not_mem_cons hl
    obtain ⟨hslots, hrunning, ⟨hmoments, hsolo⟩ | ⟨e, -, -, hmoments, hsolo⟩⟩ :=
      moments_cons_cases h hs hlabel n past labels
    · rw [hmoments, ih hslots hrunning hrest, hsolo]
    · rw [hmoments, List.map_cons, ih hslots hrunning hrest, hsolo,
        List.filterMap_cons_some (f := fun m : Moment => m.next) rfl, List.scanl_cons]

theorem chronicle_eq_scanl (hl : .shutdown ∉ labels) :
    chronicle c n labels = (events c n labels).scanl (Solo.happen c.session) {} :=
  solo_moments (slots_run c []) rfl hl []

end Server

end TrafficRouter
