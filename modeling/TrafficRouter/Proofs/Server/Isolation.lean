import TrafficRouter.Proofs.Server.Solitude

/-!
# Sessions do not interfere

What a session is at every moment follows from its own events (`Server.chronicle_eq_scanl`). Its turns
among them are the server's doing: a session is given its turns when the server has the time, and the
first of them not before its client is taken. Where the server is prompt, so that neither time passes
nor anything happens to the session while it or the accept loop could still do something for it, its
turns follow from what happens to it from outside (`Solo.Course.unique`), and nothing else in the run
matters. The exception is the pause behind an accept that failed, which a client that comes next has to
wait for.

* `Solo.Course`: a session that takes every turn it can, before anything else happens;
* `Server.Prompt`, `Server.Unhindered`: servers that are prompt, and clients that no pause hinders;
* `Server.course_run`: the session of such a client of such a server takes every turn it can;
* `sessions_do_not_interfere`: two runs with the same events of a session;
* `sessions_interfere_pausing`: what the pause does.

NOT here: what the session does with its turns.
-/

namespace TrafficRouter

/-! ## 1. Sessions that take every turn -/

/-- **A session that takes every turn it can**, chosen by what has happened to it, before anything else
happens: from a state that `past` has led to, the events that follow. -/
inductive Solo.Course (c : SessionSettings) (choose : List SoloEvent → Turn) :
    List SoloEvent → Solo → List SoloEvent → Prop where
  | ends {past : List SoloEvent} {v : Solo} (h : v.canTake c (choose past) = false) :
      Solo.Course c choose past v []
  | turn {past : List SoloEvent} {v : Solo} {events : List SoloEvent}
      (h : v.canTake c (choose past) = true)
      (rest : Solo.Course c choose (past ++ [.turn (choose past)])
        (v.happen c (.turn (choose past))) events) :
      Solo.Course c choose past v (.turn (choose past) :: events)
  | outside {past : List SoloEvent} {v : Solo} {e : SoloEvent} {events : List SoloEvent}
      (h : v.canTake c (choose past) = false) (he : e.isTurn = false)
      (rest : Solo.Course c choose (past ++ [e]) (v.happen c e) events) :
      Solo.Course c choose past v (e :: events)

/-- What happens to a session from outside. -/
def SoloEvent.outer (events : List SoloEvent) : List SoloEvent := events.filter (!·.isTurn)

theorem SoloEvent.outer_turn (t : Turn) (events : List SoloEvent) :
    outer (.turn t :: events) = outer events :=
  rfl

theorem SoloEvent.outer_cons {e : SoloEvent} (h : e.isTurn = false) (events : List SoloEvent) :
    outer (e :: events) = e :: outer events :=
  List.filter_cons_of_pos (by rw [h]; rfl)

/-- **The turns follow from what happens from outside.** -/
theorem Solo.Course.unique {c : SessionSettings} {choose : List SoloEvent → Turn}
    {past : List SoloEvent} {v : Solo} {events events' : List SoloEvent} (h : Course c choose past v events)
    (h' : Course c choose past v events') (ho : SoloEvent.outer events = SoloEvent.outer events') :
    events = events' := by
  induction h generalizing events' with
  | ends hno =>
    cases h' with
    | ends => rfl
    | turn hyes =>
      rw [hno] at hyes
      cases hyes
    | outside _ he =>
      rw [SoloEvent.outer_cons he] at ho
      cases ho
  | turn hyes _ ih =>
    cases h' with
    | turn _ rest =>
      rw [SoloEvent.outer_turn, SoloEvent.outer_turn] at ho
      rw [ih rest ho]
    | ends hno | outside hno =>
      rw [hyes] at hno
      cases hno
  | outside hno he _ ih =>
    cases h' with
    | ends =>
      rw [SoloEvent.outer_cons he] at ho
      cases ho
    | turn hyes =>
      rw [hno] at hyes
      cases hyes
    | outside _ he' rest =>
      rw [SoloEvent.outer_cons he, SoloEvent.outer_cons he', List.cons.injEq] at ho
      obtain ⟨rfl, ho⟩ := ho
      rw [ih rest ho]

/-! ## 2. Servers that are prompt -/

namespace Server

/-- Whether the client of a number has arrived and has not been taken. -/
def waits (s : Server) (n : Nat) : Bool := s.sessions.length ≤ n && n < s.arrivals

/-- Whether the accept loop pauses behind an accept that failed. -/
def isPausing (s : Server) : Bool :=
  match s.accept with
  | .pausing _ => true
  | _ => false

/-- Whether there is nothing that the server can do for the client of a number: no step of the accept
loop while the client waits, and not the given turn of its session. -/
def rests (c : ServerSettings) (s : Server) (n : Nat) (t : Turn) : Bool :=
  (!s.waits n || (s.acceptStep c).isNone) &&
    (s.sessions[n]?).all fun session =>
      (session.poll c.session s.now s.registry.cancelled t).isNone

end Server

/-- Whether a session has at a moment the turn that is chosen by what has happened to it, or there is
nothing that the server can do for it. -/
def Moment.isPrompt (c : ServerSettings) (choose : List SoloEvent → Turn) (n : Nat) (m : Moment) :
    Bool :=
  match m.next with
  | some (.turn t) => t = choose m.past
  | _ => m.server.rests c n (choose m.past)

/-- Whether at a moment the accept loop pauses while a client waits. -/
def Moment.isHindered (n : Nat) (m : Moment) : Bool := m.server.waits n && m.server.isPausing

namespace Server

/-- **A run with a slot for everyone, and prompt for the session of the client of a number**: the
session takes the turns that are chosen by what has happened to it, and nothing else happens to it, no
time passes and the run does not end while there is something that the server can do for it. -/
structure Prompt (c : ServerSettings) (choose : List SoloEvent → Turn) (n : Nat)
    (labels : List Label) : Prop where
  room : ((start c).run c labels).arrivals ≤ c.slots
  served : ∀ m ∈ moments c n [] (start c) labels, m.isPrompt c choose n = true

/-- **A run in which no pause hinders the client of a number**: nothing happens to its session, no time
passes and the run does not end while it waits for the end of a pause. -/
def Unhindered (c : ServerSettings) (n : Nat) (labels : List Label) : Prop :=
  ∀ m ∈ moments c n [] (start c) labels, m.isHindered n = false

/-! ## 3. Turns of a prompt server -/

variable {c : ServerSettings} {s s' : Server} {label : Label} {n : Nat} {t : Turn}

theorem canTake_solo {session : Session} (hn : s.sessions[n]? = some session) :
    (s.solo n).canTake c.session t = (session.step c.session s.now t).isSome := by
  rw [solo_of_taken hn]
  show (session.bare.step c.session s.now t).isSome = _
  rw [Session.bare_step, Option.isSome_map]

/-- A turn of a session is a step of it. -/
theorem eventOf_turn (he : s.eventOf n label = some (.turn t)) :
    label = .poll n t ∧ ∃ session, s.sessions[n]? = some session ∧ session.isEnded = false := by
  cases label with
  | poll place t' =>
    unfold eventOf at he
    dsimp only at he
    split at he
    · next hturn =>
      obtain ⟨rfl, hany⟩ := hturn
      obtain rfl : t' = t := by simpa using he
      cases hn : s.sessions[place]? with
      | none =>
        rw [hn] at hany
        cases hany
      | some session =>
        rw [hn, Option.any_some, Bool.not_eq_true'] at hany
        exact ⟨rfl, session, rfl, hany⟩
    · cases he
  | advance | starve | shutdown | accept => cases he
  | arrive | client | backend =>
    unfold eventOf at he
    dsimp only at he
    split at he <;> cases he

/-- A turn that a session has it could take. -/
theorem canTake_of_step (h : Slots c s) (hs : s.shutdown = false)
    (hstep : Step c s label s') (he : s.eventOf n label = some (.turn t)) :
    (s.solo n).canTake c.session t = true := by
  obtain ⟨rfl, session, hn, hended⟩ := eventOf_turn he
  have hsame {session' : Session} (hn' : s.sessions[n]? = some session') : session' = session :=
    Option.some.inj (hn'.symm.trans hn)
  cases hstep with
  | leaves _ hn' he' | frees _ hn' he' =>
    rw [hsame hn', hended] at he'
    cases he'
  | polls hn' _ hp =>
    rw [hsame hn', h.not_cancelled hs, Session.poll_running] at hp
    rw [canTake_solo hn, hp]
    rfl

/-- **A client for whom there is a slot does not wait** for a loop that can do nothing, unless the loop
pauses. -/
theorem not_waits (h : Slots c s) (hs : s.shutdown = false) (hroom : s.arrivals ≤ c.slots)
    (hnone : s.acceptStep c = none) (hp : s.isPausing = false) : s.waits n = false := by
  have hlength := h.length_parties
  unfold parties at hlength
  rw [List.length_append, List.length_map] at hlength
  cases hw : s.waits n with
  | false => rfl
  | true =>
    unfold waits at hw
    rw [Bool.and_eq_true, decide_eq_true_eq, decide_eq_true_eq] at hw
    rcases acceptStep_none_cases hnone hs (h.isTaking hs) with
      ⟨hidle, hfree⟩ | ⟨-, hempty⟩ | ⟨resumeAt, hpausing⟩
    · -- all slots would be held by fewer sessions than there are slots
      have hheld := Seat.held_le_length s.seats
      have hconserved := h.conserved
      have hseats : s.seats.length = s.sessions.length := List.length_map _
      rw [hidle, hfree] at hconserved
      have hzero : AcceptStage.idle.slots = 0 := rfl
      omega
    · rw [hempty, List.length_nil] at hlength
      omega
    · unfold isPausing at hp
      rw [hpausing] at hp
      cases hp

/-- **A session that the server can do nothing for can take no turn**, if no pause hinders its
client. -/
theorem canTake_of_rests (h : Slots c s) (hs : s.shutdown = false) (hroom : s.arrivals ≤ c.slots)
    (hrests : s.rests c n t = true) (hp : (s.waits n && s.isPausing) = false) :
    (s.solo n).canTake c.session t = false := by
  unfold rests at hrests
  obtain ⟨hloop, hsession⟩ := Bool.and_eq_true_iff.mp hrests
  have hwaits : s.waits n = false := by
    cases hw : s.waits n with
    | false => rfl
    | true =>
      rw [hw] at hloop hp
      have hnone := not_waits h hs hroom (n := n) (Option.isNone_iff_eq_none.mp hloop) hp
      rw [hw] at hnone
      cases hnone
  cases hn : s.sessions[n]? with
  | some session =>
    rw [hn, Option.all_some, h.not_cancelled hs, Session.poll_running] at hsession
    rw [canTake_solo hn, Option.isSome_eq_false_iff]
    exact hsession
  | none =>
    rw [List.getElem?_eq_none_iff] at hn
    unfold waits at hwaits
    have habsent : s.arrivals ≤ n := by
      simpa [hn] using hwaits
    rw [solo_of_absent h habsent]
    rfl

/-- No client is ever forgotten. -/
theorem arrivals_le_run (s : Server) (labels : List Label) :
    s.arrivals ≤ (s.run c labels).arrivals :=
  run_induct (P := fun u => s.arrivals ≤ u.arrivals)
    (fun _ _ _ hstep h => Nat.le_trans h hstep.mono.1) (Nat.le_refl _) labels

/-- **The session of a client that is served promptly and not hindered takes every turn it can.** -/
theorem course_run {choose : List SoloEvent → Turn} {labels : List Label} (h : Slots c s)
    (hs : s.shutdown = false) (hl : .shutdown ∉ labels)
    (hroom : (s.run c labels).arrivals ≤ c.slots) {past : List SoloEvent}
    (hserved : ∀ m ∈ moments c n past s labels, m.isPrompt c choose n = true)
    (hfree : ∀ m ∈ moments c n past s labels, m.isHindered n = false) :
    Solo.Course c.session choose past (s.solo n)
      ((moments c n past s labels).filterMap (·.next)) := by
  induction labels generalizing past s with
  | nil =>
    have hrests := hserved _ (List.mem_singleton.mpr rfl)
    have hnot := hfree _ (List.mem_singleton.mpr rfl)
    exact .ends (canTake_of_rests h hs hroom hrests hnot)
  | cons label labels ih =>
    have hlabel : label ≠ .shutdown := (List.ne_of_not_mem_cons hl).symm
    have hrest : .shutdown ∉ labels := List.not_mem_of_not_mem_cons hl
    rw [run_cons] at hroom
    obtain ⟨hslots, hrunning, ⟨hmoments, hsolo⟩ | ⟨e, hstep, he, hmoments, hsolo⟩⟩ :=
      moments_cons_cases h hs hlabel n past labels
    · rw [hmoments] at hserved hfree ⊢
      rw [← hsolo]
      exact ih hslots hrunning hrest hroom hserved hfree
    · rw [hmoments] at hserved hfree ⊢
      rw [List.filterMap_cons_some (f := fun m : Moment => m.next) rfl]
      have hcourse := ih hslots hrunning hrest hroom
        (fun m hm => hserved m (List.mem_cons_of_mem _ hm))
        (fun m hm => hfree m (List.mem_cons_of_mem _ hm))
      rw [hsolo] at hcourse
      have hprompt := hserved _ List.mem_cons_self
      have hnot := hfree _ List.mem_cons_self
      cases e with
      | turn t =>
        obtain rfl : t = choose past := of_decide_eq_true hprompt
        exact .turn (canTake_of_step h hs hstep he) hcourse
      | advance | arrive | client | service =>
        have harrivals := Nat.le_trans hstep.mono.1 (Nat.le_trans (arrivals_le_run _ _) hroom)
        exact .outside (canTake_of_rests h hs harrivals hprompt hnot) rfl hcourse

end Server

/-! ## 4. Two runs -/

/-- **Sessions do not interfere.** Take two runs with the same settings in which shutdown is not asked
for, and a client of each, where the two runs have nothing else in common.

If the same happens to the two sessions, turns included, then they are the same before each thing that
happens to them and at the end: their first bytes and protocol, the services they call, what their
connections have delivered to the client and to the service and when, what they count, and how they
end.

The turns need not be assumed. Where there is a slot for every client, the turns are chosen in both
runs by what has happened to the session, both runs are prompt for it, and in neither of them the
client waits for the end of a pause of the accept loop, it is enough that the same happens to the two
sessions from outside. -/
theorem sessions_do_not_interfere (c : ServerSettings) (n n' : Nat) (labels labels' : List Label)
    (hl : .shutdown ∉ labels) (hl' : .shutdown ∉ labels') :
    let events := Server.events c n labels
    let events' := Server.events c n' labels'
    let chronicle := Server.chronicle c n labels
    let chronicle' := Server.chronicle c n' labels'
    (events = events' → chronicle = chronicle') ∧
      ∀ choose, Server.Prompt c choose n labels → Server.Prompt c choose n' labels' →
        Server.Unhindered c n labels → Server.Unhindered c n' labels' →
        SoloEvent.outer events = SoloEvent.outer events' →
          events = events' ∧ chronicle = chronicle' := by
  intro events events' chronicle chronicle'
  have hsame (he : events = events') : chronicle = chronicle' := by
    have he : Server.events c n labels = Server.events c n' labels' := he
    show Server.chronicle c n labels = Server.chronicle c n' labels'
    rw [Server.chronicle_eq_scanl hl, Server.chronicle_eq_scanl hl', he]
  refine ⟨hsame, fun choose hprompt hprompt' hfree hfree' ho => ?_⟩
  have hstart : Server.Slots c (.start c) := Server.slots_run c []
  have hcourse : Solo.Course c.session choose [] {} events :=
    Server.course_run hstart rfl hl hprompt.room hprompt.served hfree
  have hcourse' : Solo.Course c.session choose [] {} events' :=
    Server.course_run hstart rfl hl' hprompt'.room hprompt'.served hfree'
  have he := hcourse.unique hcourse' ho
  exact ⟨he, hsame he⟩

/-! ## 5. A player -/

/-- More turns than the session at a place takes, with a service that takes its call. -/
def acceptedTurns (place : Nat) : List Label :=
  List.replicate 4 (.poll place ⟨.clientToBackend, some .accepted⟩)

/-- A player alone. For a while before it arrives accepts would have failed. -/
def playerAlone : List Label :=
  [.accept, .starve true, .starve false, .arrive { ip := .v4 10 0 0 1, port := 40000 }, .accept] ++
    acceptedTurns 0 ++ [.client 0 (.send [200, 0, 7])] ++ acceptedTurns 0 ++ [.advance 50]

/-- The player with another client before it, who is served at the same time. -/
def playerBeside : List Label :=
  [.accept, .arrive { ip := .v4 10 0 0 2, port := 40000 }, .accept, .accept,
      .arrive { ip := .v4 10 0 0 1, port := 40000 }, .accept] ++
    acceptedTurns 1 ++ [.poll 0 ⟨.backendToClient, none⟩, .client 0 (.send [20, 0]),
      .client 1 (.send [200, 0, 7]), .poll 0 ⟨.backendToClient, none⟩] ++
    acceptedTurns 1 ++ [.client 0 .finish] ++ acceptedTurns 0 ++ [.advance 50]

/-- The player with another client before it, whose accept fails. -/
def playerBehindFailure : List Label :=
  [.accept, .starve true, .arrive { ip := .v4 10 0 0 2, port := 40000 }, .accept, .starve false,
      .arrive { ip := .v4 10 0 0 1, port := 40000 }, .client 1 (.send [200, 0, 7]), .advance 50] ++
    List.replicate 5 .accept ++ acceptedTurns 1

/-- Another client that is served at the same time makes no difference. -/
theorem sessions_do_not_interfere_player :
    let c := ServerSettings.ofSettings {}
    let choose : List SoloEvent → Turn := fun _ => ⟨.clientToBackend, some .accepted⟩
    .shutdown ∉ playerAlone ∧ .shutdown ∉ playerBeside ∧
      Server.Prompt c choose 0 playerAlone ∧ Server.Prompt c choose 1 playerBeside ∧
      Server.Unhindered c 0 playerAlone ∧ Server.Unhindered c 1 playerBeside ∧
      SoloEvent.outer (Server.events c 0 playerAlone) =
        SoloEvent.outer (Server.events c 1 playerBeside) ∧
      Server.chronicle c 0 playerAlone = Server.chronicle c 1 playerBeside := by
  intro c choose
  have hl : .shutdown ∉ playerAlone := by decide
  have hl' : .shutdown ∉ playerBeside := by decide
  have hprompt : Server.Prompt c choose 0 playerAlone := ⟨by decide +kernel, by decide +kernel⟩
  have hprompt' : Server.Prompt c choose 1 playerBeside := ⟨by decide +kernel, by decide +kernel⟩
  have hfree : Server.Unhindered c 0 playerAlone := by
    unfold Server.Unhindered
    decide +kernel
  have hfree' : Server.Unhindered c 1 playerBeside := by
    unfold Server.Unhindered
    decide +kernel
  have ho : SoloEvent.outer (Server.events c 0 playerAlone) =
      SoloEvent.outer (Server.events c 1 playerBeside) := by
    decide +kernel
  have hsame := (sessions_do_not_interfere c 0 1 playerAlone playerBeside hl hl').2 choose hprompt
    hprompt' hfree hfree' ho
  exact ⟨hl, hl', hprompt, hprompt', hfree, hfree', ho, hsame.2⟩

/-- What the service of a session has got at a time. -/
def Solo.delivered (v : Solo) : Nat × Bytes :=
  (v.now, (v.session.map (·.wires.backend.sink.delivered)).getD [])

/-- **A client whose accept fails holds up the next one.** The same happens to the player from outside,
with a slot for everyone and a prompt server, and accepts fail at the same time in both runs; but its
service gets its bytes 50 milliseconds later. -/
theorem sessions_interfere_pausing :
    let c := ServerSettings.ofSettings {}
    let choose : List SoloEvent → Turn := fun _ => ⟨.clientToBackend, some .accepted⟩
    .shutdown ∉ playerAlone ∧ .shutdown ∉ playerBehindFailure ∧
      Server.Prompt c choose 0 playerAlone ∧ Server.Prompt c choose 1 playerBehindFailure ∧
      SoloEvent.outer (Server.events c 0 playerAlone) =
        SoloEvent.outer (Server.events c 1 playerBehindFailure) ∧
      (0, [200, 0, 7]) ∈ (Server.chronicle c 0 playerAlone).map (·.delivered) ∧
      (∀ v ∈ Server.chronicle c 1 playerBehindFailure, v.now < 50 → v.delivered = (0, [])) ∧
      Server.chronicle c 0 playerAlone ≠ Server.chronicle c 1 playerBehindFailure := by
  intro c choose
  have hearly : (0, [200, 0, 7]) ∈ (Server.chronicle c 0 playerAlone).map (·.delivered) := by
    decide +kernel
  have hlate : ∀ v ∈ Server.chronicle c 1 playerBehindFailure,
      v.now < 50 → v.delivered = (0, []) := by
    decide +kernel
  refine ⟨by decide, by decide, ⟨by decide +kernel, by decide +kernel⟩,
    ⟨by decide +kernel, by decide +kernel⟩, by decide +kernel, hearly, hlate, fun hsame => ?_⟩
  rw [hsame] at hearly
  obtain ⟨v, hv, hdelivered⟩ := List.mem_map.mp hearly
  have hnow : v.now = 0 := congrArg Prod.fst hdelivered
  rw [hlate v hv (by omega)] at hdelivered
  cases hdelivered

end TrafficRouter
