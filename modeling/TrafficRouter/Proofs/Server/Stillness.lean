import TrafficRouter.Proofs.Server.Integrity
import TrafficRouter.Proofs.Server.Slots

/-!
# Sessions that do nothing more

A session that has been told to end, or has ended, reads, calls, writes and counts nothing any more,
whatever happens to its server: what still arrives for it stays unread (`Session.Still`). A session
that waits does nothing either until something arrives for it or it is told to end.

* `Session.Change.still`, `Server.still_run`: once sessions are told to end, all of them are still;
* `Server.Unmoved.step`, `Server.still_of_waiting`: a session that waits is still while the server takes
its steps.

NOT here: when sessions are told to end.
-/

namespace TrafficRouter

/-! ## 1. One session -/

/-- **A session that has done nothing more**, while each way through it more has arrived. -/
structure Session.Still (more : Direction → Bytes) (s s' : Session) : Prop where
  client : s'.client = s.client
  route : s'.route = s.route
  calls : s'.calls = s.calls
  /-- A connection to a service is not made. -/
  absent : s'.wires.backend.hold = .absent ↔ s.wires.backend.hold = .absent
  ledger : s'.ledger = s.ledger
  delivered : ∀ d, (s'.wires.sinkOf d).delivered = (s.wires.sinkOf d).delivered
  unread : ∀ d, (s'.wires.sourceOf d).unread = (s.wires.sourceOf d).unread ++ more d

namespace Session

variable {c : ServerSettings} {server : Server} {place : Nat} {label : Label}
  {more more' : Direction → Bytes} {s s' s'' : Session}

theorem Still.refl (s : Session) : Still (fun _ => []) s s :=
  ⟨rfl, rfl, rfl, Iff.rfl, rfl, fun _ => rfl, fun _ => (List.append_nil _).symm⟩

theorem Still.trans (h : Still more s s') (h' : Still more' s' s'') :
    Still (fun d => more d ++ more' d) s s'' where
  client := h'.client.trans h.client
  route := h'.route.trans h.route
  calls := h'.calls.trans h.calls
  absent := h'.absent.trans h.absent
  ledger := h'.ledger.trans h.ledger
  delivered d := (h'.delivered d).trans (h.delivered d)
  unread d := by rw [h'.unread, h.unread, List.append_assoc]

theorem Outside.still (h : Outside more s s') : Still more s s' :=
  ⟨h.client, h.route, h.calls, by rw [h.hold], h.ledger, h.delivered, h.unread⟩

/-- To end where one stands is to do nothing more. -/
theorem still_finish (s : Session) (how : SessionEnd) : Still (fun _ => []) s (s.finish how) := by
  refine ⟨rfl, rfl, rfl, Duplex.hold_release_eq_absent _, rfl, fun d => ?_, fun d => ?_⟩
  · exact congrArg Sink.delivered (Wires.sinkOf_release _ d)
  · rw [List.append_nil]
    exact congrArg Source.unread (Wires.sourceOf_release _ d)

/-- **A session that has ended or is told to end is still**, whatever a label does. -/
theorem Change.still (h : Change c server place s label s')
    (hq : s.isEnded = true ∨ server.registry.cancelled = true) :
    Still (label.sends place s.client) s s' := by
  rcases h.outside with ⟨turn, rfl, hp⟩ | ⟨ho, -⟩
  · obtain ⟨hended, hcases⟩ := poll_cases hp
    rw [Label.sends_poll]
    rcases hcases with ⟨-, rfl⟩ | ⟨hcancelled, -⟩
    · exact still_finish s .cancelled
    · rcases hq with hq | hq
      · rw [hended] at hq
        cases hq
      · rw [hcancelled] at hq
        cases hq
  · exact ho.still

/-- A session that has ended stays so. -/
theorem Change.isEnded (h : Change c server place s label s') (he : s.isEnded = true) :
    s'.isEnded = true := by
  cases h with
  | nothing | client | backend | leaves => exact he
  | polls hp =>
    obtain ⟨hended, -⟩ := poll_cases hp
    rw [he] at hended
    cases hended

/-- A session stays its client's. -/
theorem Change.client_eq (h : Change c server place s label s') : s'.client = s.client := by
  cases h with
  | nothing | client | backend | leaves => rfl
  | polls hp => exact client_poll hp

end Session

/-! ## 2. All sessions -/

namespace Label

/-- The label is a step that the server takes. -/
def isOwn : Label → Bool
  | .accept | .poll .. => true
  | .advance _ | .arrive _ | .client .. | .backend .. | .starve _ | .shutdown => false

/-- What labels send each way through the session at a place, that of a client. -/
def sent (labels : List Label) (place client : Nat) (d : Direction) : Bytes :=
  labels.flatMap fun label => label.sends place client d

theorem sends_of_isOwn {label : Label} (h : label.isOwn = true) (place client : Nat) :
    label.sends place client = fun _ => [] := by
  cases label with
  | accept => exact funext fun d => by cases d <;> rfl
  | poll place' t => exact sends_poll _ _ _ _
  | advance | arrive | client | backend | starve | shutdown => cases h

theorem sent_of_isOwn {labels : List Label} (h : ∀ label ∈ labels, label.isOwn = true)
    (place client : Nat) : sent labels place client = fun _ => [] := by
  funext d
  refine List.flatMap_eq_nil_iff.mpr fun label hmem => ?_
  rw [sends_of_isOwn (h label hmem)]

end Label

namespace Server

variable {c : ServerSettings} {s s' : Server} {label : Label}

/-- **Every session has done nothing more** while some labels happened. -/
def Still (labels : List Label) (s u : Server) : Prop :=
  ∀ (place : Nat) (session : Session), s.sessions[place]? = some session →
    ∃ session', u.sessions[place]? = some session' ∧
      session.Still (Label.sent labels place session.client) session'

/-- Only what the server does by itself can be impossible. -/
theorem sends_of_step_none (h : s.step c label = none) (place client : Nat) :
    label.sends place client = fun _ => [] := by
  cases label with
  | client | backend => cases h
  | poll => exact Label.sends_poll _ _ _ _
  | advance | arrive | starve | shutdown | accept => exact funext fun d => by cases d <;> rfl

/-- What becomes of a session with a step. -/
theorem Step.session_next (h : Step c s label s') {place : Nat} {session : Session}
    (hn : s.sessions[place]? = some session) :
    ∃ session', s'.sessions[place]? = some session' ∧
      Session.Change c s place session label session' := by
  have hlt : place < s.sessions.length := (List.getElem?_eq_some_iff.mp hn).1
  have hlt' : place < s'.sessions.length := Nat.lt_of_lt_of_le hlt h.mono.2
  have hn' := List.getElem?_eq_getElem hlt'
  refine ⟨_, hn', ?_⟩
  rcases h.session_cases hn' with ⟨old, ho, hchange⟩ | ⟨a, rest, -, -, hplace, -⟩
  · rw [hn, Option.some.injEq] at ho
    exact ho ▸ hchange
  · omega

/-- **What holds of one session and is kept by whatever a label changes of it holds of that session
behind any labels.** -/
theorem session_run {P : Session → Prop} {place : Nat}
    (change : ∀ (s : Server) (session session' : Session) (label : Label),
      Session.Change c s place session label session' → P session → P session')
    {session : Session} (hn : s.sessions[place]? = some session) (h : P session)
    (labels : List Label) :
    ∃ session', (s.run c labels).sessions[place]? = some session' ∧
      session'.client = session.client ∧ P session' := by
  refine run_induct (P := fun u => ∃ session', u.sessions[place]? = some session' ∧
    session'.client = session.client ∧ P session') ?_ ⟨session, hn, rfl, h⟩ labels
  rintro u u' label hstep ⟨old, ho, hclient, hold⟩
  obtain ⟨next, hnext, hchange⟩ := hstep.session_next ho
  exact ⟨next, hnext, hchange.client_eq.trans hclient, change u old next label hchange hold⟩

/-- That sessions are told to end is never taken back. -/
theorem Step.cancelled (h : Step c s label s') (hc : s.registry.cancelled = true) :
    s'.registry.cancelled = true := by
  cases h with
  | advance | arrive | client | backend | nobody | starve | shutdown | takesSlot | fails | takes
  | resumes | returns | frees => exact hc
  | drains => rfl
  | leaves =>
    show (Registry.deregister _ _).cancelled = true
    unfold Registry.deregister
    split <;> exact hc
  | polls => exact (noteRoute_kept _ _).2.2.trans hc

/-- **Once sessions are told to end, all of them are still**, whatever happens. -/
theorem still_run (h : s.registry.cancelled = true) (labels : List Label) :
    Still labels s (s.run c labels) := by
  induction labels generalizing s with
  | nil => exact fun place session hn => ⟨session, hn, .refl session⟩
  | cons label labels ih =>
    intro place session hn
    rw [run_cons]
    cases hs : s.step c label with
    | none =>
      obtain ⟨session', hn', hstill⟩ := ih h place session hn
      refine ⟨session', hn', ?_⟩
      have hsent : Label.sent (label :: labels) place session.client =
          Label.sent labels place session.client := by
        funext d
        show label.sends place session.client d ++ _ = _
        rw [sends_of_step_none hs]
        rfl
      rw [hsent]
      exact hstill
    | some s' =>
      have hstep := step_cases hs
      obtain ⟨next, hnext, hchange⟩ := hstep.session_next hn
      have hfirst := hchange.still (Or.inr h)
      obtain ⟨session', hn', hstill⟩ := ih (hstep.cancelled h) place next hnext
      rw [hfirst.client] at hstill
      exact ⟨session', hn', hfirst.trans hstill⟩

/-- The server takes its steps at no time. -/
theorem Step.now_of_isOwn (h : Step c s label s') (hl : label.isOwn = true) : s'.now = s.now := by
  cases h with
  | advance | arrive | client | backend | nobody | starve | shutdown => cases hl
  | drains | takesSlot | fails | takes | resumes | returns | leaves | frees | polls => rfl

theorem now_run_of_isOwn {labels : List Label} (hown : ∀ label ∈ labels, label.isOwn = true) :
    (s.run c labels).now = s.now :=
  run_induct_mem (P := fun u => u.now = s.now)
    (fun _ _ label hmem hstep h => (hstep.now_of_isOwn (hown label hmem)).trans h) rfl

/-- The session at a place has done nothing more, and is either as it was or will do nothing. -/
def Unmoved (place : Nat) (session : Session) (u : Server) : Prop :=
  ∃ session', u.sessions[place]? = some session' ∧ session.Still (fun _ => []) session' ∧
    (session' = session ∨ session'.isEnded = true ∨ u.registry.cancelled = true)

/-- **A step of the server leaves a session unmoved**, unless it is a turn that the session can take. -/
theorem Unmoved.step {place : Nat} {session : Session} (h : Unmoved place session s)
    (hstep : Step c s label s') (hown : label.isOwn = true)
    (hw : ∀ t, label = .poll place t → session.step c.session s.now t = none) :
    Unmoved place session s' := by
  obtain ⟨session', hn, hstill, hcases⟩ := h
  obtain ⟨next, hnext, hchange⟩ := hstep.session_next hn
  refine ⟨next, hnext, ?_⟩
  have hquiet (hq : session'.isEnded = true ∨ s.registry.cancelled = true) :
      session.Still (fun _ => []) next := by
    have hnothing := hchange.still hq
    rw [Label.sends_of_isOwn hown] at hnothing
    exact hstill.trans hnothing
  cases he : session'.isEnded with
  | true => exact ⟨hquiet (Or.inl he), Or.inr (Or.inl (hchange.isEnded he))⟩
  | false =>
    cases hc : s.registry.cancelled with
    | true => exact ⟨hquiet (Or.inr hc), Or.inr (Or.inr (hstep.cancelled hc))⟩
    | false =>
      obtain rfl : session' = session := by simpa [he, hc] using hcases
      cases hchange with
      | nothing => exact ⟨hstill, Or.inl rfl⟩
      | client | backend => cases hown
      | leaves t membership hended =>
        rw [he] at hended
        cases hended
      | polls hp =>
        unfold Session.poll at hp
        rw [he, hc, hw _ rfl] at hp
        cases hp

/-- **A session that waits is still** while the server takes its steps, if none of its turns among them
could happen. -/
theorem still_of_waiting {labels : List Label} (hown : ∀ label ∈ labels, label.isOwn = true)
    {place : Nat} {session : Session} (hn : s.sessions[place]? = some session)
    (hw : ∀ t, .poll place t ∈ labels → session.step c.session s.now t = none) :
    ∃ session', (s.run c labels).sessions[place]? = some session' ∧
      session.Still (fun _ => []) session' := by
  have hrun : (s.run c labels).now = s.now ∧ Unmoved place session (s.run c labels) := by
    refine run_induct_mem (P := fun u => u.now = s.now ∧ Unmoved place session u) ?_
      ⟨rfl, session, hn, .refl session, Or.inl rfl⟩
    rintro u u' label hmem hstep ⟨hnow, hunmoved⟩
    have hown' := hown label hmem
    refine ⟨(hstep.now_of_isOwn hown').trans hnow, hunmoved.step hstep hown' fun t ht => ?_⟩
    rw [hnow]
    exact hw t (ht ▸ hmem)
  obtain ⟨-, session', hn', hstill, -⟩ := hrun
  exact ⟨session', hn', hstill⟩

/-- What is still has counted nothing more. -/
theorem Still.ledger {labels : List Label} {u : Server} (h : Still labels s u)
    (hlength : u.sessions.length = s.sessions.length) : u.ledger = s.ledger := by
  have hledgers : u.sessions.map (·.ledger) = s.sessions.map (·.ledger) := by
    refine List.ext_getElem? fun place => ?_
    rw [List.getElem?_map, List.getElem?_map]
    cases hn : s.sessions[place]? with
    | none =>
      rw [List.getElem?_eq_none_iff, ← hlength] at hn
      rw [List.getElem?_eq_none hn]
    | some session =>
      obtain ⟨session', hn', hstill⟩ := h place session hn
      rw [hn']
      exact congrArg some hstill.ledger
  unfold Server.ledger
  rw [List.flatMap_def, List.flatMap_def, hledgers]

end Server

end TrafficRouter
