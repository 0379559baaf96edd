import TrafficRouter.Proofs.Server.Steps

/-!
# Runs of a server

What holds at the start of a server and is kept by every step holds at every moment of every run, and
what holds of each session as it begins and is kept by whatever a label changes of a session holds
of every session at every moment.

* `Server.run_induct`, `Server.sessions_run`: the two inductions;
* `Server.AtRest`: a server that can take no step; its sessions wait, or have ended and are gone.

NOT here: any property of the runs.
-/

namespace TrafficRouter

namespace Server

variable {c : ServerSettings}

theorem run_cons (s : Server) (label : Label) (labels : List Label) :
    s.run c (label :: labels) = ((s.step c label).getD s).run c labels :=
  rfl

/-- **What holds at the start and is kept by every step that a label of the run can be holds behind the
run.** -/
theorem run_induct_mem {P : Server → Prop} {labels : List Label}
    (step : ∀ (s s' : Server), ∀ label ∈ labels, Step c s label s' → P s → P s')
    {s : Server} (h : P s) : P (s.run c labels) := by
  induction labels generalizing s with
  | nil => exact h
  | cons label labels ih =>
    rw [run_cons]
    refine ih (fun s s' l hl => step s s' l (List.mem_cons_of_mem _ hl)) ?_
    cases hs : s.step c label with
    | none => exact h
    | some s' => exact step s s' label List.mem_cons_self (step_cases hs) h

/-- **What holds at the start and is kept by every step holds at every moment.** -/
theorem run_induct {P : Server → Prop}
    (step : ∀ (s s' : Server) (label : Label), Step c s label s' → P s → P s')
    {s : Server} (h : P s) (labels : List Label) : P (s.run c labels) :=
  run_induct_mem (fun s s' label _ => step s s' label) h

theorem run_append (s : Server) (labels labels' : List Label) :
    s.run c (labels ++ labels') = (s.run c labels).run c labels' :=
  List.foldl_append

/-- **What holds of every session as it begins, and is kept by whatever a label changes of a
session, holds of every session at every moment.** -/
theorem sessions_run {P : Session → Prop} (begins : ∀ (a : Arrival) (id : SessionId), P (a.session id))
    (change : ∀ (s : Server) (place : Nat) (session session' : Session) (label : Label),
      Session.Change c s place session label session' → P session → P session')
    (labels : List Label) : ∀ session ∈ ((start c).run c labels).sessions, P session := by
  refine run_induct (P := fun s => ∀ session ∈ s.sessions, P session) ?_ ?_ labels
  · intro s s' label hstep h session' hmem
    obtain ⟨place, hplace⟩ := List.getElem?_of_mem hmem
    rcases hstep.session_cases hplace with ⟨session, hs, hchange⟩ | ⟨a, rest, -, -, -, rfl⟩
    · exact change s place session session' label hchange (h session (List.mem_of_getElem? hs))
    · exact begins a s.nextId
  · intro session hmem
    cases hmem

/-! ## Servers at rest -/

/-- The server can take no step of its own, given what the services answer. -/
def AtRest (c : ServerSettings) (services : Services) (s : Server) : Prop :=
  ∀ label ∈ s.ownLabels services, s.step c label = none

variable {services : Services} {s : Server}

theorem AtRest.accept (h : s.AtRest c services) : s.acceptStep c = none :=
  h .accept List.mem_cons_self

theorem poll_mem_ownLabels (services : Services) {place : Nat} (h : place < s.sessions.length)
    (pump : Direction) : .poll place ⟨pump, s.hears services place⟩ ∈ s.ownLabels services := by
  refine List.mem_cons_of_mem _ (List.mem_flatMap.mpr ⟨place, List.mem_range.mpr h, ?_⟩)
  cases pump with
  | clientToBackend => exact List.mem_cons_self
  | backendToClient => exact List.mem_cons_of_mem _ List.mem_cons_self

theorem AtRest.session (h : s.AtRest c services) {place : Nat} {session : Session}
    (hn : s.sessions[place]? = some session) (pump : Direction) :
    s.sessionStep c place ⟨pump, s.hears services place⟩ = none :=
  h _ (poll_mem_ownLabels services (List.getElem?_eq_some_iff.mp hn).1 pump)

/-- **At rest, a session that has ended is gone.** -/
theorem AtRest.gone (h : s.AtRest c services) {place : Nat} {session : Session}
    (hn : s.sessions[place]? = some session) (he : session.isEnded = true) :
    session.membership = .gone := by
  have hnone := h.session hn .clientToBackend
  unfold sessionStep at hnone
  cases hm : session.membership with
  | registered => simp [hn, he, hm] at hnone
  | leaving => simp [hn, he, hm] at hnone
  | gone => rfl

/-- **At rest, a session that has not ended waits.** -/
theorem AtRest.waits (h : s.AtRest c services) {place : Nat} {session : Session}
    (hn : s.sessions[place]? = some session) (he : session.isEnded = false) (pump : Direction) :
    session.poll c.session s.now s.registry.cancelled ⟨pump, s.hears services place⟩ = none := by
  have hnone := h.session hn pump
  unfold sessionStep at hnone
  simpa [hn, he] using hnone

end Server

end TrafficRouter
