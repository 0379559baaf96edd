import Mathlib.Algebra.GroupWithZero.Nat
import TrafficRouter.Proofs.Registry
import TrafficRouter.Proofs.Server.Runs

/-!
# Slots

Every slot of a server is free, held by the accept loop, or held by one session, from its admission
until it has left the registry and frees the slot. What the sessions hold is read off their seats, in
order of admission.

* `Server.Slots`, `Slots.step`, `slots_run`: the invariant;
* `Server.freed`, `freed_run`: how many slots the turns of a session have given back;
* `slots_conserved`: slots are conserved, never given back twice, and not kept from a client.

NOT here: what ends the sessions.
-/

namespace TrafficRouter

/-! ## 1. Seats -/

/-- The slots that the accept loop holds. -/
def AcceptStage.slots : AcceptStage → Nat
  | .holding => 1
  | .idle | .pausing _ | .draining _ | .returned _ => 0

/-- Whether clients are still taken. -/
def AcceptStage.isTaking : AcceptStage → Bool
  | .idle | .holding | .pausing _ => true
  | .draining _ | .returned _ => false

theorem AcceptStage.slots_of_not_taking {stage : AcceptStage} (h : stage.isTaking = false) :
    stage.slots = 0 := by
  cases stage with
  | idle | holding | pausing => cases h
  | draining | returned => rfl

/-- The slots that a session holds. -/
def Membership.slots : Membership → Nat
  | .registered | .leaving => 1
  | .gone => 0

/-- What a session is to the others: its id, its client, and what it holds. -/
structure Seat where
  id : SessionId
  client : Nat
  membership : Membership
  deriving DecidableEq, Repr

namespace Seat

/-- The slots that sessions hold. -/
def held (seats : List Seat) : Nat := (seats.map (·.membership.slots)).sum

/-- The ids of the sessions that have not left the registry. -/
def registered (seats : List Seat) : List SessionId :=
  (seats.filter (·.membership = .registered)).map (·.id)

variable (seats seats' : List Seat)

@[simp] theorem held_append : held (seats ++ seats') = held seats + held seats' := by
  unfold held
  rw [List.map_append, List.sum_append]

@[simp] theorem held_cons (seat : Seat) : held (seat :: seats) = seat.membership.slots + held seats :=
  rfl

@[simp] theorem registered_append :
    registered (seats ++ seats') = registered seats ++ registered seats' := by
  unfold registered
  rw [List.filter_append, List.map_append]

@[simp] theorem registered_cons_self (id : SessionId) (client : Nat) :
    registered (⟨id, client, .registered⟩ :: seats) = id :: registered seats :=
  rfl

theorem registered_cons_of_ne {seat : Seat} (h : seat.membership ≠ .registered) :
    registered (seat :: seats) = registered seats := by
  unfold registered
  rw [List.filter_cons_of_neg (by simpa using h)]

/-- Who is registered has a seat. -/
theorem registered_sublist : (registered seats).Sublist (seats.map (·.id)) :=
  List.filter_sublist.map _

/-- Who is registered holds a slot. -/
theorem length_registered_le : (registered seats).length ≤ held seats := by
  induction seats with
  | nil => exact Nat.le_refl _
  | cons seat seats ih =>
    obtain ⟨id, client, membership⟩ := seat
    cases membership with
    | registered =>
      rw [registered_cons_self, held_cons, List.length_cons, Nat.add_comm]
      exact Nat.add_le_add_left ih 1
    | leaving =>
      rw [registered_cons_of_ne _ Membership.noConfusion, held_cons]
      exact Nat.le_trans ih (Nat.le_add_left _ _)
    | gone =>
      rw [registered_cons_of_ne _ Membership.noConfusion, held_cons]
      exact Nat.le_trans ih (Nat.le_add_left _ _)

/-- No one holds more than one slot. -/
theorem held_le_length : held seats ≤ seats.length := by
  have hone (membership : Membership) : membership.slots ≤ 1 := by
    cases membership <;> decide
  induction seats with
  | nil => exact Nat.le_refl _
  | cons seat seats ih =>
    rw [held_cons, List.length_cons, Nat.add_comm]
    exact Nat.add_le_add ih (hone seat.membership)

/-- Who is gone holds nothing. -/
theorem of_gone {seats : List Seat} (h : ∀ seat ∈ seats, seat.membership = .gone) :
    held seats = 0 ∧ registered seats = [] := by
  induction seats with
  | nil => exact ⟨rfl, rfl⟩
  | cons seat seats ih =>
    obtain ⟨hheld, hregistered⟩ := ih fun seat hmem => h seat (List.mem_cons_of_mem _ hmem)
    have hgone := h seat List.mem_cons_self
    have hne : seat.membership ≠ .registered := by
      rw [hgone]
      exact Membership.noConfusion
    rw [held_cons, registered_cons_of_ne seats hne, hheld, hgone]
    exact ⟨rfl, hregistered⟩

/-- Where no one is on the way out, those who hold a slot are registered. -/
theorem length_registered_eq (h : ∀ seat ∈ seats, seat.membership ≠ .leaving) :
    (registered seats).length = held seats := by
  induction seats with
  | nil => rfl
  | cons seat seats ih =>
    have ih := ih fun seat hmem => h seat (List.mem_cons_of_mem _ hmem)
    obtain ⟨id, client, membership⟩ := seat
    cases membership with
    | registered => rw [registered_cons_self, held_cons, List.length_cons, ih, Nat.add_comm]; rfl
    | leaving => exact absurd rfl (h _ List.mem_cons_self)
    | gone => rw [registered_cons_of_ne _ Membership.noConfusion, held_cons, ih]; exact (Nat.zero_add _).symm

end Seat

/-! ## 2. Sessions -/

namespace Session

/-- The seat of a session. -/
def seat (s : Session) : Seat := ⟨s.id, s.client, s.membership⟩

theorem seat_enter (c : SessionSettings) (s : Session) (stage : SessionStage) :
    (s.enter c stage).seat = s.seat := by
  unfold enter
  split <;> rfl

variable {c : SessionSettings} {now : Nat} {t : Turn} {s s' : Session}

/-- A session keeps its seat while it runs. -/
theorem Step.seat_eq (h : Step c now t s s') : s'.seat = s.seat := by
  cases h with
  | begins | exchanged | connected | replayedNothing | replayed | relayed => exact seat_enter _ _ _
  | dispatched =>
    obtain ⟨stage, h⟩ := dispatch_enters c _ now _
    rw [h]
    exact seat_enter _ _ _
  | silent | unreadable | noData | exchangeEnded | refused | unanswered | replayFault
  | relayEnded => rfl

theorem seat_poll {cancelled : Bool} (h : s.poll c now cancelled t = some s') :
    s'.seat = s.seat := by
  obtain ⟨-, ⟨-, rfl⟩ | ⟨-, hstep⟩⟩ := poll_cases h
  · rfl
  · exact hstep.seat_eq

end Session

namespace Server

/-- The seats of the sessions that there ever were, in order of admission. -/
def seats (s : Server) : List Seat := s.sessions.map Session.seat

variable {c : ServerSettings} {s s' : Server} {label : Label}

/-- The sessions around one, which may be changed. -/
theorem sessions_split {place : Nat} {session : Session} (h : s.sessions[place]? = some session) :
    ∃ before after, s.sessions = before ++ session :: after ∧
      ∀ next, (s.setSession place next).sessions = before ++ next :: after := by
  obtain ⟨before, after, hsessions, hset⟩ := exists_split_at h
  exact ⟨before, after, hsessions, hset⟩

/-- The seats around that of one session, which may be changed. -/
theorem seats_split {place : Nat} {session : Session} (h : s.sessions[place]? = some session) :
    ∃ before after, s.seats = before ++ session.seat :: after ∧
      ∀ next, (s.setSession place next).seats = before ++ next.seat :: after := by
  obtain ⟨before, after, hsessions, hset⟩ := sessions_split h
  refine ⟨before.map Session.seat, after.map Session.seat, ?_, fun next => ?_⟩
  · unfold seats
    rw [hsessions, List.map_append, List.map_cons]
  · unfold seats
    rw [hset, List.map_append, List.map_cons]

/-- A session that keeps its seat changes no seat. -/
theorem seats_setSession {place : Nat} {session next : Session}
    (h : s.sessions[place]? = some session) (hseat : next.seat = session.seat) :
    (s.setSession place next).seats = s.seats := by
  obtain ⟨before, after, hseats, hset⟩ := seats_split h
  rw [hset, hseats, hseat]

theorem seats_clientActs (s : Server) (number : Nat) (action : PeerAction) :
    (s.clientActs number action).seats = s.seats := by
  show (s.sessions.map _).map Session.seat = s.sessions.map Session.seat
  rw [List.map_map]
  refine List.map_congr_left fun session _ => ?_
  show (if session.client = number then _ else session).seat = session.seat
  split <;> rfl

/-- Who waits goes on waiting, whatever a client does. -/
theorem waiting_clientActs (s : Server) (number : Nat) (action : PeerAction) :
    (s.clientActs number action).queue.map (·.client) = s.queue.map (·.client) := by
  show (s.queue.map _).map Arrival.client = s.queue.map Arrival.client
  rw [List.map_map]
  refine List.map_congr_left fun a _ => ?_
  show (if a.client = number then { a with line := a.line.act action } else a).client = a.client
  split <;> rfl

theorem waiting_release (s : Server) :
    (s.queue.map fun a => { a with line := a.line.release }).map (·.client) =
      s.queue.map (·.client) :=
  List.map_map

theorem seats_takeClient (s : Server) (a : Arrival) (rest : List Arrival) :
    (s.takeClient a rest).seats = s.seats ++ [⟨s.nextId, a.client, .registered⟩] :=
  List.map_append

/-- That a protocol becomes known gives no one an entry and takes none away. -/
theorem noteRoute_kept (r : Registry) (session : Session) :
    (noteRoute r session).ids = r.ids ∧ (noteRoute r session).live = r.live ∧
      (noteRoute r session).cancelled = r.cancelled := by
  unfold noteRoute
  split
  · exact ⟨Registry.ids_setProtocol _ _ _, rfl, rfl⟩
  · exact ⟨rfl, rfl, rfl⟩

/-! ## 3. The invariant -/

/-- **How the slots of a server are held.** -/
structure Slots (c : ServerSettings) (s : Server) : Prop where
  conserved : s.freeSlots + s.accept.slots + Seat.held s.seats = c.slots
  numbered : s.seats.map (·.id) = List.range' firstSessionId s.seats.length
  nextId : s.nextId = firstSessionId + s.seats.length
  /-- Every client that arrived is taken once, or waits. -/
  taken : s.seats.map (·.client) ++ s.queue.map (·.client) = List.range s.arrivals
  ids : s.registry.ids = Seat.registered s.seats
  live : s.registry.live = s.registry.ids.length
  cancelled : s.registry.cancelled = !s.accept.isTaking
  shutdown : s.accept.isTaking = false → s.shutdown = true

namespace Slots

/-- No two seats have the same id. -/
theorem nodup_seats (h : Slots c s) : (s.seats.map (·.id)).Nodup := by
  rw [h.numbered]
  exact List.nodup_range' 1

theorem nodup_ids (h : Slots c s) : s.registry.ids.Nodup := by
  rw [h.ids]
  exact (Seat.registered_sublist s.seats).nodup h.nodup_seats

/-- Clients are taken until shutdown is asked for. -/
theorem isTaking (h : Slots c s) (hs : s.shutdown = false) : s.accept.isTaking = true := by
  cases ha : s.accept.isTaking with
  | true => rfl
  | false =>
    have hshutdown := h.shutdown ha
    rw [hs] at hshutdown
    cases hshutdown

/-- No session is told to end until shutdown is asked for. -/
theorem not_cancelled (h : Slots c s) (hs : s.shutdown = false) : s.registry.cancelled = false := by
  rw [h.cancelled, h.isTaking hs]
  rfl

/-- **Seats, slots and registry stay as they are** where nothing that the invariant speaks of changes. -/
theorem keep (h : Slots c s) (hseats : s'.seats = s.seats) (hnext : s'.nextId = s.nextId)
    (hfree : s'.freeSlots = s.freeSlots) (haccept : s'.accept = s.accept)
    (hqueue : s'.queue.map (·.client) = s.queue.map (·.client)) (harrivals : s'.arrivals = s.arrivals)
    (hids : s'.registry.ids = s.registry.ids) (hlive : s'.registry.live = s.registry.live)
    (hcancelled : s'.registry.cancelled = s.registry.cancelled)
    (hshutdown : s.shutdown = true → s'.shutdown = true) : Slots c s' where
  conserved := by rw [hfree, haccept, hseats]; exact h.conserved
  numbered := by rw [hseats]; exact h.numbered
  nextId := by rw [hnext, hseats]; exact h.nextId
  taken := by rw [hseats, hqueue, harrivals]; exact h.taken
  ids := by rw [hids, hseats]; exact h.ids
  live := by rw [hlive, hids]; exact h.live
  cancelled := by rw [hcancelled, haccept]; exact h.cancelled
  shutdown ha := by rw [haccept] at ha; exact hshutdown (h.shutdown ha)

/-- **A step of the loop alone** keeps the slots that are free or that the loop holds. -/
theorem loop (h : Slots c s) (stage : AcceptStage) (free : Nat)
    (hfree : free + stage.slots = s.freeSlots + s.accept.slots)
    (htaking : stage.isTaking = s.accept.isTaking) :
    Slots c { s with freeSlots := free, accept := stage } := by
  refine ⟨?_, h.numbered, h.nextId, h.taken, h.ids, h.live, ?_, fun ha => ?_⟩
  · have hconserved := h.conserved
    rw [← hfree] at hconserved
    exact hconserved
  · show s.registry.cancelled = !stage.isTaking
    rw [htaking]
    exact h.cancelled
  · exact h.shutdown (htaking.symm.trans ha)

/-- **A new seat** is the last one, with the next id and the slot that was held for it. -/
theorem takes (h : Slots c s) {a : Arrival} {rest : List Arrival} (ha : s.accept = .holding)
    (hq : s.queue = a :: rest) : Slots c (s.takeClient a rest) := by
  have hseats := seats_takeClient s a rest
  have hids : (s.takeClient a rest).registry.ids = s.registry.ids ++ [s.nextId] :=
    Registry.ids_register _ _ _
  refine ⟨?_, ?_, ?_, ?_, ?_, ?_, ?_, fun hno => ?_⟩
  · have hconserved := h.conserved
    rw [ha] at hconserved
    rw [hseats, Seat.held_append]
    show s.freeSlots + 0 + (Seat.held s.seats + 1) = c.slots
    have hone : AcceptStage.holding.slots = 1 := rfl
    omega
  · rw [hseats, List.map_append, h.numbered, List.length_append, List.length_singleton,
      List.range'_1_concat, ← h.nextId]
    rfl
  · rw [hseats, List.length_append, List.length_singleton]
    show s.nextId + 1 = _
    rw [h.nextId, Nat.add_assoc]
  · have htaken := h.taken
    rw [hq, List.map_cons] at htaken
    rw [hseats, List.map_append, List.append_assoc]
    exact htaken
  · rw [hids, hseats, Seat.registered_append, h.ids]
    rfl
  · rw [hids, List.length_append]
    show s.registry.live + 1 = _
    rw [h.live]
    rfl
  · have hcancelled := h.cancelled
    rw [ha] at hcancelled
    exact hcancelled
  · cases hno

/-- **A session that changes what it holds** keeps its id and its client, among those of the others. -/
theorem reseats (h : Slots c s) {place : Nat} {session : Session}
    (hn : s.sessions[place]? = some session) (membership : Membership) {registry : Registry} {free : Nat}
    (hfree : free + membership.slots = s.freeSlots + session.membership.slots)
    (hids : registry.ids =
      Seat.registered (s.setSession place { session with membership }).seats)
    (hlive : registry.live = registry.ids.length)
    (hcancelled : registry.cancelled = s.registry.cancelled) :
    Slots c { s.setSession place { session with membership } with registry, freeSlots := free } := by
  obtain ⟨before, after, hseats, hset⟩ := seats_split hn
  have hset := hset { session with membership }
  have hnumbers : (s.setSession place { session with membership }).seats.map (·.id) =
      s.seats.map (·.id) := by
    rw [hset, hseats, List.map_append, List.map_append]
    rfl
  have hclients : (s.setSession place { session with membership }).seats.map (·.client) =
      s.seats.map (·.client) := by
    rw [hset, hseats, List.map_append, List.map_append]
    rfl
  have hlength : (s.setSession place { session with membership }).seats.length = s.seats.length := by
    rw [hset, hseats, List.length_append, List.length_append]
    rfl
  have hheld : free + Seat.held (s.setSession place { session with membership }).seats =
      s.freeSlots + Seat.held s.seats := by
    rw [hset, hseats, Seat.held_append, Seat.held_append, Seat.held_cons, Seat.held_cons]
    show free + (_ + (membership.slots + _)) = s.freeSlots + (_ + (session.membership.slots + _))
    omega
  refine ⟨?_, ?_, ?_, ?_, hids, hlive, hcancelled.trans h.cancelled, h.shutdown⟩
  · have hconserved := h.conserved
    show free + s.accept.slots + Seat.held (s.setSession place { session with membership }).seats = _
    omega
  · exact hnumbers.trans (h.numbered.trans (congrArg (List.range' firstSessionId) hlength.symm))
  · exact h.nextId.trans (congrArg (firstSessionId + ·) hlength.symm)
  · exact (congrArg (· ++ _) hclients).trans h.taken

/-- **A session that leaves** loses its entry and keeps its slot. -/
theorem leaves (h : Slots c s) {place : Nat} {session : Session}
    (hn : s.sessions[place]? = some session) (hm : session.membership = .registered) :
    Slots c { s.setSession place { session with membership := .leaving } with
      registry := s.registry.deregister session.id } := by
  obtain ⟨before, after, hseats, hset⟩ := seats_split hn
  have hseat : session.seat = ⟨session.id, session.client, .registered⟩ := by
    unfold Session.seat
    rw [hm]
  have hids : s.registry.ids = Seat.registered before ++ session.id :: Seat.registered after := by
    rw [h.ids, hseats, hseat, Seat.registered_append, Seat.registered_cons_self]
  obtain ⟨hids', hlive, hcancelled⟩ := Registry.deregister_of_split hids h.nodup_ids h.live
  refine h.reseats hn .leaving (by rw [hm]; rfl) ?_ (by rw [hlive, hids']) hcancelled
  have hne : Seat.membership { session with membership := .leaving }.seat ≠ .registered :=
    Membership.noConfusion
  rw [hids', hset, Seat.registered_append, Seat.registered_cons_of_ne _ hne]

/-- **A session that has left frees its slot.** -/
theorem frees (h : Slots c s) {place : Nat} {session : Session}
    (hn : s.sessions[place]? = some session) (hm : session.membership = .leaving) :
    Slots c { s.setSession place { session with membership := .gone } with
      freeSlots := s.freeSlots + 1 } := by
  obtain ⟨before, after, hseats, hset⟩ := seats_split hn
  refine h.reseats hn .gone (by rw [hm]; rfl) ?_ h.live rfl
  have hleaving : session.seat.membership ≠ .registered := by
    show session.membership ≠ .registered
    rw [hm]
    exact Membership.noConfusion
  have hgone : Seat.membership { session with membership := .gone }.seat ≠ .registered :=
    Membership.noConfusion
  show s.registry.ids = _
  rw [h.ids, hseats, hset, Seat.registered_append, Seat.registered_append,
    Seat.registered_cons_of_ne _ hleaving, Seat.registered_cons_of_ne _ hgone]

/-- **The end of the taking** gives back a slot that was held. -/
theorem drains (h : Slots c s) (hs : s.shutdown = true)
    (ha : ∀ deadline, s.accept ≠ .draining deadline) (hr : s.isReturned = false) :
    Slots c (s.beginDrain c) := by
  have hfree : (s.beginDrain c).freeSlots = s.freeSlots + s.accept.slots := by
    unfold beginDrain
    cases hacc : s.accept with
    | draining deadline => exact absurd hacc (ha deadline)
    | returned result =>
      unfold isReturned at hr
      rw [hacc] at hr
      cases hr
    | idle | holding | pausing => rfl
  refine ⟨?_, h.numbered, h.nextId, h.taken, h.ids, h.live, rfl, fun _ => hs⟩
  rw [hfree]
  exact h.conserved

/-- **Every step keeps the invariant.** -/
theorem step (s s' : Server) (label : Label) (hstep : Step c s label s') (h : Slots c s) :
    Slots c s' := by
  cases hstep with
  | advance ms => exact h.keep rfl rfl rfl rfl rfl rfl rfl rfl rfl id
  | nobody => exact h
  | starve fails => exact h.keep rfl rfl rfl rfl rfl rfl rfl rfl rfl id
  | shutdown => exact h.keep rfl rfl rfl rfl rfl rfl rfl rfl rfl fun _ => rfl
  | arrive peer =>
    refine { h with taken := ?_ }
    show _ ++ (s.queue ++ [_]).map Arrival.client = List.range (s.arrivals + 1)
    rw [List.map_append, ← List.append_assoc, List.range_succ]
    exact congrArg (· ++ [s.arrivals]) h.taken
  | client number action =>
    exact h.keep (seats_clientActs s number action) rfl rfl rfl
      (waiting_clientActs s number action) rfl rfl rfl rfl id
  | backend action hn =>
    exact h.keep (seats_setSession hn rfl) rfl rfl rfl rfl rfl rfl rfl rfl id
  | drains hs ha hr => exact h.drains hs ha hr
  | takesSlot hs ha hf =>
    refine h.loop .holding (s.freeSlots - 1) ?_ (by rw [ha]; rfl)
    rw [ha]
    show s.freeSlots - 1 + 1 = s.freeSlots + 0
    omega
  | fails hs ha hq hst => exact h.loop (.pausing _) _ (by rw [ha]; rfl) (by rw [ha]; rfl)
  | takes hs ha hq hst => exact h.takes ha hq
  | resumes hs ha hle => exact h.loop .idle s.freeSlots (by rw [ha]; rfl) (by rw [ha]; rfl)
  | returns ha hd =>
    rename_i deadline result
    have hreturned := h.loop (.returned result) s.freeSlots (by rw [ha]; rfl) (by rw [ha]; rfl)
    exact hreturned.keep rfl rfl rfl rfl (waiting_release s) rfl rfl rfl rfl id
  | leaves t hn he hm => exact h.leaves hn hm
  | frees t hn he hm => exact h.frees hn hm
  | polls hn he hp =>
    rename_i place session next t
    obtain ⟨hids, hlive, hcancelled⟩ := noteRoute_kept s.registry next
    exact h.keep (seats_setSession hn (Session.seat_poll hp)) rfl rfl rfl rfl rfl hids hlive
      hcancelled id

end Slots

/-- **The invariant at every moment of every run.** -/
theorem slots_run (c : ServerSettings) (labels : List Label) :
    Slots c ((start c).run c labels) := by
  refine run_induct Slots.step ⟨rfl, rfl, rfl, rfl, rfl, rfl, rfl, fun hno => ?_⟩ labels
  cases hno

/-- **A session that has not ended is registered.** -/
theorem registered_run (c : ServerSettings) (labels : List Label) :
    ∀ session ∈ ((start c).run c labels).sessions,
      session.isEnded = false → session.membership = .registered := by
  refine sessions_run (fun a id _ => rfl) (fun s place session next label hchange h => ?_) labels
  cases hchange with
  | nothing | client | backend => exact h
  | leaves t membership he =>
    intro hne
    rw [show Session.isEnded { session with membership } = session.isEnded from rfl, he] at hne
    cases hne
  | polls hp =>
    intro _
    obtain ⟨hne, -⟩ := Session.poll_cases hp
    have hmembership : next.membership = session.membership :=
      congrArg Seat.membership (Session.seat_poll hp)
    rw [hmembership]
    exact h hne

/-! ## 4. What a session gives back -/

/-- How many slots the turns of the session at a place give back in a run. -/
def freed (c : ServerSettings) (place : Nat) : Server → List Label → Nat
  | _, [] => 0
  | s, label :: labels =>
    let next := (s.step c label).getD s
    (if label.polls place then next.freeSlots - s.freeSlots else 0) + freed c place next labels

/-- How many slots the session at a place has given back, by what it holds. -/
def givenBack (s : Server) (place : Nat) : Nat :=
  ((s.seats[place]?).map fun seat => 1 - seat.membership.slots).getD 0

theorem givenBack_congr (h : s'.seats = s.seats) (place : Nat) :
    s'.givenBack place = s.givenBack place := by
  unfold givenBack
  rw [h]

theorem givenBack_of_session {place : Nat} {session : Session}
    (h : s.sessions[place]? = some session) : s.givenBack place = 1 - session.membership.slots := by
  unfold givenBack seats
  rw [List.getElem?_map, h]
  rfl

/-- A session that changes what it holds, among the others. -/
theorem givenBack_setSession {place : Nat} {session : Session}
    (h : s.sessions[place]? = some session) (membership : Membership) (p : Nat) :
    (s.setSession place { session with membership }).givenBack p =
      if p = place then 1 - membership.slots else s.givenBack p := by
  have hget := s.getElem?_setSession h { session with membership } p
  unfold givenBack seats
  rw [List.getElem?_map, hget, List.getElem?_map]
  split <;> rfl

/-- **A turn of a session gives back what the session stops holding.** -/
theorem givenBack_step (hstep : Step c s label s') (place : Nat) :
    (if label.polls place then s'.freeSlots - s.freeSlots else 0) + s.givenBack place =
      s'.givenBack place := by
  -- a turn with which the session changes what it holds
  have hturn {place' : Nat} {session : Session} (t : Turn) (membership : Membership)
      (hn : s.sessions[place']? = some session) {free : Nat}
      (hfree : free + (1 - session.membership.slots) = 1 - membership.slots) :
      (if (Label.poll place' t).polls place then free else 0) + s.givenBack place =
        (s.setSession place' { session with membership }).givenBack place := by
    rw [givenBack_setSession hn]
    show (if decide (place' = place) = true then free else 0) + _ = _
    by_cases hp : place' = place
    · subst hp
      rw [if_pos (decide_eq_true rfl), if_pos rfl, givenBack_of_session hn]
      exact hfree
    · rw [if_neg (by simpa using hp), if_neg (Ne.symm hp), Nat.zero_add]
  cases hstep with
  | advance | arrive | nobody | starve | shutdown | drains | takesSlot | fails | resumes | returns =>
    exact Nat.zero_add _
  | client number action =>
    exact (Nat.zero_add _).trans (givenBack_congr (seats_clientActs s number action) place).symm
  | backend action hn =>
    rename_i place' session
    have hseat : (session.on (session.wires.backendActs action)).seat = session.seat := rfl
    exact (Nat.zero_add _).trans (givenBack_congr (seats_setSession hn hseat) place).symm
  | takes hs ha hq hst =>
    refine (Nat.zero_add _).trans ?_
    unfold givenBack
    rw [seats_takeClient]
    rcases Nat.lt_trichotomy place s.seats.length with hlt | heq | hgt
    · rw [List.getElem?_append_left hlt]
    · subst heq
      rw [List.getElem?_append_right (Nat.le_refl _), Nat.sub_self, List.getElem?_eq_none (Nat.le_refl _)]
      rfl
    · rw [List.getElem?_eq_none (Nat.le_of_lt hgt), List.getElem?_eq_none (by simp; omega)]
  | leaves t hn he hm =>
    have hsame : s.freeSlots - s.freeSlots = 0 := Nat.sub_self _
    refine hturn t .leaving hn ?_
    rw [hm]
    exact congrArg (· + 0) hsame
  | frees t hn he hm =>
    have hone : s.freeSlots + 1 - s.freeSlots = 1 := Nat.add_sub_cancel_left _ _
    refine hturn t .gone hn ?_
    rw [hm]
    exact congrArg (· + 0) hone
  | polls hn he hp =>
    rename_i place' session next t
    have hsame : s.freeSlots - s.freeSlots = 0 := Nat.sub_self _
    have hfree : (if (Label.poll place' t).polls place then s.freeSlots - s.freeSlots else 0) = 0 := by
      rw [hsame, ite_self]
    have hkept : (s.setSession place' next).givenBack place = s.givenBack place :=
      givenBack_congr (seats_setSession hn (Session.seat_poll hp)) place
    exact (congrArg (· + s.givenBack place) hfree).trans ((Nat.zero_add _).trans hkept.symm)

/-- **The turns of a session give back what it does not hold any more**: nothing while it holds its
slot, and one slot in all. -/
theorem freed_run (c : ServerSettings) (place : Nat) (s : Server) (labels : List Label) :
    freed c place s labels + s.givenBack place = (s.run c labels).givenBack place := by
  induction labels generalizing s with
  | nil => exact Nat.zero_add _
  | cons label labels ih =>
    have hnext : (if label.polls place then ((s.step c label).getD s).freeSlots - s.freeSlots else 0) +
        s.givenBack place = ((s.step c label).getD s).givenBack place := by
      cases hs : s.step c label with
      | some s' => exact givenBack_step (step_cases hs) place
      | none => simp
    show _ + freed c place _ labels + _ = (((s.step c label).getD s).run c labels).givenBack place
    rw [← ih, ← hnext, Nat.add_comm _ (freed ..), Nat.add_assoc]

/-! ## 5. What waits -/

/-- A loop that waits before the shutdown has no slot, no client, or has just failed. -/
theorem acceptStep_none_cases (h : s.acceptStep c = none) (hs : s.shutdown = false)
    (ha : s.accept.isTaking = true) :
    s.accept = .idle ∧ s.freeSlots = 0 ∨ s.accept = .holding ∧ s.queue = [] ∨
      ∃ resumeAt, s.accept = .pausing resumeAt := by
  unfold acceptStep at h
  cases hacc : s.accept with
  | idle =>
    by_cases hf : s.freeSlots = 0
    · exact Or.inl ⟨rfl, hf⟩
    · simp [hacc, hs, hf] at h
  | holding =>
    cases hq : s.queue with
    | nil => exact Or.inr (Or.inl ⟨rfl, rfl⟩)
    | cons a rest =>
      simp only [hacc, hs, hq, Bool.false_eq_true, if_false] at h
      split at h <;> cases h
  | pausing resumeAt => exact Or.inr (Or.inr ⟨resumeAt, rfl⟩)
  | draining | returned =>
    rw [hacc] at ha
    cases ha

namespace Slots

/-- **Who has an entry is registered**, and no one else has. -/
theorem mem_ids_iff (h : Slots c s) {place : Nat} {session : Session}
    (hn : s.sessions[place]? = some session) :
    session.id ∈ s.registry.ids ↔ session.membership = .registered := by
  obtain ⟨before, after, hseats, -⟩ := seats_split hn
  have hnodup := h.nodup_seats
  rw [h.ids, hseats, Seat.registered_append]
  constructor
  · intro hmem
    by_cases hm : session.membership = .registered
    · exact hm
    · -- the id would be that of another session
      rw [Seat.registered_cons_of_ne after hm] at hmem
      rw [hseats, List.map_append, List.map_cons, List.nodup_append] at hnodup
      obtain ⟨-, hafter, hdisjoint⟩ := hnodup
      rcases List.mem_append.mp hmem with hmem | hmem
      · have hbefore := (Seat.registered_sublist before).subset hmem
        exact absurd rfl (hdisjoint _ hbefore _ List.mem_cons_self)
      · have hafter' := (Seat.registered_sublist after).subset hmem
        exact absurd hafter' (List.nodup_cons.mp hafter).1
  · intro hm
    have hseat : session.seat = ⟨session.id, session.client, .registered⟩ := by
      unfold Session.seat
      rw [hm]
    rw [hseat, Seat.registered_cons_self]
    exact List.mem_append_right _ List.mem_cons_self

/-- There are no more sessions in the registry than slots. -/
theorem length_ids_le (h : Slots c s) : s.registry.ids.length ≤ c.slots := by
  have hheld := Seat.length_registered_le s.seats
  have hconserved := h.conserved
  rw [h.ids]
  omega

/-- **A client that waits for a server at rest waits for a slot**: all of them belong to sessions in
the registry. -/
theorem full_of_waiting (h : Slots c s) {services : Services} (hrest : s.AtRest c services)
    (hregistered : ∀ session ∈ s.sessions, session.isEnded = false →
      session.membership = .registered)
    (hs : s.shutdown = false) (hp : ∀ resumeAt, s.accept ≠ .pausing resumeAt) (hq : s.queue ≠ []) :
    s.registry.live = c.slots := by
  have htaking := h.isTaking hs
  have hnone_leaves : ∀ seat ∈ s.seats, seat.membership ≠ .leaving := by
    intro seat hmem hleaving
    obtain ⟨session, hsession, rfl⟩ := List.mem_map.mp hmem
    obtain ⟨place, hplace⟩ := List.getElem?_of_mem hsession
    have hleaving' : session.membership = .leaving := hleaving
    cases he : session.isEnded with
    | true =>
      rw [hrest.gone hplace he] at hleaving'
      cases hleaving'
    | false =>
      rw [hregistered session hsession he] at hleaving'
      cases hleaving'
  have hlive : s.registry.live = Seat.held s.seats := by
    rw [h.live, h.ids]
    exact Seat.length_registered_eq s.seats hnone_leaves
  have hconserved := h.conserved
  rcases acceptStep_none_cases hrest.accept hs htaking with
    ⟨hidle, hfree⟩ | ⟨-, hempty⟩ | ⟨resumeAt, hpausing⟩
  · rw [hidle, hfree] at hconserved
    have hzero : AcceptStage.idle.slots = 0 := rfl
    omega
  · exact absurd hempty hq
  · exact absurd hpausing (hp resumeAt)

end Slots

/-- **A turn of a session changes the free slots by giving one back**, once the session has left. -/
theorem freeSlots_poll {place : Nat} {t : Turn} {session : Session}
    (hn : s.sessions[place]? = some session) (hstep : s.step c (.poll place t) = some s')
    (hne : s'.freeSlots ≠ s.freeSlots) :
    s'.freeSlots = s.freeSlots + 1 ∧ session.membership = .leaving := by
  cases step_cases hstep with
  | leaves | polls => exact absurd rfl hne
  | frees t hn' he hm =>
    rw [hn, Option.some.injEq] at hn'
    subst hn'
    exact ⟨rfl, hm⟩

end Server

/-- **Slots are conserved**, for every number of slots and every order of arrivals, accepts that work
or fail, ends of sessions and shutdown, at every moment.

Every slot is free, held by the accept loop, or held by one session. The sessions in the registry are
those that are registered, each with an id of its own and one slot, so there are never more of them
than slots. A session gives back one slot in all, and nothing while it holds it; when it does, it is
in the registry no more. At rest a session that has ended has given its slot back, and a client that
waits for the server, before the shutdown and outside the pause behind an accept that failed, waits
because the registry is full. Every client that arrived has been taken once, in order, or waits. -/
theorem slots_conserved (c : ServerSettings) (labels : List Label) :
    let start := Server.start c
    let s := start.run c labels
    let ids := s.registry.ids
    s.freeSlots + s.accept.slots + (s.sessions.map (·.membership.slots)).sum = c.slots ∧
      (ids.Nodup ∧ s.registry.live = ids.length ∧ ids.length ≤ c.slots ∧
        ids = (s.sessions.filter (·.membership = .registered)).map (·.id)) ∧
      (∀ place session, s.sessions[place]? = some session →
        start.freed c place labels + session.membership.slots = 1 ∧
          (session.id ∈ ids ↔ session.membership = .registered) ∧
          ∀ t s', s.step c (.poll place t) = some s' → s'.freeSlots ≠ s.freeSlots →
            s'.freeSlots = s.freeSlots + 1 ∧ session.id ∉ ids) ∧
      (∀ services, s.AtRest c services →
        (∀ place session, s.sessions[place]? = some session → session.isEnded = true →
          session.membership = .gone ∧ start.freed c place labels = 1) ∧
        (s.shutdown = false → (∀ resumeAt, s.accept ≠ .pausing resumeAt) → s.queue ≠ [] →
          s.registry.live = c.slots)) ∧
      s.sessions.map (·.client) ++ s.queue.map (·.client) = List.range s.arrivals := by
  intro start s ids
  have h : Server.Slots c s := Server.slots_run c labels
  have hheld : (s.sessions.map (·.membership.slots)).sum = Seat.held s.seats := by
    unfold Seat.held Server.seats
    rw [List.map_map]
    rfl
  have hregistered : (s.sessions.filter (·.membership = .registered)).map (·.id) =
      Seat.registered s.seats := by
    unfold Seat.registered Server.seats
    rw [List.filter_map, List.map_map]
    rfl
  have hclients : s.sessions.map (·.client) = s.seats.map (·.client) := by
    unfold Server.seats
    rw [List.map_map]
    rfl
  have hfreed {place : Nat} {session : Session} (hn : s.sessions[place]? = some session) :
      start.freed c place labels + session.membership.slots = 1 := by
    have hgiven : start.freed c place labels + start.givenBack place = s.givenBack place :=
      Server.freed_run c place start labels
    have hstart : start.givenBack place = 0 := rfl
    have hback : s.givenBack place = 1 - session.membership.slots := Server.givenBack_of_session hn
    cases hm : session.membership <;> rw [hm] at hback <;> simp only [Membership.slots] at hback ⊢ <;>
      omega
  refine ⟨?_, ⟨h.nodup_ids, h.live, h.length_ids_le, ?_⟩, fun place session hn => ⟨hfreed hn, ?_, ?_⟩,
    fun services hrest => ⟨fun place session hn he => ?_, fun hs hp hq => ?_⟩, ?_⟩
  · rw [hheld]
    exact h.conserved
  · rw [hregistered]
    exact h.ids
  · exact h.mem_ids_iff hn
  · intro t s' hstep hne
    obtain ⟨hfree, hleaving⟩ := Server.freeSlots_poll hn hstep hne
    refine ⟨hfree, fun hmem => ?_⟩
    have hm := (h.mem_ids_iff hn).mp hmem
    rw [hleaving] at hm
    cases hm
  · have hgone := hrest.gone hn he
    have hone := hfreed hn
    rw [hgone] at hone
    exact ⟨hgone, hone⟩
  · exact h.full_of_waiting hrest (Server.registered_run c labels) hs hp hq
  · rw [hclients]
    exact h.taken

/-- With one slot, a second client waits until the first has left and its slot is free. -/
example :
    let c := ServerSettings.withClassifier (classify 150) { listener := { maxConnections := 1 } }
    let peer : SocketAddress := { ip := .v4 10 0 0 1, port := 40000 }
    let full := (Server.start c).run c [.arrive peer, .arrive peer, .accept, .accept, .accept, .accept]
    let left := full.run c [.client 0 .finish, .poll 0 ⟨.clientToBackend, none⟩,
      .poll 0 ⟨.clientToBackend, none⟩, .poll 0 ⟨.clientToBackend, none⟩, .accept, .accept]
    let freed := left.run c [.poll 0 ⟨.clientToBackend, none⟩, .accept, .accept]
    (full.sessions.length, full.queue.length, full.registry.live) = (1, 1, 1) ∧
      (left.sessions.length, left.queue.length, left.registry.live) = (1, 1, 0) ∧
      (freed.sessions.length, freed.queue.length, freed.registry.live) = (2, 0, 1) := by
  decide +kernel

end TrafficRouter
