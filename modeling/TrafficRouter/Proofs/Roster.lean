import Mathlib.Data.List.Induction
import Mathlib.Data.List.Infix
import TrafficRouter.Proofs.Registry
import TrafficRouter.Roster

/-!
# What a wait comes to

A wait for the sessions to end, among everything else that is done with a registry.

* `Roster.Sound`, `sound_run`: the count that the registry publishes is that of the guards that are
  held, at every moment;
* `Leaves`, `leaves_act`: what is left whatever is done, and that while the clock goes on no session
  comes or goes;
* `looks`, `drain_run`: a wait ends with the first of its looks that lets it;
* `attended`, `drain_attended`: a wait that is polled behind every act sees every moment;
* `drain_result`: the wait of a shutdown, by what it sees, and by the sessions and the clock where it is
  polled behind every act; `drain_overlooked`: what it does not see.

A moment is what is there after something was done. Moments at which the clock shows the same time
come one after the other, in the order of what was done.

NOT here: when the sessions of a server end (`Proofs.Server.Drain`).
-/

namespace TrafficRouter.Roster

/-! ## 1. The count of the sessions -/

/-- The ids of the guards that are held. -/
def heldIds (guards : List SessionGuard) : List SessionId := (guards.filter (!·.dropped)).map (·.id)

/-- **How many sessions are live**: so many guards are held. -/
def held (r : Roster) : Nat := r.guards.countP (!·.dropped)

theorem heldIds_append (front back : List SessionGuard) :
    heldIds (front ++ back) = heldIds front ++ heldIds back := by
  unfold heldIds
  rw [List.filter_append, List.map_append]

theorem heldIds_cons_held {g : SessionGuard} (h : g.dropped = false) (guards : List SessionGuard) :
    heldIds (g :: guards) = g.id :: heldIds guards := by
  unfold heldIds
  rw [List.filter_cons_of_pos (by rw [h]; rfl), List.map_cons]

theorem heldIds_cons_dropped {g : SessionGuard} (h : g.dropped = true)
    (guards : List SessionGuard) : heldIds (g :: guards) = heldIds guards := by
  unfold heldIds
  rw [List.filter_cons_of_neg (by rw [h]; exact Bool.false_ne_true)]

/-- A guard that changes and keeps its id changes no id. -/
theorem ids_set {guards : List SessionGuard} {i : Nat} {g g' : SessionGuard}
    (hg : guards[i]? = some g) (hid : g'.id = g.id) :
    (guards.set i g').map (·.id) = guards.map (·.id) := by
  obtain ⟨before, after, hguards, hset⟩ := exists_split_at hg
  rw [hset, hguards, List.map_append, List.map_cons, List.map_append, List.map_cons, hid]

/-- **The registry knows the sessions whose guards are held**, and publishes how many there are. -/
structure Sound (r : Roster) : Prop where
  fresh : ∀ id ∈ r.guards.map (·.id), id < r.nextId
  nodup : (r.guards.map (·.id)).Nodup
  ids : r.registry.ids = heldIds r.guards
  live : r.registry.live = r.registry.ids.length

theorem sound_start (slots : Nat) : Sound { freeSlots := slots } where
  fresh _ h := absurd h List.not_mem_nil
  nodup := List.nodup_nil
  ids := rfl
  live := rfl

namespace Sound

variable {r : Roster}

theorem live_eq_held (h : Sound r) : r.registry.live = r.held := by
  rw [h.live, h.ids, held, List.countP_eq_length_filter]
  exact List.length_map _

theorem nodup_ids (h : Sound r) : r.registry.ids.Nodup := by
  rw [h.ids]
  exact h.nodup.sublist (List.filter_sublist.map _)

/-- A guard that changes and keeps its id and whether it is held changes no count. -/
theorem setGuard (h : Sound r) {i : Nat} {g g' : SessionGuard} (hg : r.guards[i]? = some g)
    (hid : g'.id = g.id) (hdropped : g'.dropped = g.dropped) :
    Sound { r with guards := r.guards.set i g' } := by
  obtain ⟨before, after, hguards, hset⟩ := exists_split_at hg
  have hsame := ids_set hg hid
  refine ⟨hsame ▸ h.fresh, hsame ▸ h.nodup, ?_, h.live⟩
  show r.registry.ids = heldIds (r.guards.set i g')
  rw [h.ids, hset, hguards, heldIds_append, heldIds_append]
  by_cases hd : g.dropped = true
  · rw [heldIds_cons_dropped hd, heldIds_cons_dropped (hdropped.trans hd)]
  · have hheld : g.dropped = false := Bool.eq_false_iff.mpr hd
    rw [heldIds_cons_held hheld, heldIds_cons_held (hdropped.trans hheld), hid]

theorem register (h : Sound r) {peer : SocketAddress} {r' : Roster}
    (hr : r.register peer = some r') : Sound r' := by
  unfold Roster.register at hr
  split at hr
  · cases hr
  · obtain rfl := Option.some.inj hr
    have hids : (r.guards ++ [({ id := r.nextId } : SessionGuard)]).map (·.id) =
        r.guards.map (·.id) ++ [r.nextId] := List.map_append
    refine ⟨fun id hid => ?_, ?_, ?_, ?_⟩
    · rcases List.mem_append.mp (hids ▸ hid) with hold | hlast
      · exact Nat.lt_succ_of_lt (h.fresh id hold)
      · rw [List.mem_singleton.mp hlast]
        exact Nat.lt_succ_self _
    · show ((r.guards ++ [({ id := r.nextId } : SessionGuard)]).map (·.id)).Nodup
      rw [hids]
      refine List.nodup_append.mpr ⟨h.nodup, List.pairwise_singleton _ _, fun id hold id' hlast => ?_⟩
      rw [List.mem_singleton.mp hlast]
      exact Nat.ne_of_lt (h.fresh id hold)
    · rw [Registry.ids_register, h.ids, heldIds_append]
      rfl
    · rw [Registry.ids_register, List.length_append, ← h.live]
      rfl

theorem drop (h : Sound r) (i : Nat) : Sound (r.drop i) := by
  unfold Roster.drop
  cases hg : r.guards[i]? with
  | none => exact h
  | some g =>
    dsimp only
    by_cases hd : g.dropped = true
    · rw [if_pos hd]
      exact h
    · rw [if_neg hd]
      have hheld : g.dropped = false := Bool.eq_false_iff.mpr hd
      obtain ⟨before, after, hguards, hset⟩ := exists_split_at hg
      have hsplit : r.registry.ids = heldIds before ++ g.id :: heldIds after := by
        rw [h.ids, hguards, heldIds_append, heldIds_cons_held hheld]
      obtain ⟨hids, hlive, -⟩ := Registry.deregister_of_split hsplit h.nodup_ids h.live
      have hsame : (r.guards.set i { g with dropped := true }).map (·.id) = r.guards.map (·.id) :=
        ids_set hg rfl
      refine ⟨hsame ▸ h.fresh, hsame ▸ h.nodup, ?_, ?_⟩
      · show (r.registry.deregister g.id).ids = heldIds (r.guards.set i { g with dropped := true })
        rw [hids, hset, heldIds_append, heldIds_cons_dropped rfl]
      · show (r.registry.deregister g.id).live = (r.registry.deregister g.id).ids.length
        rw [hlive, hids]

/-- A protocol that becomes known changes no count. -/
theorem protocol (h : Sound r) (id : SessionId) (p : Protocol) :
    Sound { r with registry := r.registry.setProtocol id p } := by
  have hids := r.registry.ids_setProtocol id p
  refine ⟨h.fresh, h.nodup, ?_, ?_⟩
  · show (r.registry.setProtocol id p).ids = _
    rw [hids]
    exact h.ids
  · show r.registry.live = (r.registry.setProtocol id p).ids.length
    rw [hids]
    exact h.live

/-- **Whatever is done keeps the count.** -/
theorem act (h : Sound r) (a : RosterAct) : Sound (r.act a) := by
  cases a with
  | register peer =>
    show Sound ((r.register peer).getD r)
    cases hr : r.register peer with
    | none => exact h
    | some r' => exact h.register hr
  | drop i => exact h.drop i
  | setProtocol i p =>
    show Sound (r.setProtocol i p)
    unfold Roster.setProtocol
    cases r.guards[i]? with
    | none => exact h
    | some g =>
      dsimp only
      split
      · exact h
      · exact h.protocol g.id p
  | setUnknown p =>
    have hp := h.protocol r.nextId p
    exact ⟨fun id hid => Nat.lt_succ_of_lt (h.fresh id hid), h.nodup, hp.ids, hp.live⟩
  | cancelSession i =>
    show Sound (r.cancelSession i)
    unfold Roster.cancelSession
    cases hg : r.guards[i]? with
    | none => exact h
    | some g => exact h.setGuard hg rfl rfl
  | cancelAll | wait | shutdown | advance | poll => exact ⟨h.fresh, h.nodup, h.ids, h.live⟩

end Sound

theorem run_append (r : Roster) (front back : List RosterAct) :
    r.run (front ++ back) = (r.run front).run back := List.foldl_append

/-- **The count at every moment.** -/
theorem sound_run {r : Roster} (h : Sound r) (acts : List RosterAct) : Sound (r.run acts) := by
  induction acts generalizing r with
  | nil => exact h
  | cons a acts ih => exact ih (h.act a)

/-! ## 2. What one act leaves -/

/-- **What is left of a roster**, whatever is done: sessions that were told to end are, a wait is as it
was or has looked at the registry, and the clock stands, or goes on and no session comes or goes. -/
structure Leaves (r : Roster) (a : RosterAct) (r' : Roster) : Prop where
  cancelled : r.registry.cancelled = true → r'.registry.cancelled = true
  drain : ∀ {n : Nat} {d : Drain}, r.drains[n]? = some d →
    r'.drains[n]? = some (if a = .poll n then d.look r.registry r.now else d)
  clock : r'.now = r.now ∨ r.now ≤ r'.now ∧ r'.guards = r.guards

/-- An act that polls no wait leaves them all as they are. -/
theorem Leaves.of_drains {r r' : Roster} {a : RosterAct} (hpoll : ∀ n, a ≠ .poll n)
    (hcancelled : r.registry.cancelled = true → r'.registry.cancelled = true)
    (hdrains : r.drains <+: r'.drains)
    (hclock : r'.now = r.now ∨ r.now ≤ r'.now ∧ r'.guards = r.guards) : Leaves r a r' where
  cancelled := hcancelled
  drain := fun {n d} h => by
    obtain ⟨more, hmore⟩ := hdrains
    rw [if_neg (hpoll n), ← hmore, List.getElem?_append_left (List.getElem?_eq_some_iff.mp h).1, h]
  clock := hclock

theorem leaves_act (r : Roster) (a : RosterAct) : Leaves r a (r.act a) := by
  cases a with
  | register peer =>
    show Leaves r _ ((r.register peer).getD r)
    unfold Roster.register
    split <;> exact .of_drains nofun id List.prefix_rfl (Or.inl rfl)
  | drop i =>
    show Leaves r _ (r.drop i)
    unfold Roster.drop
    split
    · split
      · exact .of_drains nofun id List.prefix_rfl (Or.inl rfl)
      · next g _ _ =>
        have hcancelled := Registry.cancelled_deregister r.registry g.id
        exact .of_drains nofun hcancelled.trans List.prefix_rfl (Or.inl rfl)
    · exact .of_drains nofun id List.prefix_rfl (Or.inl rfl)
  | setProtocol i p =>
    show Leaves r _ (r.setProtocol i p)
    unfold Roster.setProtocol
    split
    · split <;> exact .of_drains nofun id List.prefix_rfl (Or.inl rfl)
    · exact .of_drains nofun id List.prefix_rfl (Or.inl rfl)
  | cancelSession i =>
    show Leaves r _ (r.cancelSession i)
    unfold Roster.cancelSession
    split <;> exact .of_drains nofun id List.prefix_rfl (Or.inl rfl)
  | setUnknown p => exact .of_drains nofun id List.prefix_rfl (Or.inl rfl)
  | cancelAll => exact .of_drains nofun (fun _ => rfl) List.prefix_rfl (Or.inl rfl)
  | wait limit => exact .of_drains nofun id (List.prefix_append _ _) (Or.inl rfl)
  | shutdown limit => exact .of_drains nofun (fun _ => rfl) (List.prefix_append _ _) (Or.inl rfl)
  | advance ms =>
    exact .of_drains nofun id List.prefix_rfl (Or.inr ⟨Nat.le_add_right _ _, rfl⟩)
  | poll m =>
    refine ⟨id, fun {n d} h => ?_, Or.inl rfl⟩
    show (r.drains.modify m _)[n]? = _
    rw [List.getElem?_modify, h]
    by_cases hm : m = n
    · rw [if_pos (congrArg _ hm)]
      simp [hm]
    · rw [if_neg fun heq => hm (RosterAct.poll.inj heq)]
      simp [hm]

/-- Sessions that were told to end have been told at every later moment, those to come among them. -/
theorem cancelled_run {r : Roster} (h : r.registry.cancelled = true) (acts : List RosterAct) :
    (r.run acts).registry.cancelled = true := by
  induction acts generalizing r with
  | nil => exact h
  | cons a acts ih => exact ih ((leaves_act r a).cancelled h)

/-- The clock does not go back. -/
theorem now_le_run (r : Roster) (acts : List RosterAct) : r.now ≤ (r.run acts).now := by
  induction acts generalizing r with
  | nil => exact Nat.le_refl _
  | cons a acts ih =>
    have hact : r.now ≤ (r.act a).now :=
      (leaves_act r a).clock.elim (fun hnow => Nat.le_of_eq hnow.symm) And.left
    exact Nat.le_trans hact (ih (r.act a))

/-! ## 3. One wait -/

/-- What a wait with the given deadline comes to at this moment, unless it goes on. -/
def comesTo (r : Roster) (deadline : Option Nat) : Option (Except DrainTimeout Unit) :=
  r.registry.drained r.now deadline

/-- The moments at which a wait looks at the registry, among some acts. -/
def looks (n : Nat) : Roster → List RosterAct → List Roster
  | _, [] => []
  | r, a :: acts => (if a = .poll n then [r] else []) ++ looks n (r.act a) acts

/-- **A wait ends with the first of its looks that lets it**, and goes on while none does. -/
theorem drain_run {r : Roster} {n : Nat} {d : Drain} (h : r.drains[n]? = some d)
    (acts : List RosterAct) :
    (r.run acts).drains[n]? = some
      ⟨d.deadline, d.result.or ((looks n r acts).findSome? (·.comesTo d.deadline))⟩ := by
  induction acts generalizing r d with
  | nil =>
    rw [looks, List.findSome?_nil, Option.or_none]
    exact h
  | cons a acts ih =>
    have hfirst := (leaves_act r a).drain h
    show ((r.act a).run acts).drains[n]? = _
    rw [ih hfirst, looks]
    by_cases ha : a = .poll n
    · rw [if_pos ha, if_pos ha, List.singleton_append, List.findSome?_cons]
      show some (Drain.mk d.deadline ((d.result.or (r.comesTo d.deadline)).or _)) = _
      rw [Option.or_assoc]
      cases r.comesTo d.deadline <;> rfl
    · rw [if_neg ha, if_neg ha, List.nil_append]

/-! ## 4. A wait that is polled behind every act -/

/-- Some acts, with a poll of a wait behind each of them. -/
def attended (n : Nat) (acts : List RosterAct) : List RosterAct :=
  acts.flatMap fun a => if a = .poll n then [a] else [a, .poll n]

/-- The last of the acts, and the poll behind it. -/
theorem run_attended_concat (r : Roster) (n : Nat) (acts : List RosterAct) (a : RosterAct) :
    ∃ s : Roster, r.run (attended n (acts ++ [a])) = s.poll n ∧
      (∀ {d}, (r.run (attended n acts)).drains[n]? = some d → s.drains[n]? = some d) ∧
      (s.now = (r.run (attended n acts)).now ∨
        (r.run (attended n acts)).now ≤ s.now ∧ s.guards = (r.run (attended n acts)).guards) := by
  have hlast : r.run (attended n (acts ++ [a])) =
      (r.run (attended n acts)).run (if a = .poll n then [a] else [a, .poll n]) := by
    unfold attended
    rw [List.flatMap_append, List.flatMap_singleton, run_append]
  by_cases ha : a = .poll n
  · refine ⟨r.run (attended n acts), ?_, id, Or.inl rfl⟩
    rw [hlast, if_pos ha, ha]
    rfl
  · have hleaves := leaves_act (r.run (attended n acts)) a
    refine ⟨(r.run (attended n acts)).act a, ?_, fun h => ?_, hleaves.clock⟩
    · rw [hlast, if_neg ha]
      rfl
    · rw [hleaves.drain h, if_neg ha]

/-- **A wait that is polled behind every act** ends with the first moment that lets it. -/
theorem drain_attended {r : Roster} {n : Nat} {deadline : Option Nat}
    (h : r.drains[n]? = some ⟨deadline, r.comesTo deadline⟩) (acts : List RosterAct) :
    (r.run (attended n acts)).drains[n]? = some ⟨deadline,
      acts.inits.findSome? fun front => (r.run (attended n front)).comesTo deadline⟩ := by
  induction acts using List.reverseRecOn with
  | nil =>
    rw [List.inits, List.findSome?_singleton]
    exact h
  | append_singleton acts a ih =>
    obtain ⟨s, hs, hdrain, -⟩ := run_attended_concat r n acts a
    have hlooked := (leaves_act s (.poll n)).drain (hdrain ih)
    rw [if_pos rfl] at hlooked
    have hinits : (acts ++ [a]).inits = acts.inits ++ [acts ++ [a]] := by simp
    rw [hinits, List.findSome?_append, List.findSome?_singleton, hs]
    exact hlooked

/-- At every moment before this one. -/
def Before (P : List RosterAct → Prop) (acts : List RosterAct) : Prop :=
  ∀ early, early <+: acts → early ≠ acts → P early

/-- What is found first among the beginnings of a list is found at one, and nothing before it. -/
theorem findSome?_inits_eq_some_iff {β : Type} {f : List RosterAct → Option β}
    {acts : List RosterAct} {x : β} :
    acts.inits.findSome? f = some x ↔
      ∃ front, front <+: acts ∧ f front = some x ∧ Before (f · = none) front := by
  induction acts generalizing f with
  | nil =>
    rw [List.inits, List.findSome?_singleton]
    constructor
    · exact fun hx => ⟨[], List.prefix_rfl, hx, fun early hp hne => absurd (List.prefix_nil.mp hp) hne⟩
    · rintro ⟨front, hp, hx, -⟩
      rwa [List.prefix_nil.mp hp] at hx
  | cons a acts ih =>
    rw [List.inits, List.findSome?_cons, List.findSome?_map]
    cases hnil : f [] with
    | some y =>
      constructor
      · intro hx
        exact ⟨[], List.nil_prefix, hnil.trans hx,
          fun early hp hne => absurd (List.prefix_nil.mp hp) hne⟩
      · rintro ⟨front, hp, hx, hbefore⟩
        cases front with
        | nil => rw [← hx, hnil]
        | cons b front =>
          have hearlier : f [] = none :=
            hbefore [] List.nil_prefix (List.cons_ne_nil b front).symm
          rw [hnil] at hearlier
          cases hearlier
    | none =>
      refine Iff.trans ih ⟨?_, ?_⟩
      · rintro ⟨front, hp, hx, hbefore⟩
        refine ⟨a :: front, (List.prefix_cons_inj a).mpr hp, hx, fun early hearly hne => ?_⟩
        cases early with
        | nil => exact hnil
        | cons b early =>
          obtain ⟨rfl, hbeginning⟩ := List.cons_prefix_cons.mp hearly
          exact hbefore early hbeginning fun heq => hne (congrArg _ heq)
      · rintro ⟨front, hp, hx, hbefore⟩
        cases front with
        | nil =>
          rw [hnil] at hx
          cases hx
        | cons b front =>
          obtain ⟨rfl, hbeginning⟩ := List.cons_prefix_cons.mp hp
          refine ⟨front, hbeginning, hx, fun early hearly hne => ?_⟩
          exact hbefore _ ((List.prefix_cons_inj b).mpr hearly) fun heq => hne (List.cons.inj heq).2

/-! ## 5. A shutdown -/

/-- The time is up for a wait that began at a given time and has a limit. -/
def Due (limit : Option Nat) (since now : Nat) : Prop := ∃ ms, limit = some ms ∧ since + ms ≤ now

/-- There is a session, and the time is not up. -/
def GoesOn (limit : Option Nat) (since : Nat) (r : Roster) : Prop :=
  0 < r.held ∧ ¬ Due limit since r.now

section

variable {r : Roster} {limit : Option Nat} {since : Nat}

theorem comesTo_eq_ok_iff {deadline : Option Nat} (h : Sound r) :
    r.comesTo deadline = some (.ok ()) ↔ r.held = 0 := by
  rw [← h.live_eq_held]
  exact Registry.drained_eq_ok_iff

theorem comesTo_eq_none_iff (h : Sound r) :
    r.comesTo (limit.map (since + ·)) = none ↔ GoesOn limit since r := by
  unfold GoesOn
  rw [← h.live_eq_held]
  refine Registry.drained_eq_none_iff.trans (and_congr_right fun _ => ?_)
  unfold Due
  cases limit with
  | none => simp
  | some ms => simp

theorem comesTo_eq_error_iff (h : Sound r) {timeout : DrainTimeout} :
    r.comesTo (limit.map (since + ·)) = some (.error timeout) ↔
      0 < r.held ∧ Due limit since r.now ∧ timeout.remaining = r.held := by
  rw [← h.live_eq_held]
  refine Registry.drained_eq_error_iff.trans (and_congr_right fun _ => and_congr_left fun _ => ?_)
  unfold Due
  cases limit with
  | none => simp
  | some ms => simp

end

/-- The wait of a shutdown begins with a look. -/
theorem drain_begun (called : Roster) (limit : Option Nat) :
    (called.act (.shutdown limit)).drains[called.drains.length]? =
      some ⟨limit.map (called.now + ·),
        (called.act (.shutdown limit)).comesTo (limit.map (called.now + ·))⟩ :=
  List.getElem?_concat_length

/-- The moments at which a wait looks are moments of the run. -/
theorem sound_of_mem_looks {r s : Roster} (h : Sound r) {n : Nat} {acts : List RosterAct}
    (hs : s ∈ looks n r acts) : Sound s := by
  induction acts generalizing r with
  | nil => cases hs
  | cons a acts ih =>
    rcases List.mem_append.mp hs with hlooked | hlater
    · split at hlooked
      · rw [List.mem_singleton.mp hlooked]
        exact h
      · cases hlooked
    · exact ih (h.act a) hlater

section

variable {begun : Roster} {n : Nat} {limit : Option Nat} {since : Nat}

/-- **What a wait comes to that began with a look**, by the moments at which it looks. -/
theorem drain_seen (h : Sound begun)
    (hbegun : begun.drains[n]? =
      some ⟨limit.map (since + ·), begun.comesTo (limit.map (since + ·))⟩)
    (after : List RosterAct) :
    let deadline := limit.map (since + ·)
    let seen := begun :: looks n begun after
    ∃ result, (begun.run after).drains[n]? = some ⟨deadline, result⟩ ∧
      (result = none ↔ ∀ s ∈ seen, GoesOn limit since s) ∧
      ∀ x, result = some x ↔ ∃ early s late, seen = early ++ s :: late ∧
        (∀ e ∈ early, GoesOn limit since e) ∧ s.comesTo deadline = some x := by
  intro deadline seen
  have hsound : ∀ s ∈ seen, Sound s := by
    intro s hs
    rcases List.mem_cons.mp hs with rfl | hs
    · exact h
    · exact sound_of_mem_looks h hs
  have hgoesOn : ∀ s ∈ seen, s.comesTo deadline = none ↔ GoesOn limit since s :=
    fun s hs => comesTo_eq_none_iff (hsound s hs)
  refine ⟨seen.findSome? (·.comesTo deadline), ?_, ?_, fun x => ?_⟩
  · rw [drain_run hbegun, List.findSome?_cons]
    cases begun.comesTo deadline <;> rfl
  · rw [List.findSome?_eq_none_iff]
    exact forall₂_congr hgoesOn
  · rw [List.findSome?_eq_some_iff]
    constructor
    · rintro ⟨early, s, late, hseen, hx, hbefore⟩
      refine ⟨early, s, late, hseen, fun e he => ?_, hx⟩
      exact (hgoesOn e (hseen ▸ List.mem_append_left _ he)).mp (hbefore e he)
    · rintro ⟨early, s, late, hseen, hbefore, hx⟩
      refine ⟨early, s, late, hseen, hx, fun e he => ?_⟩
      exact (hgoesOn e (hseen ▸ List.mem_append_left _ he)).mpr (hbefore e he)

/-- A later moment is not at an earlier time. -/
theorem now_attended_le {early front : List RosterAct} (h : early <+: front) :
    (begun.run (attended n early)).now ≤ (begun.run (attended n front)).now := by
  obtain ⟨more, rfl⟩ := h
  unfold attended
  rw [List.flatMap_append, run_append]
  exact now_le_run _ _

/-- Between two moments the clock stands, or goes on and no session comes or goes. -/
theorem clock_attended (begun : Roster) (n : Nat) (early : List RosterAct) (a : RosterAct) :
    (begun.run (attended n (early ++ [a]))).now = (begun.run (attended n early)).now ∨
      (begun.run (attended n (early ++ [a]))).guards = (begun.run (attended n early)).guards := by
  obtain ⟨s, hs, -, hclock⟩ := run_attended_concat begun n early a
  rw [hs]
  exact hclock.imp id And.right

/-- At that moment of a run in which the wait is polled behind every act, it goes on. -/
def GoesOnAt (begun : Roster) (n : Nat) (limit : Option Nat) (since : Nat)
    (front : List RosterAct) : Prop :=
  GoesOn limit since (begun.run (attended n front))

/-- Before a moment that is the first of its kind the wait goes on. -/
theorem Before.previous {P : List RosterAct → Prop} {early : List RosterAct} {a : RosterAct}
    (h : Before P (early ++ [a])) : P early :=
  h early (List.prefix_append early [a]) (by simp)

/-- A wait that has gone on until there is no session has not gone on for too long. -/
theorem now_le_of_before {front : List RosterAct} (hsince : begun.now = since)
    (h : Before (GoesOnAt begun n limit since) front)
    (hnone : (begun.run (attended n front)).held = 0) {ms : Nat} (hms : limit = some ms) :
    (begun.run (attended n front)).now ≤ since + ms := by
  rcases List.eq_nil_or_concat front with rfl | ⟨early, a, rfl⟩
  · exact hsince ▸ Nat.le_add_right _ _
  · rw [List.concat_eq_append] at h hnone ⊢
    obtain ⟨hlive, hnotDue⟩ := h.previous
    rcases clock_attended begun n early a with hnow | hguards
    · rw [hnow]
      exact Nat.le_of_not_le fun hle => hnotDue ⟨ms, hms, hle⟩
    · have hsame : (begun.run (attended n (early ++ [a]))).held =
          (begun.run (attended n early)).held := congrArg (List.countP _) hguards
      rw [hnone] at hsame
      exact absurd hsame.symm (Nat.ne_of_gt hlive)

/-- A wait that has gone on until the time is up ends when the clock comes to that time, and no session
comes or goes while it does. -/
theorem guards_of_before {early : List RosterAct} {a : RosterAct}
    (h : Before (GoesOnAt begun n limit since) (early ++ [a]))
    (hdue : Due limit since (begun.run (attended n (early ++ [a]))).now) :
    ¬ Due limit since (begun.run (attended n early)).now ∧
      (begun.run (attended n early)).guards =
        (begun.run (attended n (early ++ [a]))).guards := by
  obtain ⟨-, hnotDue⟩ := h.previous
  refine ⟨hnotDue, ?_⟩
  rcases clock_attended begun n early a with hnow | hguards
  · rw [hnow] at hdue
    exact absurd hdue hnotDue
  · exact hguards.symm

/-- Where a wait has failed, the time is up at every moment without a session: such a moment is
behind the one at which it failed. -/
theorem Before.due_of_empty {front failed after : List RosterAct}
    (h : Before (GoesOnAt begun n limit since) failed)
    (hlive : 0 < (begun.run (attended n failed)).held)
    (hdue : Due limit since (begun.run (attended n failed)).now) (hfailed : failed <+: after)
    (hfront : front <+: after) (hnone : (begun.run (attended n front)).held = 0) :
    Due limit since (begun.run (attended n front)).now := by
  obtain ⟨ms, hms, hup⟩ := hdue
  have hne : front ≠ failed := by
    rintro rfl
    exact Nat.ne_of_gt hlive hnone
  rcases List.prefix_or_prefix_of_prefix hfront hfailed with hin | hin
  · exact absurd hnone (Nat.ne_of_gt (h front hin hne).1)
  · exact ⟨ms, hms, Nat.le_trans hup (now_attended_le hin)⟩

/-- **What a wait comes to that is polled behind every act**, by the sessions and the clock. -/
theorem drain_moment (h : Sound begun) (hsince : begun.now = since)
    (hbegun : begun.drains[n]? =
      some ⟨limit.map (since + ·), begun.comesTo (limit.map (since + ·))⟩)
    (acts : List RosterAct) :
    let moment front := begun.run (attended n front)
    let reached front := Before (GoesOnAt begun n limit since) front
    ∃ result, (moment acts).drains[n]? = some ⟨limit.map (since + ·), result⟩ ∧
      (result = none ↔ ∀ front, front <+: acts → GoesOn limit since (moment front)) ∧
      (result = some (.ok ()) ↔ ∃ front, front <+: acts ∧ reached front ∧
        (moment front).held = 0 ∧ ∀ ms, limit = some ms → (moment front).now ≤ since + ms) ∧
      (∀ timeout, result = some (.error timeout) ↔ ∃ front, front <+: acts ∧ reached front ∧
        0 < (moment front).held ∧ Due limit since (moment front).now ∧
        timeout.remaining = (moment front).held ∧ ∀ early a, front = early ++ [a] →
          ¬ Due limit since (moment early).now ∧ (moment early).guards = (moment front).guards) := by
  intro moment reached
  have hsound : ∀ front, Sound (moment front) := fun front => sound_run h _
  have hbefore {front : List RosterAct} :
      Before (fun front => (moment front).comesTo (limit.map (since + ·)) = none) front ↔
        reached front :=
    forall₃_congr fun early _ _ => comesTo_eq_none_iff (hsound early)
  refine ⟨_, drain_attended hbegun acts, ?_, ?_, fun timeout => ?_⟩
  · rw [List.findSome?_eq_none_iff]
    refine forall_congr' fun front => ?_
    rw [List.mem_inits]
    exact imp_congr_right fun _ => comesTo_eq_none_iff (hsound front)
  · refine findSome?_inits_eq_some_iff.trans (exists_congr fun front => and_congr_right fun _ => ?_)
    rw [comesTo_eq_ok_iff (hsound front), hbefore]
    constructor
    · rintro ⟨hnone, hreached⟩
      exact ⟨hreached, hnone, fun _ => now_le_of_before hsince hreached hnone⟩
    · rintro ⟨hreached, hnone, -⟩
      exact ⟨hnone, hreached⟩
  · refine findSome?_inits_eq_some_iff.trans (exists_congr fun front => and_congr_right fun _ => ?_)
    rw [comesTo_eq_error_iff (hsound front), hbefore]
    constructor
    · rintro ⟨⟨hlive, hdue, hremaining⟩, hreached⟩
      refine ⟨hreached, hlive, hdue, hremaining, ?_⟩
      rintro early a rfl
      exact guards_of_before hreached hdue
    · rintro ⟨hreached, hlive, hdue, hremaining, -⟩
      exact ⟨⟨hlive, hdue, hremaining⟩, hreached⟩

end

/-- **What a shutdown comes to.** Whatever was done with a roster before, and whatever is done after
it, the polls of its wait among it in any order, at every moment from the call on: all sessions are
told to end, those among them that were registered since. The wait looks when it is called and at each
poll. It goes on as long as with every look there was a session, registered before the call or since,
and the time was not up. It ends well with the first look that finds no session, if the time was not up
with one before. It fails with a look that finds the time up and a session, if all before it found
neither no session nor the time up, and tells how many sessions that look found, of which there is at
least one. Without a limit it does not fail.

Where its task is polled behind every act, as it is when it is woken by each, it sees every moment: it
goes on as long as at every moment there was a session and the time was not up. It ends well with the
first moment without a session, if the time was not up before, and then the clock does not show more
than the limit allows. It fails with the moment at which the time is up, if until then there was a
session at every moment: the clock had not reached that time before, and no session came or went while
it did. By the clock: it has ended well if there was no session at a time before that, and has failed
if that time is there and there was a session at all times up to it. What is done at one reading of the
clock is done in an order: where the clock comes to the time that is up while there is a session, the
wait has failed, though that session may leave with the clock still there. -/
theorem drain_result (slots : Nat) (before : List RosterAct) (limit : Option Nat) :
    let called := ({ freeSlots := slots } : Roster).run before
    let n := called.drains.length
    let deadline := limit.map (called.now + ·)
    let begun := called.act (.shutdown limit)
    let up (s : Roster) := Due limit called.now s.now
    let goesOn (s : Roster) := 0 < s.held ∧ ¬ up s
    (∀ after, let present := begun.run after
      let seen := begun :: looks n begun after
      (∀ g ∈ present.guards, present.isCancelled g = true) ∧
        present.registry.live = present.held ∧
        ∃ result, present.drains[n]? = some ⟨deadline, result⟩ ∧
          (result = none ↔ ∀ s ∈ seen, goesOn s) ∧
          (result = some (.ok ()) ↔ ∃ early s late, seen = early ++ s :: late ∧
            (∀ e ∈ early, goesOn e) ∧ s.held = 0) ∧
          (∀ timeout, result = some (.error timeout) ↔ ∃ early s late, seen = early ++ s :: late ∧
            (∀ e ∈ early, goesOn e) ∧ 0 < s.held ∧ up s ∧ timeout.remaining = s.held) ∧
          (limit = none → ∀ timeout, result ≠ some (.error timeout))) ∧
    ∀ acts, let moment front := begun.run (attended n front)
      let reached front := Before (fun early => goesOn (moment early)) front
      ∃ result, (moment acts).drains[n]? = some ⟨deadline, result⟩ ∧
        (result = none ↔ ∀ front, front <+: acts → goesOn (moment front)) ∧
        (result = some (.ok ()) ↔ ∃ front, front <+: acts ∧ reached front ∧
          (moment front).held = 0 ∧
          ∀ ms, limit = some ms → (moment front).now ≤ called.now + ms) ∧
        (∀ timeout, result = some (.error timeout) ↔ ∃ front, front <+: acts ∧ reached front ∧
          0 < (moment front).held ∧ up (moment front) ∧
          timeout.remaining = (moment front).held ∧ ∀ early a, front = early ++ [a] →
            ¬ up (moment early) ∧ (moment early).guards = (moment front).guards) ∧
        ∀ ms, limit = some ms →
          ((∃ front, front <+: acts ∧ (moment front).held = 0 ∧
              (moment front).now < called.now + ms) → result = some (.ok ())) ∧
          (called.now + ms ≤ (moment acts).now →
            (∀ front, front <+: acts → (moment front).held = 0 →
              called.now + ms < (moment front).now) →
            ∃ timeout, result = some (.error timeout)) := by
  intro called n deadline begun up goesOn
  have hbegun : Sound begun := (sound_run (sound_start slots) before).act _
  have hdrain := drain_begun called limit
  refine ⟨fun after => ?_, fun acts => ?_⟩
  · intro present seen
    have hpresent : Sound present := sound_run hbegun after
    have hseen {early : List Roster} {s : Roster} {late : List Roster}
        (hsplit : seen = early ++ s :: late) : Sound s := by
      have hs : s ∈ seen := by
        rw [hsplit]
        exact List.mem_append_right _ List.mem_cons_self
      rcases List.mem_cons.mp hs with rfl | hs
      · exact hbegun
      · exact sound_of_mem_looks hbegun hs
    obtain ⟨result, hresult, hnone, hsome⟩ := drain_seen hbegun hdrain after
    refine ⟨fun g _ => ?_, hpresent.live_eq_held, result, hresult, hnone, ?_, fun timeout => ?_, ?_⟩
    · have hcancelled : present.registry.cancelled = true :=
        cancelled_run (r := begun) rfl after
      unfold isCancelled
      rw [hcancelled, Bool.or_true]
    · refine (hsome _).trans (exists₃_congr fun early s late => and_congr_right fun hsplit => ?_)
      exact and_congr_right fun _ => comesTo_eq_ok_iff (hseen hsplit)
    · refine (hsome _).trans (exists₃_congr fun early s late => and_congr_right fun hsplit => ?_)
      exact and_congr_right fun _ => comesTo_eq_error_iff (hseen hsplit)
    · rintro rfl timeout hfailed
      obtain ⟨early, s, late, hsplit, -, hcomes⟩ := (hsome _).mp hfailed
      obtain ⟨-, ⟨ms, hms, -⟩, -⟩ := (comesTo_eq_error_iff (hseen hsplit)).mp hcomes
      cases hms
  · intro moment reached
    obtain ⟨result, hresult, hnone, hok, herror⟩ := drain_moment hbegun rfl hdrain acts
    refine ⟨result, hresult, hnone, hok, herror, fun ms hms => ⟨?_, fun hup hlate => ?_⟩⟩
    · rintro ⟨front, hp, hheld, hnow⟩
      match hcome : result with
      | none => exact absurd hheld (Nat.ne_of_gt (hnone.mp rfl front hp).1)
      | some (.ok ()) => rfl
      | some (.error timeout) =>
        obtain ⟨failed, hp', hreached, hlive, hdue, -⟩ := (herror timeout).mp rfl
        obtain ⟨ms', hms', hover⟩ := hreached.due_of_empty hlive hdue hp' hp hheld
        obtain rfl : ms = ms' := Option.some.inj (hms.symm.trans hms')
        exact absurd hnow (Nat.not_lt_of_le hover)
    · match hcome : result with
      | none => exact absurd ⟨ms, hms, hup⟩ (hnone.mp rfl acts List.prefix_rfl).2
      | some (.ok ()) =>
        obtain ⟨front, hp, -, hheld, hnow⟩ := hok.mp rfl
        exact absurd (hnow ms hms) (Nat.not_le_of_lt (hlate front hp hheld))
      | some (.error timeout) => exact ⟨timeout, rfl⟩

/-- **A moment without a session may be overlooked, and may come too late at the very time.** The only
session leaves at the call, and another one comes before the wait looks again: it goes on and fails
when the time is up. Or it leaves with the clock at the time that is up, and the wait has failed: its
task was polled when the clock came there. -/
theorem drain_overlooked :
    let peer : SocketAddress := { ip := .v4 127 0 0 1, port := 50000 }
    let begun := ({ freeSlots := 1 } : Roster).run [.register peer, .shutdown (some 50)]
    let left := begun.run [.drop 0]
    let late := begun.run [.advance 50, .poll 0, .drop 0]
    begun.held = 1 ∧ begun.now = 0 ∧ left.held = 0 ∧ left.now = 0 ∧
      (left.run [.register peer, .poll 0]).drains.map (·.result) = [none] ∧
      (left.run [.register peer, .poll 0, .advance 50, .poll 0]).drains.map (·.result) =
        [some (.error ⟨1⟩)] ∧
      late.held = 0 ∧ late.now = 50 ∧
      (late.run [.poll 0]).drains.map (·.result) = [some (.error ⟨1⟩)] := by
  decide +kernel

end TrafficRouter.Roster
