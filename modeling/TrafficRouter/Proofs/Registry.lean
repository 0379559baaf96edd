import TrafficRouter.Registry

/-!
# What the registry knows

The ids that have an entry, and what registering, classifying and leaving do to them.

* `Registry.deregister_of_split`: who leaves loses its entry and no one else does, and the count stays
  that of the entries;
* `Registry.drained_eq_ok_iff` and its partners: what a wait comes to.

NOT here: when a server does any of this.
-/

namespace TrafficRouter

/-- A list around one of its places, where something else may be put. -/
theorem exists_split_at {α : Type} {l : List α} {i : Nat} {a : α} (h : l[i]? = some a) :
    ∃ before after, l = before ++ a :: after ∧ ∀ b, l.set i b = before ++ b :: after := by
  obtain ⟨hlt, hget⟩ := List.getElem?_eq_some_iff.mp h
  refine ⟨l.take i, l.drop (i + 1), ?_, fun b => ?_⟩
  · conv => lhs; rw [← List.take_append_drop i l, List.drop_eq_getElem_cons hlt, hget]
  · rw [List.set_eq_take_append_cons_drop, if_pos hlt]

namespace Registry

/-- The ids that have an entry, in the order of their registration. -/
def ids (r : Registry) : List SessionId := r.entries.map (·.id)

variable (r : Registry) (id : SessionId)

@[simp] theorem ids_register (peer : SocketAddress) : (r.register id peer).ids = r.ids ++ [id] :=
  List.map_append

/-- A protocol that becomes known gives no one an entry and takes none away. -/
@[simp] theorem ids_setProtocol (protocol : Protocol) : (r.setProtocol id protocol).ids = r.ids := by
  show (r.entries.map _).map RegistryEntry.id = r.entries.map RegistryEntry.id
  rw [List.map_map]
  refine List.map_congr_left fun e _ => ?_
  show (if e.id = id then { e with protocol := some protocol } else e).id = e.id
  split <;> rfl

theorem ids_remove : (r.remove id).ids = r.ids.filter (· != id) := by
  show (r.entries.filter _).map (·.id) = (r.entries.map (·.id)).filter _
  rw [List.filter_map]
  rfl

theorem has_iff : r.has id = true ↔ id ∈ r.ids := by
  unfold has ids
  rw [List.any_eq_true, List.mem_map]
  constructor
  · rintro ⟨e, he, heq⟩
    exact ⟨e, he, beq_iff_eq.mp heq⟩
  · rintro ⟨e, he, heq⟩
    exact ⟨e, he, beq_iff_eq.mpr heq⟩

/-- A protocol that is set for an id that has no entry changes nothing. -/
theorem setProtocol_of_not_mem {r : Registry} {id : SessionId} (h : id ∉ r.ids)
    (protocol : Protocol) : r.setProtocol id protocol = r := by
  have hsame : r.entries.map (fun e => if e.id = id then { e with protocol := some protocol } else e)
      = r.entries := by
    refine (List.map_congr_left fun e hmem => if_neg fun heq => h ?_).trans (List.map_id _)
    exact heq ▸ List.mem_map_of_mem hmem
  unfold setProtocol
  rw [hsame]

/-- Who leaves takes no one else along. -/
theorem ids_deregister_sublist : (r.deregister id).ids.Sublist r.ids := by
  unfold deregister
  split
  · show (r.remove id).ids.Sublist r.ids
    rw [ids_remove]
    exact List.filter_sublist
  · exact List.Sublist.refl _

/-- Who leaves does not take back that all were told to end. -/
@[simp] theorem cancelled_deregister : (r.deregister id).cancelled = r.cancelled := by
  unfold deregister
  split <;> rfl

variable {r id}

/-- **Who leaves loses its entry, and no one else does**; the count stays that of the entries. -/
theorem deregister_of_split {before after : List SessionId} (h : r.ids = before ++ id :: after)
    (hnodup : r.ids.Nodup) (hlive : r.live = r.ids.length) :
    (r.deregister id).ids = before ++ after ∧
      (r.deregister id).live = (before ++ after).length ∧
      (r.deregister id).cancelled = r.cancelled := by
  have hmem : id ∈ r.ids := by
    rw [h]
    exact List.mem_append_right _ List.mem_cons_self
  have hleaves : r.deregister id = (r.remove id).lower := if_pos ((has_iff r id).mpr hmem)
  rw [h, List.nodup_append] at hnodup
  obtain ⟨-, hafter, hdisjoint⟩ := hnodup
  have hbefore_ne : ∀ i ∈ before, (i != id) = true := fun i hi =>
    bne_iff_ne.mpr (hdisjoint i hi id List.mem_cons_self)
  have hafter_ne : ∀ i ∈ after, (i != id) = true := fun i hi =>
    bne_iff_ne.mpr fun heq => (List.nodup_cons.mp hafter).1 (heq ▸ hi)
  rw [hleaves]
  refine ⟨?_, ?_, rfl⟩
  · show (r.remove id).ids = _
    rw [ids_remove, h, List.filter_append, List.filter_eq_self.mpr hbefore_ne,
      List.filter_cons_of_neg (by simp), List.filter_eq_self.mpr hafter_ne]
  · show r.live - 1 = _
    rw [hlive, h, List.length_append, List.length_append, List.length_cons]
    omega

/-- **A wait ends well without sessions**, and otherwise at its deadline. -/
theorem drained_cases {now : Nat} {deadline : Option Nat} {result : Except DrainTimeout Unit}
    (h : r.drained now deadline = some result) :
    r.live = 0 ∧ result = .ok () ∨
      ∃ d, deadline = some d ∧ d ≤ now ∧ result = .error ⟨r.live⟩ := by
  unfold drained at h
  by_cases hlive : r.live = 0
  · rw [if_pos hlive, Option.some.injEq] at h
    exact Or.inl ⟨hlive, h.symm⟩
  · rw [if_neg hlive] at h
    cases deadline with
    | none => simp at h
    | some d =>
      by_cases hle : d ≤ now
      · simp only [Option.any_some, hle, decide_true, if_true, Option.some.injEq] at h
        exact Or.inr ⟨d, rfl, hle, h.symm⟩
      · simp [hle] at h

section

variable {now : Nat} {deadline : Option Nat}

/-- A wait ends well exactly without sessions. -/
theorem drained_eq_ok_iff : r.drained now deadline = some (.ok ()) ↔ r.live = 0 := by
  constructor
  · intro h
    rcases drained_cases h with ⟨hlive, -⟩ | ⟨d, -, -, hresult⟩
    · exact hlive
    · cases hresult
  · exact fun hlive => if_pos hlive

/-- **A wait goes on** exactly while there are sessions and its deadline is ahead. -/
theorem drained_eq_none_iff :
    r.drained now deadline = none ↔ 0 < r.live ∧ ∀ d, deadline = some d → now < d := by
  unfold drained
  by_cases hlive : r.live = 0
  · simp [hlive]
  · rw [if_neg hlive]
    cases deadline with
    | none => simp [Nat.pos_of_ne_zero hlive]
    | some d =>
      by_cases hle : d ≤ now
      · simp [hle]
      · simp [hle, Nat.pos_of_ne_zero hlive]
        omega

/-- **A wait fails** exactly at its deadline, with the sessions that there are then, of which there is
at least one. -/
theorem drained_eq_error_iff {t : DrainTimeout} :
    r.drained now deadline = some (.error t) ↔
      0 < r.live ∧ (∃ d, deadline = some d ∧ d ≤ now) ∧ t.remaining = r.live := by
  constructor
  · intro h
    have hlive : 0 < r.live := by
      refine Nat.pos_of_ne_zero fun hnone => ?_
      rw [drained_eq_ok_iff.mpr hnone] at h
      cases h
    rcases drained_cases h with ⟨-, hresult⟩ | ⟨d, hd, hle, hresult⟩
    · cases hresult
    · cases hresult
      exact ⟨hlive, ⟨d, hd, hle⟩, rfl⟩
  · rintro ⟨hlive, ⟨d, rfl, hle⟩, hremaining⟩
    unfold drained
    rw [if_neg (Nat.ne_of_gt hlive), Option.any_some, decide_eq_true hle, if_pos rfl, ← hremaining]

end

end Registry

end TrafficRouter
