import Mathlib.Data.List.Induction
import TrafficRouter.Proofs.Registry
import TrafficRouter.Proofs.Shutdown.ChildTokens

/-!
# Registries that share their ids

Any number of registries at work at once. What is done to them is a `RegistryAct`; a registration
and a departure are two acts each, and acts of others may come between the two. A session's `Stay`
says which half of which it has behind it, and holds a child of the token of its registry.

* `Registries.Accounted`, `accounted_run`: entries, published counts and flags of all registries,
  read off the stays and the acts so far;
* `Registries.Rooted`, `rooted_run`: the tokens of registries and sessions, read off the acts so far;
* `registries_agree`: no id is given out twice, no count is lowered from zero, and a registry that
  no one is entering or leaving knows the sessions whose guards are held and what was last said of
  each.

NOT here: waits for the sessions to end, which change nothing in a registry.
-/

namespace TrafficRouter

/-! ## 1. Acts -/

/-- How far the stay of a session in its registry is. -/
inductive StayStage where
  /-- It has its entry and is not counted yet. -/
  | entering
  /-- It is registered, and its guard is held. -/
  | held
  /-- Its guard was dropped: its entry is gone and it is counted still. -/
  | leaving
  | over
  deriving DecidableEq, Repr

/-- Whether a session has its entry. -/
def StayStage.hasEntry : StayStage → Bool
  | .entering | .held => true
  | .leaving | .over => false

/-- Whether a session is counted. -/
def StayStage.isCounted : StayStage → Bool
  | .held | .leaving => true
  | .entering | .over => false

/-- The stay of a session in one of so many registries, which is known by its number, and the token
by which the session is told to end. -/
structure Stay (n : Nat) (Token : Type) where
  registry : Fin n
  id : SessionId
  peer : SocketAddress
  token : Token
  stage : StayStage := .entering
  deriving DecidableEq, Repr

/-- So many registries and the token of each, the state of all tokens, the id to be given next by any
registry, and all stays that there ever were, in order of registration. -/
structure Registries (n : Nat) {World Token : Type} (lib : TokenTree World Token) where
  registry : Fin n → Registry := fun _ => {}
  root : Fin n → Token := (lib.roots n).1
  world : World := (lib.roots n).2
  nextId : SessionId := firstSessionId
  stays : List (Stay n Token) := []

/-- What is done to registries. A stay is known by its place. -/
inductive RegistryAct (n : Nat) where
  /-- The first half of a registration: an id is taken, and the session gets its token and its
  entry. -/
  | insert (registry : Fin n) (peer : SocketAddress)
  /-- The second half of a registration. Its guard is held from now on. -/
  | raise (place : Nat)
  /-- A guard is dropped: the first half of a departure. -/
  | remove (place : Nat)
  /-- The second half of a departure. -/
  | lower (place : Nat)
  /-- A protocol is set for an id, whoever has it or had it. -/
  | setProtocol (registry : Fin n) (id : SessionId) (protocol : Protocol)
  /-- All sessions of a registry are told to end, as a shutdown does first: its token is cancelled. -/
  | cancelAll (registry : Fin n)
  /-- An id is taken for no session. -/
  | takeId
  deriving DecidableEq, Repr

variable {n : Nat} {World Token : Type}

namespace Registries

variable {lib : TokenTree World Token}

/-- The registries with another one under a number. -/
def put (s : Registries n lib) (k : Fin n) (r : Registry) : Registries n lib :=
  { s with registry := fun j => if j = k then r else s.registry j }

/-- The registries with the stay at a place at another stage. -/
def move (s : Registries n lib) (place : Nat) (stay : Stay n Token) (stage : StayStage) :
    Registries n lib :=
  { s with stays := s.stays.set place { stay with stage } }

/-- What becomes of the registries when the stay at a place is at the stage that an act is for. Any
other act is out of turn and changes nothing. -/
def inTurn (s : Registries n lib) (place : Nat) (stage : StayStage)
    (next : Stay n Token → Registries n lib) : Registries n lib :=
  match s.stays[place]? with
  | some stay => if stay.stage = stage then next stay else s
  | none => s

/-- The stay that a registration begins, with a child of the token of its registry. -/
def newStay (s : Registries n lib) (k : Fin n) (peer : SocketAddress) : Stay n Token where
  registry := k
  id := s.nextId
  peer
  token := (lib.child s.world (s.root k)).1

/-- The registries behind an act. -/
def happen (s : Registries n lib) : RegistryAct n → Registries n lib
  | .insert k peer =>
    { s.put k ((s.registry k).insert s.nextId peer) with
      world := (lib.child s.world (s.root k)).2
      nextId := s.nextId + 1
      stays := s.stays ++ [s.newStay k peer] }
  | .raise place => s.inTurn place .entering fun stay =>
    (s.put stay.registry (s.registry stay.registry).raise).move place stay .held
  | .remove place => s.inTurn place .held fun stay =>
    if (s.registry stay.registry).has stay.id then
      (s.put stay.registry ((s.registry stay.registry).remove stay.id)).move place stay .leaving
    else s.move place stay .over
  | .lower place => s.inTurn place .leaving fun stay =>
    (s.put stay.registry (s.registry stay.registry).lower).move place stay .over
  | .setProtocol k id protocol => s.put k ((s.registry k).setProtocol id protocol)
  | .cancelAll k =>
    { s.put k (s.registry k).cancelAll with world := lib.cancel s.world (s.root k) }
  | .takeId => { s with nextId := s.nextId + 1 }

/-- The registries behind some acts. -/
def run (s : Registries n lib) (acts : List (RegistryAct n)) : Registries n lib :=
  acts.foldl happen s

/-- Whether the token of a session is cancelled. -/
def isCancelled (s : Registries n lib) (stay : Stay n Token) : Bool :=
  lib.isCancelled s.world stay.token

/-- Whether the token of a registry is cancelled. -/
def isShuttingDown (s : Registries n lib) (k : Fin n) : Bool := lib.isCancelled s.world (s.root k)

end Registries

/-! ## 2. What was said of a session -/

namespace RegistryAct

/-- Whether an act gives out an id. -/
def givesId : RegistryAct n → Bool
  | .insert .. | .takeId => true
  | .raise _ | .remove _ | .lower _ | .setProtocol .. | .cancelAll _ => false

/-- The protocol that an act sets for an id at a registry. -/
def sets (k : Fin n) (id : SessionId) : RegistryAct n → Option Protocol
  | .setProtocol k' id' protocol => if k' = k ∧ id' = id then some protocol else none
  | .insert .. | .raise _ | .remove _ | .lower _ | .cancelAll _ | .takeId => none

/-- The acts behind the one that gives out an id, when so many ids come before it. -/
def behind : Nat → List (RegistryAct n) → List (RegistryAct n)
  | _, [] => []
  | ids, act :: acts =>
    match act.givesId, ids with
    | false, ids => behind ids acts
    | true, 0 => acts
    | true, ids + 1 => behind ids acts

/-- The last protocol that was set for a session behind its registration. -/
def lastSet (acts : List (RegistryAct n)) (stay : Stay n Token) : Option Protocol :=
  ((behind (stay.id - firstSessionId) acts).filterMap (sets stay.registry stay.id)).getLast?

/-- What a registry is to know of a session. -/
def entryOf (acts : List (RegistryAct n)) (stay : Stay n Token) : RegistryEntry :=
  ⟨stay.id, stay.peer, lastSet acts stay⟩

theorem behind_append (acts : List (RegistryAct n)) (act : RegistryAct n) (ids : Nat) :
    behind ids (acts ++ [act]) =
      if ids < acts.countP givesId then behind ids acts ++ [act] else [] := by
  induction acts generalizing ids with
  | nil =>
    show behind ids [act] = []
    unfold behind
    split <;> rfl
  | cons first acts ih =>
    rw [List.cons_append]
    unfold behind
    cases hg : first.givesId with
    | false => simp only [hg, ih, List.countP_cons, Bool.false_eq_true, if_false, Nat.add_zero]
    | true =>
      cases ids with
      | zero => simp [hg]
      | succ ids => simp only [hg, ih, List.countP_cons, if_true, Nat.add_lt_add_iff_right]

variable {acts : List (RegistryAct n)} {stay : Stay n Token}

/-- An act has the last word on a session that it sets a protocol for. -/
theorem lastSet_append (h : stay.id - firstSessionId < acts.countP givesId) (act : RegistryAct n) :
    lastSet (acts ++ [act]) stay = (act.sets stay.registry stay.id).or (lastSet acts stay) := by
  unfold lastSet
  rw [behind_append, if_pos h, List.filterMap_append, List.getLast?_append]
  cases hs : act.sets stay.registry stay.id with
  | none => simp [hs]
  | some protocol => simp [hs]

/-- Nothing has been said of the session that an act registers. -/
theorem lastSet_new (h : stay.id - firstSessionId = acts.countP givesId) (act : RegistryAct n) :
    lastSet (acts ++ [act]) stay = none := by
  unfold lastSet
  rw [behind_append, if_neg (by rw [h]; exact Nat.lt_irrefl _)]
  rfl

/-- An act that sets no protocol for a session leaves what is to be known of it. -/
theorem entryOf_append (h : stay.id - firstSessionId < acts.countP givesId) {act : RegistryAct n}
    (hsets : act.sets stay.registry stay.id = none) :
    entryOf (acts ++ [act]) stay = entryOf acts stay := by
  unfold entryOf
  rw [lastSet_append h, hsets, Option.none_or]

end RegistryAct

/-! ## 3. The accounts -/

/-- Whether a session has its entry at a registry. -/
def Stay.knownTo (k : Fin n) (stay : Stay n Token) : Bool := stay.registry == k && stay.stage.hasEntry

/-- Whether a session is counted at a registry. -/
def Stay.countedBy (k : Fin n) (stay : Stay n Token) : Bool := stay.registry == k && stay.stage.isCounted

/-- A stay that is moved on is so at its own registry only. -/
theorem Stay.knownTo_moved {k : Fin n} {stay : Stay n Token} (h : k ≠ stay.registry) (stage : StayStage) :
    Stay.knownTo k { stay with stage } = stay.knownTo k := by
  unfold knownTo
  rw [beq_eq_false_iff_ne.mpr h.symm, Bool.false_and, Bool.false_and]

theorem Stay.countedBy_moved {k : Fin n} {stay : Stay n Token} (h : k ≠ stay.registry) (stage : StayStage) :
    Stay.countedBy k { stay with stage } = stay.countedBy k := by
  unfold countedBy
  rw [beq_eq_false_iff_ne.mpr h.symm, Bool.false_and, Bool.false_and]

@[simp] theorem Stay.knownTo_self (stay : Stay n Token) :
    stay.knownTo stay.registry = stay.stage.hasEntry := by
  unfold knownTo
  rw [beq_self_eq_true, Bool.true_and]

@[simp] theorem Stay.countedBy_self (stay : Stay n Token) :
    stay.countedBy stay.registry = stay.stage.isCounted := by
  unfold countedBy
  rw [beq_self_eq_true, Bool.true_and]

/-- The registry of a session and its token, which stay what they are. -/
def Stay.lease (stay : Stay n Token) : Fin n × Token := (stay.registry, stay.token)

namespace Registries

open RegistryAct

variable {lib : TokenTree World Token}

/-- **What all registries hold**, read off the stays and the acts so far. -/
structure Accounted (acts : List (RegistryAct n)) (s : Registries n lib) : Prop where
  nextId : s.nextId = firstSessionId + acts.countP givesId
  /-- Ids grow from stay to stay, at whichever registries. -/
  ids : (s.stays.map (·.id)).Pairwise (· < ·)
  given : ∀ stay ∈ s.stays, firstSessionId ≤ stay.id ∧ stay.id < s.nextId
  entries : ∀ k, (s.registry k).entries = (s.stays.filter (·.knownTo k)).map (entryOf acts)
  live : ∀ k, (s.registry k).live = s.stays.countP (·.countedBy k)
  cancelled : ∀ k, (s.registry k).cancelled = true ↔ RegistryAct.cancelAll k ∈ acts

theorem Accounted.start : Accounted [] ({} : Registries n lib) where
  nextId := rfl
  ids := List.Pairwise.nil
  given := fun _ h => absurd h List.not_mem_nil
  entries := fun _ => rfl
  live := fun _ => rfl
  cancelled := fun _ => ⟨fun h => absurd h Bool.false_ne_true, fun h => absurd h List.not_mem_nil⟩

variable {acts : List (RegistryAct n)} {act : RegistryAct n} {s : Registries n lib} {place : Nat}
  {stay : Stay n Token}

/-- The stays around that at a place, which may be moved. -/
theorem stays_split (h : s.stays[place]? = some stay) :
    ∃ before after, s.stays = before ++ stay :: after ∧
      ∀ stage, (s.move place stay stage).stays = before ++ { stay with stage } :: after := by
  obtain ⟨before, after, hstays, hset⟩ := exists_split_at h
  exact ⟨before, after, hstays, fun stage => hset _⟩

/-- What a registry has in common with the one that takes its place is so at every registry. -/
theorem put_same {k : Fin n} (r : Registry) {α : Type} (field : Registry → α)
    (hsame : field r = field (s.registry k)) (j : Fin n) :
    field ((s.put k r).registry j) = field (s.registry j) := by
  show field (if j = k then r else s.registry j) = _
  by_cases hj : j = k
  · rw [if_pos hj, hj, hsame]
  · rw [if_neg hj]

/-- Whether a registry was cancelled is not changed by another act. -/
theorem cancelAll_mem_append {k : Fin n} (hne : act ≠ .cancelAll k) :
    RegistryAct.cancelAll k ∈ acts ++ [act] ↔ RegistryAct.cancelAll k ∈ acts := by
  rw [List.mem_append, List.mem_singleton, or_iff_left hne.symm]

/-- An act on a stay is in turn or changes nothing. -/
theorem inTurn_cases {stage : StayStage} {next : Stay n Token → Registries n lib}
    {P : Registries n lib → Prop}
    (idle : P s) (turn : ∀ stay, s.stays[place]? = some stay → stay.stage = stage → P (next stay)) :
    P (s.inTurn place stage next) := by
  unfold inTurn
  split
  case h_1 stay hget =>
    split
    case isTrue hstage => exact turn stay hget hstage
    case isFalse => exact idle
  case h_2 => exact idle

/-- A stay that is moved on changes no list that it was and is on, or was not and is not. -/
theorem filter_moved (before after : List (Stay n Token)) (stage : StayStage)
    {p : Stay n Token → Bool}
    (hp : p { stay with stage } = p stay) :
    ((before ++ { stay with stage } :: after).filter p).map (entryOf acts) =
      ((before ++ stay :: after).filter p).map (entryOf acts) := by
  simp only [List.filter_append, List.filter_cons, hp]
  split <;> simp [entryOf, lastSet]

theorem countP_moved (before after : List (Stay n Token)) (stage : StayStage)
    {p : Stay n Token → Bool}
    (hp : p { stay with stage } = p stay) :
    (before ++ { stay with stage } :: after).countP p = (before ++ stay :: after).countP p := by
  simp only [List.countP_append, List.countP_cons, hp]

namespace Accounted

variable (h : Accounted acts s)

include h

/-- An id that was given out was given out by an act of the past. -/
theorem past (hmem : stay ∈ s.stays) : stay.id - firstSessionId < acts.countP givesId := by
  obtain ⟨hfirst, hlt⟩ := h.given stay hmem
  rw [h.nextId] at hlt
  exact Nat.sub_lt_left_of_lt_add hfirst hlt

/-- An act that sets no protocol changes nothing of what is to be known. -/
theorem entryOf_past (hsets : ∀ k id, act.sets k id = none) (p : Stay n Token → Bool) :
    (s.stays.filter p).map (entryOf (acts ++ [act])) = (s.stays.filter p).map (entryOf acts) :=
  List.map_congr_left fun _ hmem =>
    entryOf_append (h.past (List.mem_filter.mp hmem).1) (hsets _ _)

/-- The id to be given next, behind an act that gives none. -/
theorem nextId_append (hgives : act.givesId = false) :
    s.nextId = firstSessionId + (acts ++ [act]).countP givesId := by
  rw [h.nextId, List.countP_append, List.countP_singleton, hgives]
  rfl

/-- The id to be given next, behind an act that gives one. -/
theorem nextId_succ (hgives : act.givesId = true) :
    s.nextId + 1 = firstSessionId + (acts ++ [act]).countP givesId := by
  rw [h.nextId, List.countP_append, List.countP_singleton, hgives]
  rfl

/-- An act that cancels no registry cancels none. -/
theorem cancelled_append (hact : ∀ k, act ≠ .cancelAll k) (k : Fin n) :
    (s.registry k).cancelled = true ↔ RegistryAct.cancelAll k ∈ acts ++ [act] := by
  rw [h.cancelled, cancelAll_mem_append (hact k)]

/-- An act out of turn leaves the accounts right. -/
theorem idle (hgives : act.givesId = false) (hsets : ∀ k id, act.sets k id = none)
    (hact : ∀ k, act ≠ .cancelAll k) : Accounted (acts ++ [act]) s where
  nextId := h.nextId_append hgives
  ids := h.ids
  given := h.given
  entries := fun k => by rw [h.entries, h.entryOf_past hsets]
  live := h.live
  cancelled := h.cancelled_append hact

/-- A stay is moved on, and its registry becomes one that has its entries and its count right. -/
theorem moved (hget : s.stays[place]? = some stay) {stage : StayStage} {r : Registry}
    (hgives : act.givesId = false) (hsets : ∀ k id, act.sets k id = none)
    (hact : ∀ k, act ≠ .cancelAll k)
    (hentries : r.entries =
      ((s.move place stay stage).stays.filter (·.knownTo stay.registry)).map (entryOf acts))
    (hlive : r.live = (s.move place stay stage).stays.countP (·.countedBy stay.registry))
    (hcancelled : r.cancelled = (s.registry stay.registry).cancelled) :
    Accounted (acts ++ [act]) ((s.put stay.registry r).move place stay stage) := by
  have hidle := h.idle hgives hsets hact
  obtain ⟨before, after, hstays, hset⟩ := stays_split hget
  have hmoved : ((s.put stay.registry r).move place stay stage).stays =
      before ++ { stay with stage } :: after := hset stage
  have hids : (before ++ { stay with stage } :: after).map Stay.id = s.stays.map Stay.id := by
    rw [hstays, List.map_append, List.map_cons, List.map_append, List.map_cons]
  -- what is to be known of the moved stays is not changed by the act
  have hpast : ∀ k, ((before ++ { stay with stage } :: after).filter (Stay.knownTo k)).map
      (entryOf (acts ++ [act])) =
      ((before ++ { stay with stage } :: after).filter (Stay.knownTo k)).map (entryOf acts) := by
    refine fun k => List.map_congr_left fun one hone => ?_
    obtain ⟨old, hold, hsame⟩ :=
      List.mem_map.mp (hids ▸ List.mem_map_of_mem (List.mem_filter.mp hone).1)
    exact entryOf_append (hsame ▸ h.past hold) (hsets _ _)
  constructor
  case nextId => exact hidle.nextId
  case ids => rw [hmoved, hids]; exact hidle.ids
  case given =>
    intro one hone
    obtain ⟨old, hold, hsame⟩ := List.mem_map.mp (hids ▸ List.mem_map_of_mem (hmoved ▸ hone))
    exact hsame ▸ h.given old hold
  case entries =>
    intro k
    rw [hmoved, hpast]
    show (if k = stay.registry then r else s.registry k).entries = _
    by_cases hk : k = stay.registry
    · rw [if_pos hk, hk, hentries, hset]
    · rw [if_neg hk, h.entries, hstays]
      exact (filter_moved before after stage (Stay.knownTo_moved hk stage)).symm
  case live =>
    intro k
    rw [hmoved]
    show (if k = stay.registry then r else s.registry k).live = _
    by_cases hk : k = stay.registry
    · rw [if_pos hk, hk, hlive, hset]
    · rw [if_neg hk, h.live, hstays]
      exact (countP_moved before after stage (Stay.countedBy_moved hk stage)).symm
  case cancelled =>
    intro k
    rw [← hidle.cancelled, ← put_same r Registry.cancelled hcancelled k]
    rfl

/-- The entries of a registry are those of its stays, also when one stay is moved on that keeps its
entry or has none. -/
theorem entries_move (hget : s.stays[place]? = some stay) {stage : StayStage}
    (hsame : stage.hasEntry = stay.stage.hasEntry) :
    (s.registry stay.registry).entries =
      ((s.move place stay stage).stays.filter (·.knownTo stay.registry)).map (entryOf acts) := by
  obtain ⟨before, after, hstays, hset⟩ := stays_split hget
  rw [h.entries, hset, hstays]
  refine (filter_moved before after stage ?_).symm
  rw [Stay.knownTo_self stay, ← hsame]
  exact Stay.knownTo_self _

/-- The count of a registry differs from that of its stays by the one that is moved on. -/
theorem live_move (hget : s.stays[place]? = some stay) (stage : StayStage) :
    (s.registry stay.registry).live + stage.isCounted.toNat =
      (s.move place stay stage).stays.countP (·.countedBy stay.registry) +
        stay.stage.isCounted.toNat := by
  obtain ⟨before, after, hstays, hset⟩ := stays_split hget
  have hmoved : Stay.countedBy stay.registry { stay with stage } = stage.isCounted :=
    Stay.countedBy_self _
  rw [h.live, hset, hstays]
  simp only [List.countP_append, List.countP_cons, Stay.countedBy_self, hmoved]
  cases stage.isCounted <;> cases stay.stage.isCounted <;> simp <;> omega

/-- An id names one stay. -/
theorem filter_id {before after : List (Stay n Token)} (hstays : s.stays = before ++ stay :: after) :
    s.stays.filter (·.id != stay.id) = before ++ after := by
  have hids := h.ids
  rw [hstays, List.map_append, List.map_cons, List.pairwise_append, List.pairwise_cons] at hids
  obtain ⟨-, ⟨hlater, -⟩, hearlier⟩ := hids
  have hbefore : ∀ one ∈ before, (one.id != stay.id) = true := fun one hone =>
    bne_iff_ne.mpr (Nat.ne_of_lt (hearlier _ (List.mem_map_of_mem hone) _ List.mem_cons_self))
  have hafter : ∀ one ∈ after, (one.id != stay.id) = true := fun one hone =>
    bne_iff_ne.mpr (Nat.ne_of_gt (hlater _ (List.mem_map_of_mem hone)))
  rw [hstays, List.filter_append, List.filter_eq_self.mpr hbefore,
    List.filter_cons_of_neg (by simp), List.filter_eq_self.mpr hafter]

/-- A session that has its entry is found by its id. -/
theorem has (hmem : stay ∈ s.stays) (hentry : stay.stage.hasEntry = true) :
    (s.registry stay.registry).has stay.id = true := by
  refine (Registry.has_iff _ _).mpr (List.mem_map.mpr ⟨entryOf acts stay, ?_, rfl⟩)
  rw [h.entries]
  exact List.mem_map_of_mem (List.mem_filter.mpr ⟨hmem, (Stay.knownTo_self stay).trans hentry⟩)

/-- **The first half of a registration keeps the accounts.** -/
theorem insert (k : Fin n) (peer : SocketAddress) :
    Accounted (acts ++ [.insert k peer]) (s.happen (.insert k peer)) := by
  have hold : ∀ p : Stay n Token → Bool, (s.stays.filter p).map (entryOf (acts ++ [.insert k peer])) =
      (s.stays.filter p).map (entryOf acts) := h.entryOf_past fun _ _ => rfl
  have hnew : entryOf (acts ++ [.insert k peer]) (s.newStay k peer) =
      { id := s.nextId, peer } := by
    unfold entryOf
    rw [lastSet_new]
    · rfl
    show s.nextId - firstSessionId = _
    rw [h.nextId]
    exact Nat.add_sub_cancel_left _ _
  constructor
  case nextId => exact h.nextId_succ rfl
  case ids =>
    show ((s.stays ++ [_]).map Stay.id).Pairwise (· < ·)
    rw [List.map_append, List.pairwise_append]
    refine ⟨h.ids, List.pairwise_singleton _ _, fun id hid new hnew => ?_⟩
    obtain ⟨old, hmem, rfl⟩ := List.mem_map.mp hid
    rw [List.mem_singleton.mp hnew]
    exact (h.given old hmem).2
  case given =>
    intro one hone
    rcases List.mem_append.mp hone with hmem | hmem
    · exact ⟨(h.given one hmem).1, Nat.lt_succ_of_lt (h.given one hmem).2⟩
    · rw [List.mem_singleton.mp hmem]
      refine ⟨?_, Nat.lt_succ_self _⟩
      show firstSessionId ≤ s.nextId
      rw [h.nextId]
      exact Nat.le_add_right _ _
  case entries =>
    intro j
    show (if j = k then (s.registry k).insert s.nextId peer else s.registry j).entries =
      ((s.stays ++ [s.newStay k peer]).filter _).map _
    rw [List.filter_append, List.map_append, hold]
    by_cases hj : j = k
    · subst hj
      rw [if_pos rfl]
      show (s.registry j).entries ++ _ = _
      rw [h.entries, List.filter_cons_of_pos (Stay.knownTo_self _), List.filter_nil,
        List.map_singleton, hnew]
    · rw [if_neg hj, h.entries, List.filter_cons_of_neg, List.filter_nil, List.map_nil,
        List.append_nil]
      simp [Stay.knownTo, newStay, Ne.symm hj]
  case live =>
    intro j
    show _ = (s.stays ++ [s.newStay k peer]).countP _
    rw [List.countP_append, ← h.live, List.countP_singleton,
      if_neg (by simp [Stay.countedBy, newStay, StayStage.isCounted] : ¬Stay.countedBy j _ = true)]
    exact put_same ((s.registry k).insert s.nextId peer) Registry.live rfl j
  case cancelled =>
    intro j
    have hact : ∀ i, RegistryAct.insert k peer ≠ .cancelAll i := fun _ => nofun
    rw [← h.cancelled_append hact]
    exact iff_of_eq (congrArg (· = true)
      (put_same ((s.registry k).insert s.nextId peer) Registry.cancelled rfl j))

/-- **The second half of a registration keeps the accounts.** -/
theorem raise (place : Nat) : Accounted (acts ++ [.raise place]) (s.happen (.raise place)) := by
  refine inTurn_cases (h.idle rfl (fun _ _ => rfl) fun _ => nofun) ?_
  intro stay hget hstage
  refine h.moved hget rfl (fun _ _ => rfl) (fun _ => nofun) ?_ ?_ rfl
  · exact h.entries_move hget (by rw [hstage]; rfl)
  · have hlive := h.live_move hget .held
    rw [hstage] at hlive
    exact hlive

/-- **The first half of a departure keeps the accounts.** It finds the entry. -/
theorem remove (place : Nat) : Accounted (acts ++ [.remove place]) (s.happen (.remove place)) := by
  refine inTurn_cases (h.idle rfl (fun _ _ => rfl) fun _ => nofun) ?_
  intro stay hget hstage
  show Accounted _ (if _ then _ else _)
  rw [if_pos (h.has (List.mem_of_getElem? hget) (by rw [hstage]; rfl))]
  refine h.moved hget rfl (fun _ _ => rfl) (fun _ => nofun) ?_ ?_ rfl
  · obtain ⟨before, after, hstays, hset⟩ := stays_split hget
    show (s.registry stay.registry).entries.filter (·.id != stay.id) = _
    rw [h.entries, List.filter_map]
    show ((s.stays.filter (·.knownTo stay.registry)).filter (·.id != stay.id)).map _ = _
    have hothers : (s.stays.filter (·.knownTo stay.registry)).filter (·.id != stay.id) =
        (before ++ after).filter (·.knownTo stay.registry) := by
      rw [← h.filter_id hstays, List.filter_filter, List.filter_filter]
      exact List.filter_congr fun _ _ => Bool.and_comm _ _
    rw [hothers, hset, List.filter_append, List.filter_append,
      List.filter_cons_of_neg (Bool.eq_false_iff.mp (Stay.knownTo_self _))]
  · have hlive := h.live_move hget .leaving
    rw [hstage] at hlive
    exact Nat.add_right_cancel hlive

/-- **The second half of a departure keeps the accounts.** The count is not zero before it. -/
theorem lower (place : Nat) : Accounted (acts ++ [.lower place]) (s.happen (.lower place)) := by
  refine inTurn_cases (h.idle rfl (fun _ _ => rfl) fun _ => nofun) ?_
  intro stay hget hstage
  refine h.moved hget rfl (fun _ _ => rfl) (fun _ => nofun) ?_ ?_ rfl
  · exact h.entries_move hget (by rw [hstage]; rfl)
  · have hlive := h.live_move hget .over
    rw [hstage] at hlive
    exact Nat.sub_eq_of_eq_add hlive

/-- **A protocol that is set keeps the accounts**: it has the last word on a session that has its
entry under that id, and on no other. -/
theorem setProtocol (k : Fin n) (id : SessionId) (protocol : Protocol) :
    Accounted (acts ++ [.setProtocol k id protocol]) (s.happen (.setProtocol k id protocol)) := by
  constructor
  case nextId => exact h.nextId_append rfl
  case ids => exact h.ids
  case given => exact h.given
  case entries =>
    intro j
    show (if j = k then (s.registry k).setProtocol id protocol else s.registry j).entries = _
    by_cases hj : j = k
    · subst hj
      rw [if_pos rfl]
      show (s.registry j).entries.map _ = _
      rw [h.entries, List.map_map]
      refine List.map_congr_left fun stay hmem => ?_
      obtain ⟨hstay, hknown⟩ := List.mem_filter.mp hmem
      have hregistry : stay.registry = j := beq_iff_eq.mp (Bool.and_eq_true_iff.mp hknown).1
      show (if stay.id = id then _ else entryOf acts stay) = entryOf _ stay
      by_cases hid : stay.id = id
      · have hsets : (RegistryAct.setProtocol j id protocol).sets stay.registry stay.id =
            some protocol := if_pos ⟨hregistry.symm, hid.symm⟩
        rw [if_pos hid]
        unfold entryOf
        rw [lastSet_append (h.past hstay), hsets]
        rfl
      · have hsets : (RegistryAct.setProtocol j id protocol).sets stay.registry stay.id = none :=
          if_neg fun hsame => hid hsame.2.symm
        rw [if_neg hid, entryOf_append (h.past hstay) hsets]
    · rw [if_neg hj, h.entries]
      refine List.map_congr_left fun stay hmem => ?_
      obtain ⟨hstay, hknown⟩ := List.mem_filter.mp hmem
      have hregistry : stay.registry = j := beq_iff_eq.mp (Bool.and_eq_true_iff.mp hknown).1
      have hsets : (RegistryAct.setProtocol k id protocol).sets stay.registry stay.id = none :=
        if_neg fun hsame => hj (hregistry.symm.trans hsame.1.symm)
      exact (entryOf_append (h.past hstay) hsets).symm
  case live =>
    intro j
    exact (put_same ((s.registry k).setProtocol id protocol) Registry.live rfl j).trans (h.live j)
  case cancelled =>
    intro j
    have hact : ∀ i, RegistryAct.setProtocol k id protocol ≠ .cancelAll i := fun _ => nofun
    rw [← h.cancelled_append hact]
    exact iff_of_eq (congrArg (· = true)
      (put_same ((s.registry k).setProtocol id protocol) Registry.cancelled rfl j))

/-- **A registry that is cancelled keeps the accounts.** -/
theorem cancelAll (k : Fin n) : Accounted (acts ++ [.cancelAll k]) (s.happen (.cancelAll k)) := by
  constructor
  case nextId => exact h.nextId_append rfl
  case ids => exact h.ids
  case given => exact h.given
  case entries =>
    intro j
    show _ = (s.stays.filter _).map _
    rw [h.entryOf_past (fun _ _ => rfl), ← h.entries]
    exact put_same (s.registry k).cancelAll Registry.entries rfl j
  case live =>
    exact fun j => (put_same (s.registry k).cancelAll Registry.live rfl j).trans (h.live j)
  case cancelled =>
    intro j
    show (if j = k then (s.registry k).cancelAll else s.registry j).cancelled = true ↔ _
    by_cases hj : j = k
    · rw [if_pos hj, hj]
      exact ⟨fun _ => List.mem_append_right _ (List.mem_singleton.mpr rfl), fun _ => rfl⟩
    · have hne : RegistryAct.cancelAll k ≠ .cancelAll j := fun heq =>
        hj (RegistryAct.cancelAll.inj heq).symm
      rw [if_neg hj, h.cancelled, cancelAll_mem_append hne]

/-- An id that no one gets is given to no one. -/
theorem takeId : Accounted (acts ++ [.takeId]) (s.happen .takeId) where
  nextId := h.nextId_succ rfl
  ids := h.ids
  given := fun stay hmem => ⟨(h.given stay hmem).1, Nat.lt_succ_of_lt (h.given stay hmem).2⟩
  entries := fun k => (h.entries k).trans (h.entryOf_past (fun _ _ => rfl) _).symm
  live := h.live
  cancelled := h.cancelled_append fun _ => nofun

/-- **Every act keeps the accounts.** -/
theorem happen (act : RegistryAct n) : Accounted (acts ++ [act]) (s.happen act) := by
  cases act with
  | insert k peer => exact h.insert k peer
  | raise place => exact h.raise place
  | remove place => exact h.remove place
  | lower place => exact h.lower place
  | setProtocol k id protocol => exact h.setProtocol k id protocol
  | cancelAll k => exact h.cancelAll k
  | takeId => exact h.takeId

end Accounted

/-- **The accounts are right behind any acts.** -/
theorem accounted_run (acts : List (RegistryAct n)) :
    Accounted acts (run ({} : Registries n lib) acts) := by
  induction acts using List.reverseRecOn with
  | nil => exact Accounted.start
  | append_singleton acts act ih =>
    unfold run
    rw [List.foldl_append]
    exact ih.happen act

/-! ## 4. Tokens -/

/-- A stay that is moved on keeps its token. -/
theorem leases_move (hget : s.stays[place]? = some stay) (stage : StayStage) :
    (s.move place stay stage).stays.map Stay.lease = s.stays.map Stay.lease := by
  obtain ⟨before, after, hstays, hset⟩ := stays_split hget
  rw [hset, hstays, List.map_append, List.map_append]
  rfl

section

variable {Cell : Type} {line : Token → List Cell} {flag : World → Cell → Option Bool}
  {cells : Fin n → Cell}

/-- **The tokens of registries and sessions**, read off the acts so far. The token of a registry has a
cell of its own with a flag that is up if it was cancelled; that of a session has one more, with the
flag down. -/
structure Rooted (line : Token → List Cell) (flag : World → Cell → Option Bool)
    (cells : Fin n → Cell) (acts : List (RegistryAct n)) (s : Registries n lib) : Prop where
  apart : Function.Injective cells
  root : ∀ k, line (s.root k) = [cells k]
  flagged : ∀ k, flag s.world (cells k) = some (decide (RegistryAct.cancelAll k ∈ acts))
  child : ∀ lease ∈ s.stays.map Stay.lease, ∃ c, line lease.2 = [c, cells lease.1] ∧
    flag s.world c = some false ∧ ∀ k, c ≠ cells k

/-- The tokens of registries that were made one after the other. -/
theorem rooted_start (hlib : lib.Lawful line flag) (n : Nat) :
    ∃ cells : Fin n → Cell, Rooted line flag cells [] ({} : Registries n lib) := by
  obtain ⟨cells, hinjective, hcells⟩ := hlib.roots n
  exact ⟨cells, hinjective, fun k => (hcells k).1, fun k => (hcells k).2,
    fun _ h => absurd h List.not_mem_nil⟩

namespace Rooted

variable {s' : Registries n lib} (h : Rooted line flag cells acts s)

include h

/-- An act that changes no token. -/
theorem kept (hroot : s'.root = s.root) (hworld : s'.world = s.world)
    (hleases : s'.stays.map Stay.lease = s.stays.map Stay.lease)
    (hact : ∀ k, act ≠ .cancelAll k) : Rooted line flag cells (acts ++ [act]) s' where
  apart := h.apart
  root := hroot ▸ h.root
  flagged k := by rw [hworld, h.flagged, decide_eq_decide.mpr (cancelAll_mem_append (hact k))]
  child := by
    rw [hleases, hworld]
    exact h.child

/-- An act on a stay moves it on, or changes nothing. -/
theorem inTurn {stage next : StayStage} {r : Stay n Token → Registry}
    (hact : ∀ k, act ≠ .cancelAll k) : Rooted line flag cells (acts ++ [act])
      (s.inTurn place stage fun stay => (s.put stay.registry (r stay)).move place stay next) :=
  inTurn_cases (h.kept rfl rfl rfl hact) fun _ hget _ =>
    h.kept rfl rfl (leases_move (s := s.put _ _) hget next) hact

/-- **A session that comes gets a token with a cell of its own**, under that of its registry. -/
theorem insert (hlib : lib.Lawful line flag) (k : Fin n) (peer : SocketAddress) :
    Rooted line flag cells (acts ++ [.insert k peer]) (s.happen (.insert k peer)) := by
  obtain ⟨c, hline, hopens⟩ := hlib.child s.world (s.root k)
  have hsome {other : Cell} {up : Bool} (hflag : flag s.world other = some up) : other ≠ c :=
    hopens.ne (by rw [hflag]; exact Option.some_ne_none up)
  constructor
  case apart => exact h.apart
  case root => exact h.root
  case flagged =>
    intro j
    have hne : RegistryAct.insert k peer ≠ .cancelAll j := nofun
    rw [decide_eq_decide.mpr (cancelAll_mem_append hne)]
    exact hopens.kept (h.flagged j)
  case child =>
    intro lease hmem
    have hleases : (s.happen (.insert k peer)).stays.map Stay.lease =
        s.stays.map Stay.lease ++ [(s.newStay k peer).lease] := List.map_append
    rw [hleases] at hmem
    rcases List.mem_append.mp hmem with hold | hnew
    · obtain ⟨own, hown, hdown, hne⟩ := h.child lease hold
      exact ⟨own, hown, hopens.kept hdown, hne⟩
    · rw [List.mem_singleton.mp hnew]
      refine ⟨c, ?_, hopens.down, fun j => (hsome (h.flagged j)).symm⟩
      exact hline.trans (congrArg (c :: ·) (h.root k))

/-- **A registry that is cancelled raises its own flag** and no other. -/
theorem cancelAll (hlib : lib.Lawful line flag) (k : Fin n) :
    Rooted line flag cells (acts ++ [.cancelAll k]) (s.happen (.cancelAll k)) := by
  have hothers := hlib.cancel_others s.world (s.root k) (cells k) [] (h.root k)
  constructor
  case apart => exact h.apart
  case root => exact h.root
  case flagged =>
    intro j
    show flag (lib.cancel s.world (s.root k)) (cells j) = _
    by_cases hj : j = k
    · subst hj
      have hmade : flag s.world (cells j) ≠ none := by
        rw [h.flagged]
        exact Option.some_ne_none _
      have hmem : RegistryAct.cancelAll j ∈ acts ++ [.cancelAll j] :=
        List.mem_append_right _ (List.mem_singleton.mpr rfl)
      rw [hlib.cancel_up s.world (s.root j) (cells j) [] (h.root j) hmade, decide_eq_true hmem]
    · have hne : RegistryAct.cancelAll k ≠ .cancelAll j := fun heq =>
        hj (RegistryAct.cancelAll.inj heq).symm
      rw [hothers _ (h.apart.ne hj), h.flagged, decide_eq_decide.mpr (cancelAll_mem_append hne)]
  case child =>
    intro lease hmem
    obtain ⟨own, hown, hdown, hne⟩ := h.child lease hmem
    exact ⟨own, hown, (hothers own (hne k)).trans hdown, hne⟩

/-- **Every act keeps the tokens in line with the acts.** -/
theorem happen (hlib : lib.Lawful line flag) (act : RegistryAct n) :
    Rooted line flag cells (acts ++ [act]) (s.happen act) := by
  cases act with
  | insert k peer => exact h.insert hlib k peer
  | raise place | lower place => exact h.inTurn fun _ => nofun
  | remove place =>
    refine inTurn_cases (h.kept rfl rfl rfl fun _ => nofun) fun stay hget _ => ?_
    split
    · exact h.kept rfl rfl (leases_move (s := s.put _ _) hget _) fun _ => nofun
    · exact h.kept rfl rfl (leases_move hget _) fun _ => nofun
  | setProtocol | takeId => exact h.kept rfl rfl rfl fun _ => nofun
  | cancelAll k => exact h.cancelAll hlib k

/-- **The tokens are in line behind any acts.** -/
theorem run (hlib : lib.Lawful line flag) (later : List (RegistryAct n)) :
    Rooted line flag cells (acts ++ later) (s.run later) := by
  induction later generalizing acts s with
  | nil => rwa [List.append_nil]
  | cons act later ih =>
    rw [List.append_cons]
    exact ih (h.happen hlib act)

/-- The token of a registry is cancelled when the registry is. -/
theorem isShuttingDown_iff (hlib : lib.Lawful line flag) (k : Fin n) :
    s.isShuttingDown k = true ↔ RegistryAct.cancelAll k ∈ acts := by
  unfold isShuttingDown
  simp [hlib.isCancelled_iff, h.root, h.flagged]

/-- **The token of a session is cancelled when its registry is.** -/
theorem isCancelled_iff (hlib : lib.Lawful line flag) {lease : Fin n × Token}
    (hmem : lease ∈ s.stays.map Stay.lease) :
    lib.isCancelled s.world lease.2 = true ↔ RegistryAct.cancelAll lease.1 ∈ acts := by
  obtain ⟨own, hown, hdown, -⟩ := h.child lease hmem
  simp [hlib.isCancelled_iff, hown, hdown, h.flagged]

end Rooted

/-- No act takes a token away. -/
theorem leases_happen (s : Registries n lib) (act : RegistryAct n) :
    s.stays.map Stay.lease <+: (s.happen act).stays.map Stay.lease := by
  have hmoved {place : Nat} {stage : StayStage} {next : Stay n Token → Registries n lib}
      (hnext : ∀ stay, s.stays[place]? = some stay →
        (next stay).stays.map Stay.lease = s.stays.map Stay.lease) :
      s.stays.map Stay.lease <+: (s.inTurn place stage next).stays.map Stay.lease :=
    inTurn_cases (P := fun s' => _ <+: s'.stays.map Stay.lease) List.prefix_rfl
      fun stay hget _ => hnext stay hget ▸ List.prefix_rfl
  cases act with
  | insert k peer =>
    show _ <+: (s.stays ++ [_]).map Stay.lease
    rw [List.map_append]
    exact List.prefix_append _ _
  | raise | lower => exact hmoved fun stay hget => leases_move (s := s.put _ _) hget _
  | remove place =>
    refine hmoved fun stay hget => ?_
    split
    · exact leases_move (s := s.put _ _) hget _
    · exact leases_move hget _
  | setProtocol | cancelAll | takeId => exact List.prefix_rfl

theorem leases_run (s : Registries n lib) (later : List (RegistryAct n)) :
    s.stays.map Stay.lease <+: (s.run later).stays.map Stay.lease := by
  induction later generalizing s with
  | nil => exact List.prefix_rfl
  | cons act later ih => exact (leases_happen s act).trans (ih (s.happen act))

end

/-! ## 5. Registrations and departures as wholes -/

/-- A registry is **at rest** when no session is between the two halves of its registration or of
its departure there. -/
def AtRest (s : Registries n lib) (k : Fin n) : Prop :=
  ∀ stay ∈ s.stays, stay.registry = k → stay.stage = .held ∨ stay.stage = .over

/-- Whether the guard of a session of a registry is held. -/
def isHeldAt (k : Fin n) (stay : Stay n Token) : Bool := stay.registry == k && stay.stage == .held

variable {k : Fin n}

/-- At rest, who is listed and who is counted are those whose guards are held. -/
theorem AtRest.listed (hrest : s.AtRest k) (hmem : stay ∈ s.stays) :
    stay.knownTo k = isHeldAt k stay ∧ stay.countedBy k = isHeldAt k stay := by
  unfold Stay.knownTo Stay.countedBy isHeldAt
  by_cases hregistry : stay.registry = k
  · rcases hrest stay hmem hregistry with hstage | hstage <;> rw [hstage] <;> exact ⟨rfl, rfl⟩
  · rw [beq_eq_false_iff_ne.mpr hregistry]
    exact ⟨rfl, rfl⟩

/-- Two halves of a registration with nothing between them are a registration. -/
theorem registry_registered (s : Registries n lib) (k : Fin n) (peer : SocketAddress) :
    (s.run [.insert k peer, .raise s.stays.length]).registry k =
      (s.registry k).register s.nextId peer := by
  have hlast : (s.stays ++ [s.newStay k peer])[s.stays.length]? =
      some (s.newStay k peer) := List.getElem?_concat_length
  have hentering : (s.newStay k peer).stage = .entering := rfl
  show ((happen _ (.raise s.stays.length)).registry k) = _
  simp only [happen, inTurn, hlast, hentering, if_true]
  show (if k = k then Registry.raise (if k = k then _ else _) else _) = _
  rw [if_pos rfl, if_pos rfl]
  rfl

/-- Two halves of a departure with nothing between them are a departure. -/
theorem registry_departed (hget : s.stays[place]? = some stay) (hheld : stay.stage = .held) :
    (s.run [.remove place, .lower place]).registry stay.registry =
      (s.registry stay.registry).deregister stay.id := by
  obtain ⟨hlt, -⟩ := List.getElem?_eq_some_iff.mp hget
  have hmoved : ∀ one : Stay n Token, (s.stays.set place one)[place]? = some one := fun one =>
    List.getElem?_set_self hlt
  unfold Registry.deregister
  show (happen (happen s (.remove place)) (.lower place)).registry stay.registry = _
  by_cases hhas : (s.registry stay.registry).has stay.id = true
  · rw [if_pos hhas]
    simp only [happen, inTurn, hget, hheld, hhas, if_true, move, put, hmoved]
  · rw [if_neg hhas]
    simp [happen, inTurn, hget, hheld, hhas, move, hmoved]

/-! ## 6. Agreement -/

/-- **How ids, entries, counts and tokens of all registries agree** behind some acts. -/
structure Agreed (acts : List (RegistryAct n)) (s : Registries n lib) : Prop where
  /-- No two sessions have the same id, at whichever registries they are. -/
  distinct : (s.stays.map (·.id)).Nodup
  /-- The largest id is the number of ids given out. -/
  bounded : ∀ stay ∈ s.stays, firstSessionId ≤ stay.id ∧ stay.id ≤ acts.countP givesId
  /-- A count that is about to be lowered is not zero. -/
  positive : ∀ stay ∈ s.stays, stay.stage = .leaving → 0 < (s.registry stay.registry).live
  /-- At rest the count is the number of guards held. -/
  counted : ∀ k, s.AtRest k → (s.registry k).live = s.stays.countP (isHeldAt k)
  /-- At rest a snapshot lists those whose guards are held, each with its own peer and with the last
  protocol set for its id. -/
  listed : ∀ k, s.AtRest k →
    (s.registry k).snapshot = (s.stays.filter (isHeldAt k)).map (entryOf acts)
  /-- A protocol that is set for an id that has no entry changes nothing. -/
  dead : ∀ k id protocol, (∀ stay ∈ s.stays, stay.id = id → stay.knownTo k = false) →
    s.happen (.setProtocol k id protocol) = s
  /-- The flag of a registry is what its own token reads. -/
  flag : ∀ k, s.isShuttingDown k = (s.registry k).cancelled
  /-- A token is cancelled when its own registry has been, before its session came or after. -/
  token : ∀ stay ∈ s.stays,
    s.isCancelled stay = true ↔ RegistryAct.cancelAll stay.registry ∈ acts
  /-- A token that is cancelled stays so. -/
  lasting : ∀ stay ∈ s.stays, ∀ later, s.isCancelled stay = true →
    (s.run later).isCancelled stay = true

end Registries

/-- **Registries agree with their guards**, whatever was done to any of them in any order, with any
cancellation tokens on which that much can be relied. -/
theorem registries_agree {Cell : Type} {lib : TokenTree World Token} {line : Token → List Cell}
    {flag : World → Cell → Option Bool} (hlib : lib.Lawful line flag) (acts : List (RegistryAct n)) :
    Registries.Agreed acts (Registries.run ({} : Registries n lib) acts) := by
  obtain ⟨cells, hstart⟩ := Registries.rooted_start hlib n
  have hrooted := hstart.run hlib acts
  have h : Registries.Accounted acts (Registries.run ({} : Registries n lib) acts) :=
    Registries.accounted_run acts
  rw [List.nil_append] at hrooted
  generalize Registries.run ({} : Registries n lib) acts = s at h hrooted
  constructor
  case distinct => exact h.ids.imp Nat.ne_of_lt
  case bounded =>
    intro stay hmem
    have hlt := (h.given stay hmem).2
    rw [h.nextId, Nat.add_comm] at hlt
    exact ⟨(h.given stay hmem).1, Nat.le_of_lt_succ hlt⟩
  case positive =>
    intro stay hmem hstage
    rw [h.live, List.countP_pos_iff]
    exact ⟨stay, hmem, by rw [Stay.countedBy_self, hstage]; rfl⟩
  case counted =>
    intro k hrest
    rw [h.live]
    exact List.countP_congr fun stay hmem => by rw [(hrest.listed hmem).2]
  case listed =>
    intro k hrest
    show (s.registry k).entries = _
    rw [h.entries]
    exact congrArg _ (List.filter_congr fun stay hmem => (hrest.listed hmem).1)
  case dead =>
    intro k id protocol hdead
    have hnone : id ∉ (s.registry k).ids := by
      intro hid
      obtain ⟨e, he, hsame⟩ := List.mem_map.mp hid
      rw [h.entries] at he
      obtain ⟨stay, hstay, rfl⟩ := List.mem_map.mp he
      obtain ⟨hmem, hknown⟩ := List.mem_filter.mp hstay
      exact absurd hknown (Bool.eq_false_iff.mp (hdead stay hmem hsame))
    show s.put k ((s.registry k).setProtocol id protocol) = s
    rw [Registry.setProtocol_of_not_mem hnone]
    have hsame : (s.put k (s.registry k)).registry = s.registry :=
      funext (Registries.put_same (s.registry k) (fun r => r) rfl)
    exact congrArg (fun registry => { s with registry }) hsame
  case flag =>
    intro k
    rw [Bool.eq_iff_iff, hrooted.isShuttingDown_iff hlib, h.cancelled]
  case token => exact fun stay hmem => hrooted.isCancelled_iff hlib (List.mem_map_of_mem hmem)
  case lasting =>
    intro stay hmem later hcancelled
    have hlease : stay.lease ∈ s.stays.map Stay.lease := List.mem_map_of_mem hmem
    have hlater := (Registries.leases_run s later).subset hlease
    refine ((hrooted.run hlib later).isCancelled_iff hlib hlater).mpr ?_
    exact List.mem_append_left _ ((hrooted.isCancelled_iff hlib hlease).mp hcancelled)

/-- Two registries, with a departure from one around which the other goes on. -/
theorem registries_agree_flags :
    let peer : SocketAddress := { ip := .v4 10 0 0 1, port := 40000 }
    let acts : List (RegistryAct 2) := [.insert 0 peer, .insert 1 peer, .raise 1, .raise 0, .remove 1,
      .setProtocol 0 1 .game, .setProtocol 1 2 .login, .cancelAll 1, .lower 1]
    let s := Registries.run ({} : Registries 2 TokenTree.flags) acts
    TokenTree.flags.Lawful id (fun w c => w[c]?) ∧ Registries.Agreed acts s ∧
      (s.registry 0).snapshot = [⟨1, peer, some .game⟩] ∧ (s.registry 0).live = 1 ∧
      (s.registry 1).snapshot = [] ∧ (s.registry 1).live = 0 ∧
      s.stays.map s.isCancelled = [false, true] :=
  ⟨TokenTree.flags_lawful, registries_agree TokenTree.flags_lawful _, by decide, by decide,
    by decide, by decide, by decide⟩

end TrafficRouter
