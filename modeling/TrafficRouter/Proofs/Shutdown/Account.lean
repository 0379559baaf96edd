import Mathlib.Logic.Basic
import Mathlib.Logic.Relation
import TrafficRouter.Shutdown

/-!
# Accounts of shutdown handles

What operations on shutdown handles come to: which handle or token was made of which, and where
shutdown was asked for. Handles and tokens are known by their places in the order of their making,
so an account only has to know how many there are. It knows nothing of cancellation tokens.

* `ShutdownStock.effect`, `account`: what an operation comes to, and what a list of them does;
* `Made`, `Derived`, `Kin`, `Descends`: who there is, who was made of whom, who belongs together;
* `made_insert`, `kin_insert`, `asked_of_insert`: to ask makes no one, at whatever point of a list
  of operations.

NOT here: what handles and tokens read (`Families`).
-/

namespace TrafficRouter

/-! ## 1. What operations come to -/

/-- A handle or a token, known by its place in the order of their making. -/
inductive ShutdownRef where
  | handle (place : Nat)
  | token (place : Nat)
  deriving DecidableEq, Repr

/-- The operation with which shutdown is asked for at a handle or a token. -/
def ShutdownRef.ask : ShutdownRef → ShutdownAction
  | .handle i => .trigger i
  | .token i => .cancel i

/-- What an operation comes to. -/
inductive ShutdownEffect where
  /-- A handle is made of no other. -/
  | founds (made : ShutdownRef)
  /-- A handle is cloned or gives out a token. -/
  | derives (source made : ShutdownRef)
  /-- A handle is triggered or a token cancelled. -/
  | asks (place : ShutdownRef)
  /-- There is no such handle or token. -/
  | nothing
  deriving DecidableEq, Repr

/-- What an operation makes. -/
def ShutdownEffect.made? : ShutdownEffect → Option ShutdownRef
  | .founds x | .derives _ x => some x
  | .asks _ | .nothing => none

/-- How many handles and how many tokens there are. -/
structure ShutdownStock where
  handles : Nat := 0
  tokens : Nat := 0
  deriving DecidableEq, Repr

namespace ShutdownStock

/-- What an operation comes to when there is so much. -/
def effect (n : ShutdownStock) : ShutdownAction → ShutdownEffect
  | .clone i => if i < n.handles then .derives (.handle i) (.handle n.handles) else .nothing
  | .new => .founds (.handle n.handles)
  | .token i => if i < n.handles then .derives (.handle i) (.token n.tokens) else .nothing
  | .trigger i => if i < n.handles then .asks (.handle i) else .nothing
  | .cancel i => if i < n.tokens then .asks (.token i) else .nothing

/-- How much there is behind an operation. -/
def after (n : ShutdownStock) (e : ShutdownEffect) : ShutdownStock :=
  match e.made? with
  | some (.handle _) => { n with handles := n.handles + 1 }
  | some (.token _) => { n with tokens := n.tokens + 1 }
  | none => n

/-- What operations come to, one after the other. -/
def effects (n : ShutdownStock) : List ShutdownAction → List ShutdownEffect
  | [] => []
  | act :: actions => n.effect act :: (n.after (n.effect act)).effects actions

theorem effects_append (n : ShutdownStock) (actions later : List ShutdownAction) :
    n.effects (actions ++ later) =
      n.effects actions ++ ((n.effects actions).foldl after n).effects later := by
  induction actions generalizing n with
  | nil => rfl
  | cons act actions ih =>
    rw [List.cons_append, effects, effects, ih, List.foldl_cons, List.cons_append]

/-- To ask comes to that, or to nothing. -/
theorem effect_ask (n : ShutdownStock) (x : ShutdownRef) :
    n.effect x.ask = .asks x ∨ n.effect x.ask = .nothing := by
  cases x <;> exact ite_eq_or_eq _ _ _

/-- Nothing else comes to it. -/
theorem eq_ask_of_effect {n : ShutdownStock} {act : ShutdownAction} {x : ShutdownRef}
    (h : n.effect act = .asks x) : act = x.ask := by
  cases act with
  | new => cases h
  | clone i | token i =>
    rw [effect] at h
    split at h <;> cases h
  | trigger i | cancel i =>
    rw [effect] at h
    split at h <;> cases h
    rfl

/-- To ask makes nothing. -/
theorem after_effect_ask (n : ShutdownStock) (x : ShutdownRef) :
    n.after (n.effect x.ask) = n := by
  rcases n.effect_ask x with h | h <;> rw [h] <;> rfl

end ShutdownStock

/-- The account of all that was done, from before the first handle. -/
def account (actions : List ShutdownAction) : List ShutdownEffect :=
  ({} : ShutdownStock).effects actions

/-- How much there is behind some operations. -/
def stockBehind (actions : List ShutdownAction) : ShutdownStock :=
  (account actions).foldl ShutdownStock.after {}

theorem account_append (actions later : List ShutdownAction) :
    account (actions ++ later) = account actions ++ (stockBehind actions).effects later :=
  ShutdownStock.effects_append _ _ _

/-- The account with an ask somewhere in it is the same otherwise. -/
theorem account_insert (actions later : List ShutdownAction) (y : ShutdownRef) :
    account (actions ++ y.ask :: later) = account actions ++
      (stockBehind actions).effect y.ask :: (stockBehind actions).effects later := by
  rw [account_append, ShutdownStock.effects, ShutdownStock.after_effect_ask]

namespace ShutdownEffect

/-! ## 2. Who there is, and who belongs together -/

section

variable (E : List ShutdownEffect)

/-- A handle or a token was made. -/
def Made (x : ShutdownRef) : Prop := ∃ e ∈ E, e.made? = some x

/-- One was made of the other. -/
def Derived (x y : ShutdownRef) : Prop := .derives x y ∈ E

/-- Both are of one family: a chain of clones and of tokens given out leads from one to the other,
each link of it in either direction. -/
def Kin : ShutdownRef → ShutdownRef → Prop := Relation.EqvGen (Derived E)

/-- The other comes from the one, by clones and tokens given out. -/
def Descends : ShutdownRef → ShutdownRef → Prop := Relation.ReflTransGen (Derived E)

end

variable {E E' : List ShutdownEffect} {d e : ShutdownEffect} {f x y z : ShutdownRef}

theorem made_concat : Made (E ++ [e]) x ↔ Made E x ∨ e.made? = some x := by
  simp only [Made, List.mem_append, List.mem_singleton, or_and_right, exists_or, exists_eq_left]

/-- Where nothing is made, no one more was made. -/
theorem made_concat_of_none (h : e.made? = none) : Made (E ++ [e]) x ↔ Made E x := by
  rw [made_concat, h, or_iff_left (Option.some_ne_none x).symm]

theorem mem_of_concat (h : d ∈ E ++ [e]) (hne : d ≠ e) : d ∈ E :=
  (List.mem_append.mp h).resolve_right fun hmem => hne (List.mem_singleton.mp hmem)

theorem Made.of_founds (h : .founds x ∈ E) : Made E x := ⟨_, h, rfl⟩

theorem Made.of_derives (h : .derives x y ∈ E) : Made E y := ⟨_, h, rfl⟩

theorem Kin.symm (h : Kin E x y) : Kin E y x := Relation.EqvGen.symm _ _ h

theorem Kin.trans (hxy : Kin E x y) (hyz : Kin E y z) : Kin E x z :=
  Relation.EqvGen.trans _ _ _ hxy hyz

/-- Who belongs together is a matter of who was made of whom. -/
theorem Kin.mono (hsub : ∀ a b, Derived E a b → Derived E' a b) (h : Kin E x y) : Kin E' x y :=
  Relation.EqvGen.mono hsub _ _ h

theorem Descends.mono (hsub : E ⊆ E') (h : Descends E x y) : Descends E' x y :=
  Relation.ReflTransGen.mono (fun _ _ hd => hsub hd) _ _ h

theorem Descends.kin (h : Descends E x y) : Kin E x y :=
  Relation.EqvGen.reflTransGen_le_eqvGen _ _ _ h

/-- Who comes from one handle belongs together. -/
theorem kin_of_descends (hx : Descends E f x) (hy : Descends E f y) : Kin E x y :=
  hx.kin.symm.trans hy.kin

/-! ## 3. Asks within a list of operations -/

variable {actions later : List ShutdownAction}

/-- All that happened without an ask happened with it. -/
theorem account_subset_insert :
    account (actions ++ later) ⊆ account (actions ++ y.ask :: later) := by
  rw [account_append, account_insert]
  exact (List.Sublist.append_left (List.sublist_cons_self _ _) _).subset

/-- All else that happened with it happened without. -/
theorem mem_of_insert (h : d ∈ account (actions ++ y.ask :: later)) (hask : d ≠ .asks y)
    (hnothing : d ≠ .nothing) : d ∈ account (actions ++ later) := by
  rw [account_insert, List.mem_append, List.mem_cons] at h
  rw [account_append, List.mem_append]
  refine h.imp_right fun h => h.resolve_left ?_
  rcases (stockBehind actions).effect_ask y with he | he
  · rw [he]
    exact hask
  · rw [he]
    exact hnothing

theorem made_insert : Made (account (actions ++ y.ask :: later)) x ↔
    Made (account (actions ++ later)) x := by
  constructor
  · intro ⟨d, hd, hmade⟩
    refine ⟨d, mem_of_insert hd ?_ ?_, hmade⟩
    all_goals
      intro heq
      rw [heq] at hmade
      cases hmade
  · intro ⟨d, hd, hmade⟩
    exact ⟨d, account_subset_insert hd, hmade⟩

theorem kin_insert : Kin (account (actions ++ y.ask :: later)) x z ↔
    Kin (account (actions ++ later)) x z := by
  constructor
  · exact Kin.mono fun _ _ hd =>
      mem_of_insert hd ShutdownEffect.noConfusion ShutdownEffect.noConfusion
  · exact Kin.mono fun _ _ hd => account_subset_insert hd

theorem asked_of_insert (h : .asks z ∈ account (actions ++ y.ask :: later)) :
    z = y ∨ .asks z ∈ account (actions ++ later) := by
  by_cases hz : z = y
  · exact Or.inl hz
  · exact Or.inr (mem_of_insert h (fun heq => hz (asks.inj heq)) ShutdownEffect.noConfusion)

end ShutdownEffect

end TrafficRouter
