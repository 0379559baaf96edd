import Mathlib.Logic.Function.Basic
import TrafficRouter.Proofs.Shutdown.Account

/-!
# Cells of shutdown handles

Each handle and each token has a cell, and in the cell there is a flag: a clone or a token given out
has the cell of its handle, a handle that is made anew has one of its own, and to ask raises the
flag in one cell. Then who has one cell is who belongs together, and whose flag is up is read off
the account.

* `CellView.Step`: one step of the cells, by what it comes to;
* `CellView.Sound`, `Sound.step`: the cells are in line with the account, and each step keeps them
  so;
* `Sound.kin_iff`, `Sound.reads_iff`: who has one cell, and who reads true;
* `Sound.reads_step`: a step changes what someone reads only by asking in its family.

NOT here: whose the cells are (`Families`).
-/

namespace TrafficRouter

/-! ## 1. Cells -/

/-- The cells of all handles and tokens, and the flags in the cells. -/
structure CellView (Cell : Type) where
  cell? : ShutdownRef → Option Cell
  flag? : Cell → Option Bool

namespace CellView

open ShutdownEffect

variable {Cell : Type} {E : List ShutdownEffect} {e : ShutdownEffect} {v v' : CellView Cell}
  {x y z : ShutdownRef} {c : Cell}

/-- What there is to read at a handle or a token. -/
def reads (v : CellView Cell) (x : ShutdownRef) : Option Bool :=
  (v.cell? x).map fun c => v.flag? c == some true

theorem reads_eq_some_true_iff :
    v.reads x = some true ↔ ∃ c, v.cell? x = some c ∧ v.flag? c = some true := by
  simp [reads, Option.map_eq_some_iff]

theorem isSome_reads : (v.reads x).isSome = (v.cell? x).isSome := Option.isSome_map

/-- **One step of the cells**, by what it comes to. -/
inductive Step (v v' : CellView Cell) : ShutdownEffect → Prop
  | founds {x : ShutdownRef} {c : Cell} (hnew : v.cell? x = none) (hfree : v.flag? c = none)
      (hcell : v'.cell? = Function.update v.cell? x (some c)) (hdown : v'.flag? c = some false)
      (hothers : ∀ d, d ≠ c → v'.flag? d = v.flag? d) : Step v v' (.founds x)
  | derives {x y : ShutdownRef} {c : Cell} (hsource : v.cell? x = some c) (hnew : v.cell? y = none)
      (hcell : v'.cell? = Function.update v.cell? y (some c)) (hflag : v'.flag? = v.flag?) :
      Step v v' (.derives x y)
  | asks {x : ShutdownRef} {c : Cell} (hplace : v.cell? x = some c) (hcell : v'.cell? = v.cell?)
      (hup : v'.flag? c = some true) (hothers : ∀ d, d ≠ c → v'.flag? d = v.flag? d) :
      Step v v' (.asks x)
  | nothing (hsame : v' = v) : Step v v' .nothing

/-- **The cells are in line with an account.** -/
structure Sound (E : List ShutdownEffect) (v : CellView Cell) : Prop where
  made : ∀ x, (v.cell? x).isSome = true ↔ Made E x
  inUse : ∀ {x c}, v.cell? x = some c → v.flag? c ≠ none
  /-- What was made of another has its cell. -/
  derived : ∀ {x y}, .derives x y ∈ E → v.cell? x = v.cell? y
  /-- What was made of no other has a cell of its own. -/
  founded : ∀ {x y}, .founds x ∈ E → .founds y ∈ E → v.cell? x = v.cell? y → x = y
  rooted : ∀ {x}, Made E x → ∃ f, .founds f ∈ E ∧ Descends E f x
  asked : ∀ {x}, .asks x ∈ E → Made E x
  /-- A flag is up when it was asked for at someone who has its cell. -/
  up : ∀ {x c}, v.cell? x = some c →
    (v.flag? c = some true ↔ ∃ y, .asks y ∈ E ∧ v.cell? y = some c)

theorem Sound.start (hnone : ∀ x, v.cell? x = none) : Sound [] v where
  made x := by simp [hnone, Made]
  inUse h := by simp [hnone] at h
  derived h := absurd h List.not_mem_nil
  founded h := absurd h List.not_mem_nil
  rooted := fun ⟨_, h, _⟩ => absurd h List.not_mem_nil
  asked h := absurd h List.not_mem_nil
  up h := by simp [hnone] at h

namespace Sound

/-! ## 2. Who has one cell -/

section

variable (h : Sound E v)

include h

theorem exists_cell (hx : Made E x) : ∃ c, v.cell? x = some c :=
  Option.isSome_iff_exists.mp ((h.made x).mpr hx)

theorem made_of_cell (hx : v.cell? x = some c) : Made E x :=
  (h.made x).mp (Option.isSome_iff_exists.mpr ⟨c, hx⟩)

theorem made_source (hd : .derives x y ∈ E) : Made E x := by
  refine (h.made x).mp ?_
  rw [h.derived hd]
  exact (h.made y).mpr (Made.of_derives hd)

/-- Kin have one cell. -/
theorem cell_eq_of_kin (hkin : Kin E x y) : v.cell? x = v.cell? y := by
  induction hkin with
  | rel x y hd => exact h.derived hd
  | refl x => rfl
  | symm x y _ ih => exact ih.symm
  | trans x y z _ _ ih₁ ih₂ => exact ih₁.trans ih₂

/-- Who has one cell comes from the one handle with it that was made of no other. -/
theorem exists_founder (hx : Made E x) (hy : Made E y) (hcell : v.cell? x = v.cell? y) :
    ∃ f, .founds f ∈ E ∧ Descends E f x ∧ Descends E f y := by
  obtain ⟨f, hf, hfx⟩ := h.rooted hx
  obtain ⟨g, hg, hgy⟩ := h.rooted hy
  have hroots : v.cell? f = v.cell? g := calc
    v.cell? f = v.cell? x := h.cell_eq_of_kin hfx.kin
    _ = v.cell? y := hcell
    _ = v.cell? g := (h.cell_eq_of_kin hgy.kin).symm
  obtain rfl := h.founded hf hg hroots
  exact ⟨f, hf, hfx, hgy⟩

/-- **Who has one cell is kin.** -/
theorem kin_iff (hx : Made E x) (hy : Made E y) : Kin E x y ↔ v.cell? x = v.cell? y := by
  refine ⟨h.cell_eq_of_kin, fun hcell => ?_⟩
  obtain ⟨f, -, hfx, hfy⟩ := h.exists_founder hx hy hcell
  exact kin_of_descends hfx hfy

/-- **Kin come from one handle** that was made of no other. -/
theorem kin_iff_founder (hx : Made E x) (hy : Made E y) :
    Kin E x y ↔ ∃ f, .founds f ∈ E ∧ Descends E f x ∧ Descends E f y :=
  ⟨fun hkin => h.exists_founder hx hy (h.cell_eq_of_kin hkin),
    fun ⟨_, _, hfx, hfy⟩ => kin_of_descends hfx hfy⟩

/-- **Who was made comes from exactly one who was made of no other.** -/
theorem existsUnique_founder (hx : Made E x) : ∃! f, .founds f ∈ E ∧ Descends E f x := by
  obtain ⟨f, hf, hfx⟩ := h.rooted hx
  refine ⟨f, ⟨hf, hfx⟩, fun g ⟨hg, hgx⟩ => h.founded hg hf ?_⟩
  exact (h.cell_eq_of_kin hgx.kin).trans (h.cell_eq_of_kin hfx.kin).symm

/-- **Who reads true**: shutdown was asked for at someone of the family. -/
theorem reads_iff : v.reads x = some true ↔ ∃ y, Kin E x y ∧ .asks y ∈ E := by
  rw [reads_eq_some_true_iff]
  constructor
  · intro ⟨c, hx, hup⟩
    obtain ⟨y, hasked, hy⟩ := (h.up hx).mp hup
    exact ⟨y, (h.kin_iff (h.made_of_cell hx) (h.asked hasked)).mpr (hx.trans hy.symm), hasked⟩
  · intro ⟨y, hkin, hasked⟩
    obtain ⟨c, hy⟩ := h.exists_cell (h.asked hasked)
    have hx : v.cell? x = some c := (h.cell_eq_of_kin hkin).trans hy
    exact ⟨c, hx, (h.up hx).mpr ⟨y, hasked, hy⟩⟩

end

/-! ## 3. What steps keep -/

section

variable (h : Sound E v)

include h

/-- What was made keeps its cell when something is made. -/
theorem cell_kept (hnew : v.cell? z = none)
    (hcell : v'.cell? = Function.update v.cell? z (some c)) (hx : Made E x) :
    v'.cell? x = v.cell? x := by
  have hne : x ≠ z := by
    intro heq
    obtain ⟨d, hd⟩ := h.exists_cell hx
    rw [heq, hnew] at hd
    cases hd
  rw [hcell, Function.update_of_ne hne]

/-- Who was made when something was. -/
theorem made_update (hcell : v'.cell? = Function.update v.cell? z (some c))
    (hmade : e.made? = some z) (x : ShutdownRef) :
    (v'.cell? x).isSome = true ↔ Made (E ++ [e]) x := by
  rw [made_concat, hcell, hmade]
  by_cases hx : x = z
  · subst hx
    simp
  · rw [Function.update_of_ne hx, h.made, Option.some.injEq, or_iff_left (Ne.symm hx)]

/-- Who was asked was made, also behind an operation that does not ask. -/
theorem asked_concat (hask : ∀ y, e ≠ .asks y) (hx : .asks x ∈ E ++ [e]) : Made (E ++ [e]) x :=
  made_concat.mpr (Or.inl (h.asked (mem_of_concat hx (hask x).symm)))

/-- Where something is made, no one is asked. -/
theorem asked_update (hnew : v.cell? z = none)
    (hcell : v'.cell? = Function.update v.cell? z (some c)) (hask : ∀ y, e ≠ .asks y) {d : Cell} :
    (∃ y, .asks y ∈ E ++ [e] ∧ v'.cell? y = some d) ↔ ∃ y, .asks y ∈ E ∧ v.cell? y = some d := by
  refine exists_congr fun y => ?_
  constructor
  · intro ⟨hmem, hy⟩
    have hasked := mem_of_concat hmem (hask y).symm
    exact ⟨hasked, (h.cell_kept hnew hcell (h.asked hasked)).symm.trans hy⟩
  · intro ⟨hasked, hy⟩
    exact ⟨List.mem_append_left _ hasked, (h.cell_kept hnew hcell (h.asked hasked)).trans hy⟩

/-- The chains to who was made before. -/
theorem rooted_mono (hx : Made E x) : ∃ f, .founds f ∈ E ++ [e] ∧ Descends (E ++ [e]) f x := by
  obtain ⟨f, hf, hfx⟩ := h.rooted hx
  exact ⟨f, List.mem_append_left _ hf, hfx.mono (List.subset_append_left _ _)⟩

/-- **A handle of a new family keeps the cells in line.** -/
theorem founds (hnew : v.cell? z = none) (hfree : v.flag? c = none)
    (hcell : v'.cell? = Function.update v.cell? z (some c)) (hdown : v'.flag? c = some false)
    (hothers : ∀ d, d ≠ c → v'.flag? d = v.flag? d) : Sound (E ++ [.founds z]) v' := by
  have hkept : ∀ {x}, Made E x → v'.cell? x = v.cell? x := h.cell_kept hnew hcell
  have hself : v'.cell? z = some c := by rw [hcell, Function.update_self]
  -- no one had the new cell
  have hfresh : ∀ {x d}, v.cell? x = some d → d ≠ c := fun hx heq => h.inUse hx (heq ▸ hfree)
  constructor
  case made => exact h.made_update hcell rfl
  case inUse =>
    intro x d hx
    by_cases hxz : x = z
    · rw [hxz, hself, Option.some.injEq] at hx
      rw [← hx, hdown]
      exact Option.some_ne_none _
    · rw [hcell, Function.update_of_ne hxz] at hx
      rw [hothers d (hfresh hx)]
      exact h.inUse hx
  case derived =>
    intro x y hd
    have hd := mem_of_concat hd ShutdownEffect.noConfusion
    rw [hkept (h.made_source hd), hkept (Made.of_derives hd)]
    exact h.derived hd
  case founded =>
    intro x y hx hy hxy
    have hcases : ∀ {f}, ShutdownEffect.founds f ∈ E ++ [.founds z] → .founds f ∈ E ∨ f = z := by
      simp
    rcases hcases hx with hxold | hxz
    · rcases hcases hy with hyold | hyz
      · rw [hkept (Made.of_founds hxold), hkept (Made.of_founds hyold)] at hxy
        exact h.founded hxold hyold hxy
      · rw [hkept (Made.of_founds hxold), hyz, hself] at hxy
        exact absurd rfl (hfresh hxy)
    · rcases hcases hy with hyold | hyz
      · rw [hkept (Made.of_founds hyold), hxz, hself] at hxy
        exact absurd rfl (hfresh hxy.symm)
      · rw [hxz, hyz]
  case rooted =>
    intro x hx
    rcases made_concat.mp hx with hx | hx
    · exact h.rooted_mono hx
    · rw [← Option.some.inj hx]
      exact ⟨z, List.mem_append_right _ (List.mem_singleton_self _), Relation.ReflTransGen.refl⟩
  case asked => exact h.asked_concat fun _ => ShutdownEffect.noConfusion
  case up =>
    intro x d hx
    rw [h.asked_update hnew hcell fun _ => ShutdownEffect.noConfusion]
    by_cases hxz : x = z
    · rw [hxz, hself, Option.some.injEq] at hx
      rw [← hx, hdown]
      exact iff_of_false (by simp) fun ⟨y, _, hy⟩ => hfresh hy rfl
    · rw [hcell, Function.update_of_ne hxz] at hx
      rw [hothers d (hfresh hx)]
      exact h.up hx

/-- **A clone or a token given out keeps the cells in line.** -/
theorem derives (hsource : v.cell? y = some c) (hnew : v.cell? z = none)
    (hcell : v'.cell? = Function.update v.cell? z (some c)) (hflag : v'.flag? = v.flag?) :
    Sound (E ++ [.derives y z]) v' := by
  have hkept : ∀ {x}, Made E x → v'.cell? x = v.cell? x := h.cell_kept hnew hcell
  have hself : v'.cell? z = some c := by rw [hcell, Function.update_self]
  have hy : Made E y := h.made_of_cell hsource
  -- whatever cell someone has, someone had it before
  have hearlier : ∀ {x d}, v'.cell? x = some d → ∃ x', v.cell? x' = some d := by
    intro x d hx
    by_cases hxz : x = z
    · rw [hxz, hself] at hx
      exact ⟨y, hsource.trans hx⟩
    · rw [hcell, Function.update_of_ne hxz] at hx
      exact ⟨x, hx⟩
  constructor
  case made => exact h.made_update hcell rfl
  case inUse =>
    intro x d hx
    obtain ⟨x', hx'⟩ := hearlier hx
    rw [hflag]
    exact h.inUse hx'
  case derived =>
    intro a b hd
    rcases List.mem_append.mp hd with hd | hd
    · rw [hkept (h.made_source hd), hkept (Made.of_derives hd)]
      exact h.derived hd
    · obtain ⟨rfl, rfl⟩ := ShutdownEffect.derives.inj (List.mem_singleton.mp hd)
      rw [hkept hy, hself, hsource]
  case founded =>
    intro a b ha hb hab
    have ha := mem_of_concat ha ShutdownEffect.noConfusion
    have hb := mem_of_concat hb ShutdownEffect.noConfusion
    rw [hkept (Made.of_founds ha), hkept (Made.of_founds hb)] at hab
    exact h.founded ha hb hab
  case rooted =>
    intro x hx
    rcases made_concat.mp hx with hx | hx
    · exact h.rooted_mono hx
    · obtain ⟨f, hf, hfy⟩ := h.rooted_mono (e := .derives y z) hy
      rw [← Option.some.inj hx]
      exact ⟨f, hf, hfy.tail (List.mem_append_right _ (List.mem_singleton_self _))⟩
  case asked => exact h.asked_concat fun _ => ShutdownEffect.noConfusion
  case up =>
    intro x d hx
    obtain ⟨x', hx'⟩ := hearlier hx
    rw [h.asked_update hnew hcell fun _ => ShutdownEffect.noConfusion, hflag]
    exact h.up hx'

/-- **To ask keeps the cells in line.** -/
theorem asks (hplace : v.cell? z = some c) (hcell : v'.cell? = v.cell?)
    (hup : v'.flag? c = some true) (hothers : ∀ d, d ≠ c → v'.flag? d = v.flag? d) :
    Sound (E ++ [.asks z]) v' := by
  constructor
  case made =>
    intro x
    rw [hcell, h.made, made_concat_of_none rfl]
  case inUse =>
    intro x d hx
    by_cases hd : d = c
    · rw [hd, hup]
      exact Option.some_ne_none _
    · rw [hothers d hd]
      exact h.inUse (hcell ▸ hx)
  case derived =>
    intro x y hd
    rw [hcell]
    exact h.derived (mem_of_concat hd ShutdownEffect.noConfusion)
  case founded =>
    intro x y hx hy hxy
    rw [hcell] at hxy
    exact h.founded (mem_of_concat hx ShutdownEffect.noConfusion)
      (mem_of_concat hy ShutdownEffect.noConfusion) hxy
  case rooted =>
    intro x hx
    exact h.rooted_mono ((made_concat_of_none rfl).mp hx)
  case asked =>
    intro x hx
    refine (made_concat_of_none rfl).mpr ?_
    rcases List.mem_append.mp hx with hx | hx
    · exact h.asked hx
    · rw [ShutdownEffect.asks.inj (List.mem_singleton.mp hx)]
      exact h.made_of_cell hplace
  case up =>
    intro x d hx
    rw [hcell] at hx ⊢
    by_cases hd : d = c
    · rw [hd, hup]
      exact iff_of_true rfl ⟨z, List.mem_append_right _ (List.mem_singleton_self _), hplace⟩
    · rw [hothers d hd, h.up hx]
      refine exists_congr fun y => and_congr_left fun hy => ?_
      have hne : y ≠ z := by
        intro heq
        rw [heq, hplace] at hy
        exact hd (Option.some.inj hy).symm
      simp [hne]

/-- An operation that comes to nothing keeps the cells in line. -/
theorem nothing : Sound (E ++ [.nothing]) v where
  made x := by rw [h.made, made_concat_of_none rfl]
  inUse := h.inUse
  derived hd := h.derived (mem_of_concat hd ShutdownEffect.noConfusion)
  founded hx hy := h.founded (mem_of_concat hx ShutdownEffect.noConfusion)
    (mem_of_concat hy ShutdownEffect.noConfusion)
  rooted hx := h.rooted_mono ((made_concat_of_none rfl).mp hx)
  asked := h.asked_concat fun _ => ShutdownEffect.noConfusion
  up hx := by simpa using h.up hx

/-- **Every step keeps the cells in line with the account.** -/
theorem step (hs : Step v v' e) : Sound (E ++ [e]) v' := by
  cases hs with
  | founds hnew hfree hcell hdown hothers => exact h.founds hnew hfree hcell hdown hothers
  | derives hsource hnew hcell hflag => exact h.derives hsource hnew hcell hflag
  | asks hplace hcell hup hothers => exact h.asks hplace hcell hup hothers
  | nothing hsame =>
    subst hsame
    exact h.nothing

/-- **A step changes what someone reads only by asking in its family.** -/
theorem reads_step (hs : Step v v' e) (hx : Made E x) (hapart : ∀ y, e = .asks y → ¬Kin E x y) :
    v'.reads x = v.reads x := by
  obtain ⟨c, hc⟩ := h.exists_cell hx
  -- it keeps its cell, and its cell keeps the flag
  have hkept : v'.cell? x = v.cell? x ∧ v'.flag? c = v.flag? c := by
    cases hs with
    | founds hnew hfree hcell hdown hothers =>
      exact ⟨h.cell_kept hnew hcell hx, hothers c fun heq => h.inUse hc (heq ▸ hfree)⟩
    | derives hsource hnew hcell hflag => exact ⟨h.cell_kept hnew hcell hx, by rw [hflag]⟩
    | @asks y d hplace hcell hup hothers =>
      refine ⟨by rw [hcell], hothers c fun heq => hapart y rfl ?_⟩
      rw [h.kin_iff hx (h.made_of_cell hplace), hc, hplace, heq]
    | nothing hsame =>
      subst hsame
      exact ⟨rfl, rfl⟩
  unfold reads
  rw [hkept.1, hc, Option.map_some, Option.map_some, hkept.2]

end

end Sound

end CellView

end TrafficRouter
