import TrafficRouter.Proofs.Shutdown.Cells

/-!
# Families of shutdown handles

Handles and tokens that come from one handle, by clones and by tokens given out, are a family, and
what a family reads follows from the account of what was done.

* `TokenLibrary.Lawful`: what is relied on of cancellation tokens, and no more; the tokens that run
  are so (`TokenLibrary.flags_lawful`);
* `ShutdownHandles.Does`, `Does.step`, `sound_run`: what an operation does, that it is a step of the
  cells, and that any operations keep the cells in line with the account;
* `readingAfter_insert`: what a reading owes to one ask;
* `shutdown_families`: who reads as triggered, and what changes that.

NOT here: which tasks of a server watch a token, and child tokens.
-/

namespace TrafficRouter

/-! ## 1. Cancellation tokens -/

/-- **What is relied on of cancellation tokens.** A token has a cell, and in the cell of a token
that was made there is a flag. A new token has a cell of its own with the flag down, a clone has
that of its original, and to cancel a token raises the flag in its cell and no other. -/
structure TokenLibrary.Lawful {World Token Cell : Type} (lib : TokenLibrary World Token)
    (cell : Token → Cell) (flag : World → Cell → Option Bool) : Prop where
  isCancelled_iff : ∀ w t, lib.isCancelled w t = true ↔ flag w (cell t) = some true
  create_free : ∀ w, flag w (cell (lib.create w).1) = none
  create_down : ∀ w, flag (lib.create w).2 (cell (lib.create w).1) = some false
  create_others : ∀ w c, c ≠ cell (lib.create w).1 → flag (lib.create w).2 c = flag w c
  clone_cell : ∀ w t, cell (lib.clone w t).1 = cell t
  clone_flag : ∀ w t, flag (lib.clone w t).2 = flag w
  cancel_up : ∀ w t, flag w (cell t) ≠ none → flag (lib.cancel w t) (cell t) = some true
  cancel_others : ∀ w t c, c ≠ cell t → flag (lib.cancel w t) c = flag w c

/-- One more at the end of a list is at no other place. -/
theorem getElem?_concat_of_ne {α : Type} {l : List α} {a : α} {i : Nat} (h : i ≠ l.length) :
    (l ++ [a])[i]? = l[i]? := by
  rcases Nat.lt_or_gt_of_ne h with hlt | hgt
  · exact List.getElem?_append_left hlt
  · rw [List.getElem?_append_right (Nat.le_of_lt hgt), List.getElem?_eq_none (Nat.le_of_lt hgt),
      List.getElem?_eq_none (Nat.sub_pos_of_lt hgt)]

/-- Numbers of flags are lawful tokens. -/
theorem TokenLibrary.flags_lawful : TokenLibrary.flags.Lawful id fun w c => w[c]? where
  isCancelled_iff w t := by
    show w[t]?.getD false = true ↔ w[t]? = some true
    cases w[t]? <;> simp
  create_free w := List.getElem?_eq_none (Nat.le_refl w.length)
  create_down w := List.getElem?_concat_length
  create_others _ _ hne := getElem?_concat_of_ne hne
  clone_cell _ _ := rfl
  clone_flag _ _ := rfl
  cancel_up w t hmade := by
    have hlt : t < w.length := by
      by_contra hge
      exact hmade (List.getElem?_eq_none (Nat.le_of_not_lt hge))
    exact List.getElem?_set_self hlt
  cancel_others _ _ _ hne := List.getElem?_set_ne hne.symm

/-! ## 2. Handles and tokens -/

namespace ShutdownHandles

open CellView

variable {World Token Cell : Type} {lib : TokenLibrary World Token} {cell : Token → Cell}
  {flag : World → Cell → Option Bool} (s : ShutdownHandles lib)

/-- The token that a handle holds, or a token itself. -/
def token? : ShutdownRef → Option Token
  | .handle i => s.handles[i]?.map (·.token)
  | .token i => s.tokens[i]?

/-- What there is to read at a handle or a token. -/
def reads : ShutdownRef → Option Bool
  | .handle i => s.triggered[i]?
  | .token i => s.cancelled[i]?

/-- How much there is. -/
def stock : ShutdownStock := ⟨s.handles.length, s.tokens.length⟩

/-- The cells of the tokens, and what is in them. -/
def view (cell : Token → Cell) (flag : World → Cell → Option Bool) : CellView Cell :=
  ⟨Option.map cell ∘ s.token?, flag s.world⟩

/-- What is read at a handle or a token is its flag. -/
theorem reads_eq_view (hlib : lib.Lawful cell flag) (x : ShutdownRef) :
    s.reads x = (s.view cell flag).reads x := by
  have hread : s.reads x = (s.token? x).map (lib.isCancelled s.world) := by
    cases x with
    | handle i => simp [reads, token?, triggered, ShutdownHandle.isTriggered, Function.comp_def]
    | token i => simp [reads, token?, cancelled]
  have hflag : ∀ t, lib.isCancelled s.world t = (flag s.world (cell t) == some true) := fun t => by
    rw [Bool.eq_iff_iff, hlib.isCancelled_iff, beq_iff_eq]
  rw [hread, funext hflag]
  exact (Option.map_map (fun c => flag s.world c == some true) cell (s.token? x)).symm

theorem token?_addHandle (made : ShutdownHandle Token × World) :
    (s.addHandle made).token? =
      Function.update s.token? (.handle s.handles.length) (some made.1.token) := by
  funext x
  rw [Function.update_apply]
  split
  case isTrue heq =>
    rw [heq]
    exact congrArg (Option.map _) List.getElem?_concat_length
  case isFalse hne =>
    cases x with
    | handle i =>
      exact congrArg (Option.map _) (getElem?_concat_of_ne fun heq => hne (congrArg _ heq))
    | token i => rfl

theorem token?_addToken (made : Token × World) :
    (s.addToken made).token? =
      Function.update s.token? (.token s.tokens.length) (some made.1) := by
  funext x
  rw [Function.update_apply]
  split
  case isTrue heq =>
    rw [heq]
    exact List.getElem?_concat_length
  case isFalse hne =>
    cases x with
    | handle i => rfl
    | token i => exact getElem?_concat_of_ne fun heq => hne (congrArg _ heq)

/-- The cells with one handle more. -/
theorem cell?_addHandle (made : ShutdownHandle Token × World) :
    ((s.addHandle made).view cell flag).cell? =
      Function.update (s.view cell flag).cell? (.handle s.handles.length)
        (some (cell made.1.token)) := by
  show Option.map cell ∘ _ = _
  rw [token?_addHandle, Function.comp_update]
  rfl

/-- The cells with one token more. -/
theorem cell?_addToken (made : Token × World) :
    ((s.addToken made).view cell flag).cell? =
      Function.update (s.view cell flag).cell? (.token s.tokens.length) (some (cell made.1)) := by
  show Option.map cell ∘ _ = _
  rw [token?_addToken, Function.comp_update]
  rfl

variable {s} {E : List ShutdownEffect} {i : Nat}

theorem cell?_handle (hi : i < s.handles.length) :
    (s.view cell flag).cell? (.handle i) = some (cell s.handles[i].token) := by
  show (s.handles[i]?.map _).map cell = _
  rw [List.getElem?_eq_getElem hi]
  rfl

theorem cell?_token (hi : i < s.tokens.length) :
    (s.view cell flag).cell? (.token i) = some (cell s.tokens[i]) := by
  show s.tokens[i]?.map cell = _
  rw [List.getElem?_eq_getElem hi]
  rfl

/-- There is no next handle yet. -/
theorem cell?_nextHandle : (s.view cell flag).cell? (.handle s.handles.length) = none := by
  show (s.handles[_]?.map _).map cell = _
  rw [List.getElem?_eq_none (Nat.le_refl _)]
  rfl

/-- There is no next token yet. -/
theorem cell?_nextToken : (s.view cell flag).cell? (.token s.tokens.length) = none := by
  show s.tokens[_]?.map cell = _
  rw [List.getElem?_eq_none (Nat.le_refl _)]
  rfl

/-- **What an operation does**, by what it comes to. -/
inductive Does (s : ShutdownHandles lib) : ShutdownEffect → ShutdownHandles lib → Prop
  | founds : Does s (.founds (.handle s.handles.length))
      (s.addHandle (ShutdownHandle.create lib s.world))
  | clones {i : Nat} (hi : i < s.handles.length) :
      Does s (.derives (.handle i) (.handle s.handles.length))
        (s.addHandle (s.handles[i].clone lib s.world))
  | gives {i : Nat} (hi : i < s.handles.length) :
      Does s (.derives (.handle i) (.token s.tokens.length))
        (s.addToken (s.handles[i].giveToken lib s.world))
  | triggers {i : Nat} (hi : i < s.handles.length) :
      Does s (.asks (.handle i)) { s with world := s.handles[i].trigger lib s.world }
  | cancels {i : Nat} (hi : i < s.tokens.length) :
      Does s (.asks (.token i)) { s with world := lib.cancel s.world s.tokens[i] }
  | nothing : Does s .nothing s

theorem act_does (s : ShutdownHandles lib) (act : ShutdownAction) :
    Does s (s.stock.effect act) (s.act act) := by
  cases act with
  | clone i =>
    show Does s (if i < s.handles.length then _ else _) _
    by_cases hi : i < s.handles.length
    · rw [if_pos hi, ShutdownHandles.act, List.getElem?_eq_getElem hi]
      exact .clones hi
    · rw [if_neg hi, ShutdownHandles.act, List.getElem?_eq_none (Nat.le_of_not_lt hi)]
      exact .nothing
  | new => exact .founds
  | token i =>
    show Does s (if i < s.handles.length then _ else _) _
    by_cases hi : i < s.handles.length
    · rw [if_pos hi, ShutdownHandles.act, List.getElem?_eq_getElem hi]
      exact .gives hi
    · rw [if_neg hi, ShutdownHandles.act, List.getElem?_eq_none (Nat.le_of_not_lt hi)]
      exact .nothing
  | trigger i =>
    show Does s (if i < s.handles.length then _ else _) _
    by_cases hi : i < s.handles.length
    · rw [if_pos hi, ShutdownHandles.act, List.getElem?_eq_getElem hi]
      exact .triggers hi
    · rw [if_neg hi, ShutdownHandles.act, List.getElem?_eq_none (Nat.le_of_not_lt hi)]
      exact .nothing
  | cancel i =>
    show Does s (if i < s.tokens.length then _ else _) _
    by_cases hi : i < s.tokens.length
    · rw [if_pos hi, ShutdownHandles.act, List.getElem?_eq_getElem hi]
      exact .cancels hi
    · rw [if_neg hi, ShutdownHandles.act, List.getElem?_eq_none (Nat.le_of_not_lt hi)]
      exact .nothing

variable {s' : ShutdownHandles lib} {e : ShutdownEffect}

theorem Does.stock (hd : Does s e s') : s'.stock = s.stock.after e := by
  cases hd with
  | founds | clones => exact congrArg (ShutdownStock.mk · _) List.length_append
  | gives => exact congrArg (ShutdownStock.mk _ ·) List.length_append
  | triggers | cancels | nothing => rfl

/-- **What is done is a step of the cells.** -/
theorem Does.step (hd : Does s e s') (hlib : lib.Lawful cell flag)
    (h : Sound E (s.view cell flag)) : Step (s.view cell flag) (s'.view cell flag) e := by
  cases hd with
  | founds =>
    exact .founds cell?_nextHandle (hlib.create_free _) (cell?_addHandle s _) (hlib.create_down _)
      (hlib.create_others _)
  | clones hi =>
    refine .derives (cell?_handle hi) cell?_nextHandle ?_ (hlib.clone_flag _ _)
    rw [cell?_addHandle]
    exact congrArg _ (congrArg some (hlib.clone_cell _ _))
  | gives hi =>
    refine .derives (cell?_handle hi) cell?_nextToken ?_ (hlib.clone_flag _ _)
    rw [cell?_addToken]
    exact congrArg _ (congrArg some (hlib.clone_cell _ _))
  | triggers hi =>
    have hcell : (s.view cell flag).cell? _ = _ := cell?_handle hi
    exact .asks hcell rfl (hlib.cancel_up _ _ (h.inUse hcell)) (hlib.cancel_others _ _)
  | cancels hi =>
    have hcell : (s.view cell flag).cell? _ = _ := cell?_token hi
    exact .asks hcell rfl (hlib.cancel_up _ _ (h.inUse hcell)) (hlib.cancel_others _ _)
  | nothing => exact .nothing rfl

/-- The handle that is there from the start is one that was made anew. -/
theorem run_default (lib : TokenLibrary World Token) (actions : List ShutdownAction) :
    ({} : ShutdownHandles lib).run actions = (empty lib lib.start).run (.new :: actions) :=
  rfl

theorem run_concat (s : ShutdownHandles lib) (actions : List ShutdownAction)
    (act : ShutdownAction) : s.run (actions ++ [act]) = (s.run actions).act act :=
  List.foldl_append

/-- **Any operations keep the cells in line with the account.** -/
theorem sound_run (hlib : lib.Lawful cell flag) (h : Sound E (s.view cell flag))
    (actions : List ShutdownAction) :
    Sound (E ++ s.stock.effects actions) ((s.run actions).view cell flag) := by
  induction actions generalizing s E with
  | nil =>
    rw [ShutdownStock.effects, List.append_nil]
    exact h
  | cons act actions ih =>
    have hd := s.act_does act
    have hrest := ih (h.step (hd.step hlib h))
    rw [hd.stock, List.append_assoc] at hrest
    exact hrest

end ShutdownHandles

/-! ## 3. Readings -/

section

open ShutdownEffect CellView

variable {World Token Cell : Type} {lib : TokenLibrary World Token} {cell : Token → Cell}
  {flag : World → Cell → Option Bool}

/-- What there is to read at a handle or a token when some operations are done, from before the
first handle. -/
def readingAfter (lib : TokenLibrary World Token) (w : World) (actions : List ShutdownAction)
    (x : ShutdownRef) : Option Bool :=
  ((ShutdownHandles.empty lib w).run actions).reads x

/-- The cells are in line with the account of all that was done. -/
theorem sound_account (hlib : lib.Lawful cell flag) (w : World) (actions : List ShutdownAction) :
    Sound (account actions) (((ShutdownHandles.empty lib w).run actions).view cell flag) := by
  have hnone : ∀ x, ((ShutdownHandles.empty lib w).view cell flag).cell? x = none := by
    intro x
    cases x <;> rfl
  have h := ShutdownHandles.sound_run hlib (Sound.start hnone) actions
  rwa [List.nil_append] at h

/-- Two readings are the same when both are or are not there, and both or none are true. -/
theorem reading_ext {a b : Option Bool} (hsome : a.isSome = true ↔ b.isSome = true)
    (htrue : a = some true ↔ b = some true) : a = b := by
  cases a <;> cases b <;> simp_all

section Reading

variable (hlib : lib.Lawful cell flag) (w : World)

include hlib

theorem isSome_readingAfter (actions : List ShutdownAction) (x : ShutdownRef) :
    (readingAfter lib w actions x).isSome = true ↔ Made (account actions) x := by
  unfold readingAfter
  rw [ShutdownHandles.reads_eq_view _ hlib, isSome_reads]
  exact (sound_account hlib w actions).made x

theorem readingAfter_eq_some_true_iff (actions : List ShutdownAction) (x : ShutdownRef) :
    readingAfter lib w actions x = some true ↔
      ∃ y, Kin (account actions) x y ∧ .asks y ∈ account actions := by
  unfold readingAfter
  rw [ShutdownHandles.reads_eq_view _ hlib]
  exact (sound_account hlib w actions).reads_iff

/-- **A reading is the same without an ask** that is in another family, or in a family where
shutdown was asked for anyway. -/
theorem readingAfter_insert {actions later : List ShutdownAction} {x y : ShutdownRef}
    (hanyway : Kin (account (actions ++ later)) x y →
      readingAfter lib w (actions ++ later) x = some true) :
    readingAfter lib w (actions ++ y.ask :: later) x = readingAfter lib w (actions ++ later) x := by
  apply reading_ext
  · rw [isSome_readingAfter hlib, isSome_readingAfter hlib, made_insert]
  constructor
  · intro htrue
    obtain ⟨z, hkin, hasked⟩ := (readingAfter_eq_some_true_iff hlib w _ x).mp htrue
    rw [kin_insert] at hkin
    rcases asked_of_insert hasked with rfl | hasked
    · exact hanyway hkin
    · exact (readingAfter_eq_some_true_iff hlib w _ x).mpr ⟨z, hkin, hasked⟩
  · intro htrue
    obtain ⟨z, hkin, hasked⟩ := (readingAfter_eq_some_true_iff hlib w _ x).mp htrue
    exact (readingAfter_eq_some_true_iff hlib w _ x).mpr
      ⟨z, kin_insert.mpr hkin, account_subset_insert hasked⟩

/-- What reads true does so whatever is done later. -/
theorem readingAfter_append {actions : List ShutdownAction} {x : ShutdownRef}
    (h : readingAfter lib w actions x = some true) (later : List ShutdownAction) :
    readingAfter lib w (actions ++ later) x = some true := by
  obtain ⟨y, hkin, hasked⟩ := (readingAfter_eq_some_true_iff hlib w _ x).mp h
  rw [readingAfter_eq_some_true_iff hlib, account_append]
  exact ⟨y, hkin.mono fun a b hd => List.mem_append_left _ hd, List.mem_append_left _ hasked⟩

end Reading

/-! ## 4. Families -/

/-- **Families of shutdown handles**, when some operations are done. -/
structure ShutdownFamilies (lib : TokenLibrary World Token) (w : World)
    (actions : List ShutdownAction) : Prop where
  /-- What was made can be read, and nothing else. -/
  present : ∀ x, (readingAfter lib w actions x).isSome = true ↔ Made (account actions) x
  /-- Each handle and each token comes from one handle that was made anew. -/
  founder : ∀ x, Made (account actions) x →
    ∃! f, .founds f ∈ account actions ∧ Descends (account actions) f x
  /-- A family is what comes from one such handle. -/
  family : ∀ x y, Made (account actions) x → Made (account actions) y →
    (Kin (account actions) x y ↔ ∃ f, .founds f ∈ account actions ∧
      Descends (account actions) f x ∧ Descends (account actions) f y)
  /-- A handle reads as triggered, and a token as cancelled, when shutdown was asked for anywhere in
  its family. -/
  fired : ∀ x, readingAfter lib w actions x = some true ↔
    ∃ y, Kin (account actions) x y ∧ .asks y ∈ account actions
  /-- What reads so does so whatever is done later. -/
  lasting : ∀ x, readingAfter lib w actions x = some true →
    ∀ later, readingAfter lib w (actions ++ later) x = some true
  /-- To ask again where it reads so changes no reading, then or later. -/
  again : ∀ y, readingAfter lib w actions y = some true →
    ∀ later x, readingAfter lib w (actions ++ y.ask :: later) x =
      readingAfter lib w (actions ++ later) x
  /-- To ask changes no reading in another family, whether its members were made before or after. -/
  apart : ∀ y later x, ¬Kin (account (actions ++ later)) x y →
    readingAfter lib w (actions ++ y.ask :: later) x = readingAfter lib w (actions ++ later) x
  /-- No operation changes what those read that were made, unless it asks in their family. -/
  frame : ∀ act x, Made (account actions) x →
    (∀ y, act = y.ask → ¬Kin (account actions) x y) →
    readingAfter lib w (actions ++ [act]) x = readingAfter lib w actions x

/-- **Shutdown handles form independent families**, and what a family reads changes only from
untriggered to triggered: with any library of cancellation tokens on which that much can be relied,
whatever tokens there are already, and whatever is done to handles and tokens in whatever order. -/
theorem shutdown_families (hlib : lib.Lawful cell flag) (w : World)
    (actions : List ShutdownAction) : ShutdownFamilies lib w actions := by
  have h := sound_account hlib w actions
  constructor
  case present => exact isSome_readingAfter hlib w actions
  case founder => exact fun x hx => h.existsUnique_founder hx
  case family => exact fun x y hx hy => h.kin_iff_founder hx hy
  case fired => exact readingAfter_eq_some_true_iff hlib w actions
  case lasting => exact fun x hx later => readingAfter_append hlib w hx later
  case again =>
    intro y hy later x
    refine readingAfter_insert hlib w fun hkin => ?_
    -- the family was asked before, and still is
    have hstill := readingAfter_append hlib w hy later
    obtain ⟨z, hyz, hasked⟩ := (readingAfter_eq_some_true_iff hlib w _ y).mp hstill
    exact (readingAfter_eq_some_true_iff hlib w _ x).mpr ⟨z, hkin.trans hyz, hasked⟩
  case apart =>
    exact fun y later x hother => readingAfter_insert hlib w fun hkin => absurd hkin hother
  case frame =>
    intro act x hx hother
    unfold readingAfter
    rw [ShutdownHandles.run_concat, ShutdownHandles.reads_eq_view _ hlib,
      ShutdownHandles.reads_eq_view _ hlib]
    have hstep := (ShutdownHandles.act_does _ act).step hlib h
    exact h.reads_step hstep hx fun y hy => hother y (ShutdownStock.eq_ask_of_effect hy)

/-- Two families, where another token is cancelled already. A token of the first is cancelled, and
the handle that is cloned behind that reads as triggered at once. -/
theorem shutdown_families_flags :
    TokenLibrary.flags.Lawful id (fun w c => w[c]?) ∧
      ShutdownFamilies TokenLibrary.flags [true]
        [.new, .clone 0, .token 1, .new, .cancel 0, .token 2, .clone 1] ∧
      ((ShutdownHandles.empty TokenLibrary.flags [true]).run
        [.new, .clone 0, .token 1, .new, .cancel 0, .token 2, .clone 1]).triggered =
          [true, true, false, true] ∧
      ((ShutdownHandles.empty TokenLibrary.flags [true]).run
        [.new, .clone 0, .token 1, .new, .cancel 0, .token 2, .clone 1]).cancelled =
          [true, false] :=
  ⟨TokenLibrary.flags_lawful, shutdown_families TokenLibrary.flags_lawful [true] _, by decide,
    by decide⟩

end

end TrafficRouter
