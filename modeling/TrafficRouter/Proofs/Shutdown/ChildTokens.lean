import Mathlib.Data.Fin.Tuple.Basic
import TrafficRouter.Proofs.Shutdown.Families

/-!
# Child tokens

A cancellation token may have children. To cancel a token cancels its children with it, those that
it gets later among them, and to cancel a child cancels no token above it.

* `TokenTree`: what can be done with such tokens; `TokenTree.flags` is one that can be run;
* `TokenTree.Lawful`: what is relied on of them, and no more; `TokenTree.flags_lawful`;
* `TokenTree.Lawful.roots`: tokens that were made one after the other have nothing in common.

NOT here: who gets a child of which token.
-/

namespace TrafficRouter

/-- What can be done with cancellation tokens that may have children. -/
structure TokenTree (World Token : Type) extends TokenLibrary World Token where
  child : World → Token → Token × World

/-- Tokens are lists of numbers of flags: a token's own, and those of the tokens above it. A clone has
the flags of its original, and a child has one more. -/
def TokenTree.flags : TokenTree (List Bool) (List Nat) where
  start := []
  create w := ([w.length], w ++ [false])
  clone w t := (t, w)
  child w t := (w.length :: t, w ++ [false])
  cancel w t :=
    match t with
    | [] => w
    | own :: _ => w.set own true
  isCancelled w t := t.any fun c => w[c]?.getD false

/-- A cell that had no flag has one that is down, and nothing else has changed. -/
structure OpensCell {World Cell : Type} (flag : World → Cell → Option Bool) (w w' : World)
    (c : Cell) : Prop where
  free : flag w c = none
  down : flag w' c = some false
  others : ∀ other, other ≠ c → flag w' other = flag w other

namespace OpensCell

variable {World Cell : Type} {flag : World → Cell → Option Bool} {w w' : World} {c other : Cell}

/-- A cell with a flag is another one. -/
theorem ne (h : OpensCell flag w w' c) (hflag : flag w other ≠ none) : other ≠ c := by
  rintro rfl
  exact hflag h.free

/-- A flag that there was is as it was. -/
theorem kept (h : OpensCell flag w w' c) {up : Bool} (hflag : flag w other = some up) :
    flag w' other = some up :=
  (h.others other (h.ne (by rw [hflag]; exact Option.some_ne_none _))).trans hflag

end OpensCell

/-- **What is relied on of tokens that may have children.** A token has a line of cells, its own
first and then those of the tokens above it, and is cancelled when a flag is up in one of them. A
token that is made has a cell of its own with the flag down; a child has the line of its parent
behind its own cell; and to cancel a token raises the flag in its own cell and no other. -/
structure TokenTree.Lawful {World Token Cell : Type} (lib : TokenTree World Token)
    (line : Token → List Cell) (flag : World → Cell → Option Bool) : Prop where
  isCancelled_iff : ∀ w t, lib.isCancelled w t = true ↔ ∃ c ∈ line t, flag w c = some true
  create : ∀ w, ∃ c, line (lib.create w).1 = [c] ∧ OpensCell flag w (lib.create w).2 c
  child : ∀ w t, ∃ c, line (lib.child w t).1 = c :: line t ∧ OpensCell flag w (lib.child w t).2 c
  cancel_up : ∀ w t c above, line t = c :: above → flag w c ≠ none →
    flag (lib.cancel w t) c = some true
  cancel_others : ∀ w t c above, line t = c :: above → ∀ other, other ≠ c →
    flag (lib.cancel w t) other = flag w other

/-- One flag more is in no cell that had one. -/
theorem opensCell_concat (w : List Bool) :
    OpensCell (fun (w : List Bool) c => w[c]?) w (w ++ [false]) w.length where
  free := List.getElem?_eq_none (Nat.le_refl w.length)
  down := List.getElem?_concat_length
  others _ hne := getElem?_concat_of_ne hne

/-- Lists of numbers of flags are lawful tokens. -/
theorem TokenTree.flags_lawful : TokenTree.flags.Lawful id fun w c => w[c]? where
  isCancelled_iff w t := by
    show (t.any fun c => w[c]?.getD false) = true ↔ ∃ c ∈ t, w[c]? = some true
    rw [List.any_eq_true]
    refine exists_congr fun c => and_congr_right fun _ => ?_
    cases w[c]? <;> simp
  create w := ⟨w.length, rfl, opensCell_concat w⟩
  child w _ := ⟨w.length, rfl, opensCell_concat w⟩
  cancel_up w t c above hline hmade := by
    obtain rfl : t = c :: above := hline
    have hlt : c < w.length := by
      by_contra hge
      exact hmade (List.getElem?_eq_none (Nat.le_of_not_lt hge))
    exact List.getElem?_set_self hlt
  cancel_others w t c above hline other hne := by
    obtain rfl : t = c :: above := hline
    exact List.getElem?_set_ne hne.symm

namespace TokenTree

variable {World Token Cell : Type} {lib : TokenTree World Token} {line : Token → List Cell}
  {flag : World → Cell → Option Bool}

/-- So many tokens made one after the other, and the state that their making left. -/
def roots (lib : TokenTree World Token) : (n : Nat) → (Fin n → Token) × World
  | 0 => (Fin.elim0, lib.start)
  | n + 1 =>
    let made := lib.create (lib.roots n).2
    (Fin.snoc (lib.roots n).1 made.1, made.2)

/-- **Tokens that were made one after the other have cells of their own**, with the flags down. -/
theorem Lawful.roots (hlib : lib.Lawful line flag) (n : Nat) :
    ∃ cells : Fin n → Cell, Function.Injective cells ∧
      ∀ k, line ((lib.roots n).1 k) = [cells k] ∧ flag (lib.roots n).2 (cells k) = some false := by
  induction n with
  | zero => exact ⟨Fin.elim0, fun k => k.elim0, fun k => k.elim0⟩
  | succ n ih =>
    obtain ⟨cells, hinjective, hcells⟩ := ih
    obtain ⟨c, hline, hopens⟩ := hlib.create (lib.roots n).2
    have hne : ∀ k, cells k ≠ c := fun k => hopens.ne (by rw [(hcells k).2]; exact nofun)
    refine ⟨Fin.snoc cells c, ?_, fun k => ?_⟩
    · refine Fin.snoc_injective_iff.mpr ⟨hinjective, ?_⟩
      rintro ⟨k, hk⟩
      exact hne k hk
    · refine Fin.lastCases ?_ (fun k => ?_) k
      · simp only [TokenTree.roots, Fin.snoc_last]
        exact ⟨hline, hopens.down⟩
      · simp only [TokenTree.roots, Fin.snoc_castSucc]
        exact ⟨(hcells k).1, hopens.kept (hcells k).2⟩

end TokenTree

end TrafficRouter
