/-!
# Byte sequences

What travels over a connection, as a list of bytes, with the two operations that reading a text
protocol needs: where a marker occurs first (`find`), and the pieces between separators
(`splitOn`). Both run in one pass and in constant stack, so a message of any length is read;
`find_eq_some_iff`, `find_eq_none_iff`, `splitOn_cons` and `splitOn_eq` say what they compute, and
`splitOn_eq_singleton_iff`, `splitOn_eq_cons_cons_iff` which lists have the pieces given.

Not here: any meaning of the bytes. Text is in `TrafficRouter.Text.Utf8`.
-/

namespace TrafficRouter

/-- A sequence of bytes. -/
abbrev Bytes := List UInt8

/-- The bytes of an ASCII text, one per character. -/
def ascii (text : List Char) : Bytes := text.map fun c => UInt8.ofNat c.toNat

/-! ## 1. Where a marker occurs first -/

/-- `find` with the offset of the list's head given. -/
def findFrom (marker : Bytes) (offset : Nat) : Bytes → Option Nat
  | [] => none
  | b :: rest =>
    if marker.isPrefixOf (b :: rest) then some offset else findFrom marker (offset + 1) rest

/-- The least offset at which the non-empty `marker` occurs in `text`. -/
def find (marker text : Bytes) : Option Nat := findFrom marker 0 text

theorem findFrom_eq (marker text : Bytes) (offset : Nat) :
    findFrom marker offset text = (find marker text).map (offset + ·) := by
  induction text generalizing offset with
  | nil => rfl
  | cons b rest ih =>
    unfold find findFrom
    split
    · simp
    · rw [ih (offset + 1), ih (0 + 1), Option.map_map]
      congr 1
      funext i
      simp
      omega

@[simp] theorem find_nil (marker : Bytes) : find marker [] = none := rfl

/-- The marker is either at the head, or as far behind it as it is in the tail. -/
theorem find_cons (marker : Bytes) (b : UInt8) (rest : Bytes) :
    find marker (b :: rest) =
      if marker.isPrefixOf (b :: rest) then some 0 else (find marker rest).map (· + 1) := by
  rw [find, findFrom]
  split
  · rfl
  · rw [findFrom_eq]
    congr 1
    funext i
    omega

/-- Nothing is found exactly where the marker occurs at no offset inside the text. -/
theorem find_eq_none_iff {marker text : Bytes} :
    find marker text = none ↔ ∀ i < text.length, ¬ marker <+: text.drop i := by
  induction text with
  | nil => simp
  | cons b rest ih =>
    rw [find_cons]
    by_cases h : marker.isPrefixOf (b :: rest)
    · simp only [h, if_true, reduceCtorEq, false_iff]
      intro hall
      exact hall 0 (by simp) (List.isPrefixOf_iff_prefix.1 h)
    · simp only [h, Bool.false_eq_true, if_false, Option.map_eq_none_iff, ih]
      constructor
      · intro hall i hi
        cases i with
        | zero => exact fun hp => h (List.isPrefixOf_iff_prefix.2 hp)
        | succ i => exact hall i (by simpa using hi)
      · intro hall i hi
        exact hall (i + 1) (by simpa using hi)

/-- The offset found is one at which the marker occurs, and the least such. -/
theorem find_eq_some_iff {marker text : Bytes} {n : Nat} :
    find marker text = some n ↔
      n < text.length ∧ marker <+: text.drop n ∧ ∀ i < n, ¬ marker <+: text.drop i := by
  induction text generalizing n with
  | nil => simp
  | cons b rest ih =>
    rw [find_cons]
    by_cases h : marker.isPrefixOf (b :: rest)
    · have hp : marker <+: (b :: rest).drop 0 := List.isPrefixOf_iff_prefix.1 h
      simp only [h, if_true, Option.some.injEq]
      constructor
      · rintro rfl
        exact ⟨by simp, hp, fun i hi => absurd hi (Nat.not_lt_zero i)⟩
      · rintro ⟨-, -, hleast⟩
        cases n with
        | zero => rfl
        | succ n => exact absurd hp (hleast 0 (Nat.succ_pos n))
    · have hp : ¬ marker <+: (b :: rest).drop 0 := fun hp => h (List.isPrefixOf_iff_prefix.2 hp)
      simp only [h, Bool.false_eq_true, if_false, Option.map_eq_some_iff]
      constructor
      · rintro ⟨m, hm, rfl⟩
        obtain ⟨h1, h2, h3⟩ := ih.1 hm
        refine ⟨by simpa using h1, h2, fun i hi => ?_⟩
        cases i with
        | zero => exact hp
        | succ i => exact h3 i (by omega)
      · rintro ⟨h1, h2, h3⟩
        cases n with
        | zero => exact absurd h2 hp
        | succ n =>
          exact ⟨n, ih.2 ⟨by simpa using h1, h2, fun i hi => h3 (i + 1) (by omega)⟩, rfl⟩

/-! ## 2. The pieces between separators -/

/-- `splitOn` with the piece in hand and the pieces before it, both latest first. -/
def splitOnto {α : Type} [DecidableEq α] (sep : α) (piece : List α) (done : List (List α)) :
    List α → List (List α)
  | [] => (piece.reverse :: done).reverse
  | x :: rest =>
    if x = sep then splitOnto sep [] (piece.reverse :: done) rest
    else splitOnto sep (x :: piece) done rest

/-- The pieces of a list between the occurrences of `sep`: one more than there are separators. -/
def splitOn {α : Type} [DecidableEq α] (sep : α) (xs : List α) : List (List α) :=
  splitOnto sep [] [] xs

section Split

variable {α : Type} [DecidableEq α]

theorem splitOnto_eq (sep : α) (piece : List α) (done : List (List α)) (xs : List α) :
    splitOnto sep piece done xs =
      done.reverse ++ ((splitOn sep xs).head?.map (piece.reverse ++ ·)).toList
        ++ (splitOn sep xs).tail := by
  induction xs generalizing piece done with
  | nil => simp [splitOn, splitOnto]
  | cons x rest ih =>
    unfold splitOn splitOnto
    split
    · rw [ih [] (piece.reverse :: done), ih [] [[].reverse]]
      cases h : splitOn sep rest with
      | nil => simp
      | cons p ps => simp
    · rw [ih (x :: piece) done, ih [x] []]
      cases h : splitOn sep rest with
      | nil => simp
      | cons p ps => simp

@[simp] theorem splitOn_nil (sep : α) : splitOn sep [] = [[]] := rfl

theorem splitOn_ne_nil (sep : α) (xs : List α) : splitOn sep xs ≠ [] := by
  induction xs with
  | nil => simp
  | cons x rest ih =>
    unfold splitOn splitOnto
    split <;> rw [splitOnto_eq] <;> cases h : splitOn sep rest <;> simp_all

/-- A separator closes the piece before it, and any other element joins the piece it stands in. -/
theorem splitOn_cons (sep x : α) (rest : List α) :
    splitOn sep (x :: rest) =
      if x = sep then [] :: splitOn sep rest
      else (x :: (splitOn sep rest).headD []) :: (splitOn sep rest).tail := by
  have hne := splitOn_ne_nil sep rest
  rw [splitOn, splitOnto]
  split <;> rw [splitOnto_eq] <;> cases h : splitOn sep rest <;> simp_all

/-- The pieces are those of the library's function. -/
theorem splitOn_eq (sep : α) (xs : List α) : splitOn sep xs = xs.splitOn sep := by
  induction xs with
  | nil => simp
  | cons x rest ih =>
    rw [splitOn_cons, List.splitOn_cons_eq_if_modifyHead, ih]
    have hne := List.splitOn_ne_nil sep rest
    by_cases hx : x = sep
    · rw [if_pos hx, if_pos (beq_iff_eq.mpr hx)]
    · rw [if_neg hx, if_neg (mt beq_iff_eq.mp hx)]
      cases h : rest.splitOn sep with
      | nil => exact absurd h hne
      | cons p ps => rfl

variable {sep : α} {xs : List α}

/-- The first separator ends the first piece. -/
theorem splitOn_append_cons {piece : List α} (h : sep ∉ piece) (rest : List α) :
    splitOn sep (piece ++ sep :: rest) = piece :: splitOn sep rest := by
  rw [splitOn_eq, splitOn_eq, List.splitOn_append_cons_self_of_not_mem h]

theorem splitOn_of_not_mem (h : sep ∉ xs) : splitOn sep xs = [xs] := by
  rw [splitOn_eq, List.splitOn_eq_singleton h]

/-- One piece is a list without a separator. -/
theorem splitOn_eq_singleton_iff {piece : List α} :
    splitOn sep xs = [piece] ↔ xs = piece ∧ sep ∉ piece := by
  constructor
  · intro h
    by_cases hmem : sep ∈ xs
    · obtain ⟨front, back, rfl, hfront⟩ := List.eq_append_cons_of_mem hmem
      rw [splitOn_append_cons hfront, List.cons.injEq] at h
      exact absurd h.2 (splitOn_ne_nil sep back)
    · rw [splitOn_of_not_mem hmem, List.cons.injEq] at h
      exact ⟨h.1, h.1 ▸ hmem⟩
  · rintro ⟨rfl, h⟩
    exact splitOn_of_not_mem h

/-- The first of several pieces is what comes before the first separator. -/
theorem splitOn_eq_cons_cons_iff {piece next : List α} {pieces : List (List α)} :
    splitOn sep xs = piece :: next :: pieces ↔
      ∃ rest, xs = piece ++ sep :: rest ∧ sep ∉ piece ∧ splitOn sep rest = next :: pieces := by
  constructor
  · intro h
    by_cases hmem : sep ∈ xs
    · obtain ⟨front, back, rfl, hfront⟩ := List.eq_append_cons_of_mem hmem
      rw [splitOn_append_cons hfront, List.cons.injEq] at h
      obtain ⟨rfl, hback⟩ := h
      exact ⟨back, rfl, hfront, hback⟩
    · rw [splitOn_of_not_mem hmem, List.cons.injEq] at h
      exact absurd h.2.symm (List.cons_ne_nil next pieces)
  · rintro ⟨rest, rfl, h, hrest⟩
    rw [splitOn_append_cons h, hrest]

end Split

/-! ## 3. Letters -/

/-- The lower-case form of an ASCII letter, and any other byte as it is. -/
def lowerAscii (b : UInt8) : UInt8 := if 65 ≤ b ∧ b ≤ 90 then b + 32 else b

end TrafficRouter
