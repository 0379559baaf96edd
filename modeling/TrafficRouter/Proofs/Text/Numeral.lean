import Mathlib.Data.List.Basic
import Mathlib.Data.List.Induction
import Mathlib.Data.List.TakeDrop
import Mathlib.Data.List.TakeWhile
import Mathlib.Data.Nat.Digits.Defs
import TrafficRouter.Text.Blank
import TrafficRouter.Text.Numeral

/-!
# What a numeral is

The readers of numerals, the division of a list at a separator and the removal of white space, each
as an equivalence with what a text looks like:

* `span_ne_eq_cons_iff`, `span_ne_eq_nil_iff`: what stands before the first separator;
* `Text.trim_eq_iff`: what is left of a text is what stands between its white space;
* `Numeral.Decimal`: one or more decimal digits and the value that they have in base ten;
* `Numeral.digits?_eq_some_iff`, `unsigned?_eq_some_iff`: digits, and digits behind a plus that may be
  missing, of a value that is not too great;
* `Numeral.decimal_toString`: a number is written in decimal digits of its value.
-/

namespace TrafficRouter

/-! ## 1. The first separator -/

section Span

variable {α : Type} [BEq α] [LawfulBEq α] {sep c : α} {list front back : List α}

/-- **The first separator divides a list.** -/
theorem span_ne_eq_cons_iff :
    list.span (· != sep) = (front, c :: back) ↔
      c = sep ∧ sep ∉ front ∧ list = front ++ sep :: back := by
  rw [List.span_eq_takeWhile_dropWhile, Prod.mk.injEq]
  constructor
  · rintro ⟨rfl, hback⟩
    have hc := List.head?_dropWhile_not (· != sep) list
    rw [hback] at hc
    obtain rfl : c = sep := by simpa using hc
    refine ⟨rfl, fun h => by simpa using List.mem_takeWhile_imp h, ?_⟩
    rw [← hback, List.takeWhile_append_dropWhile]
  · rintro ⟨rfl, hmem, rfl⟩
    have hall : ∀ x ∈ front, (x != c) = true := fun x hx => bne_iff_ne.mpr fun e => hmem (e ▸ hx)
    rw [List.takeWhile_append_of_pos hall, List.dropWhile_append_of_pos hall]
    simp

/-- A list without the separator is not divided. -/
theorem span_ne_eq_nil_iff : list.span (· != sep) = (front, []) ↔ front = list ∧ sep ∉ list := by
  rw [List.span_eq_takeWhile_dropWhile, Prod.mk.injEq, List.dropWhile_eq_nil_iff]
  constructor
  · rintro ⟨rfl, hall⟩
    exact ⟨List.takeWhile_eq_self_iff.mpr hall, fun hmem => by simpa using hall sep hmem⟩
  · rintro ⟨rfl, hmem⟩
    have hall : ∀ x ∈ front, (x != sep) = true := fun x hx => bne_iff_ne.mpr fun e => hmem (e ▸ hx)
    exact ⟨List.takeWhile_eq_self_iff.mpr hall, hall⟩

end Span

/-! ## 2. White space at the ends -/

namespace Text

/-- A text of white space alone. -/
def Blank (text : List Char) : Prop := ∀ c ∈ text, isBlank c

instance (text : List Char) : Decidable (Blank text) := List.decidableBAll _ text

/-- A text that neither begins nor ends with white space. -/
structure Trimmed (text : List Char) : Prop where
  head : ∀ c ∈ text.head?, ¬ isBlank c
  last : ∀ c ∈ text.getLast?, ¬ isBlank c

/-- A text without white space is trimmed. -/
theorem Trimmed.of_forall {text : List Char} (h : ∀ c ∈ text, ¬ isBlank c) : Trimmed text where
  head c hc := h c (List.mem_of_mem_head? hc)
  last c hc := h c (List.mem_of_getLast? hc)

/-- A visible ASCII character. -/
def Visible (c : Char) : Prop := 0x21 ≤ c.toNat ∧ c.toNat ≤ 0x7E

/-- No visible character is white space. -/
theorem Visible.not_isBlank {c : Char} (h : Visible c) : ¬ isBlank c := by
  obtain ⟨hlow, hhigh⟩ := h
  intro hblank
  simp only [isBlank, Bool.or_eq_true, Bool.and_eq_true, decide_eq_true_eq, beq_iff_eq] at hblank
  omega

/-- White space comes off the front of a text, and nothing else does. -/
theorem dropWhile_blank_append {front rest : List Char} (hfront : Blank front)
    (hrest : ∀ c ∈ rest.head?, ¬ isBlank c) : (front ++ rest).dropWhile isBlank = rest := by
  rw [List.dropWhile_append, if_pos]
  · cases rest with
    | nil => rfl
    | cons c rest => exact List.dropWhile_cons_of_neg (hrest c rfl)
  · rw [List.isEmpty_iff, List.dropWhile_eq_nil_iff]
    exact hfront

theorem head?_dropWhile_blank (text : List Char) :
    ∀ c ∈ (text.dropWhile isBlank).head?, ¬ isBlank c := by
  intro c hc
  have h := List.head?_dropWhile_not isBlank text
  rw [Option.mem_def.mp hc] at h
  exact Bool.eq_false_iff.mp h

/-- What is left of a text stands between white space. -/
theorem exists_split_trim (text : List Char) :
    ∃ front back, Blank front ∧ Blank back ∧ text = front ++ trim text ++ back ∧
      text.dropWhile isBlank = trim text ++ back := by
  let rest := text.dropWhile isBlank
  have hrest : rest = trim text ++ (rest.reverse.takeWhile isBlank).reverse := by
    show _ = (rest.reverse.dropWhile isBlank).reverse ++ _
    rw [← List.reverse_append, List.takeWhile_append_dropWhile, List.reverse_reverse]
  refine ⟨text.takeWhile isBlank, _, fun c hc => List.mem_takeWhile_imp hc,
    fun c hc => List.mem_takeWhile_imp (List.mem_reverse.mp hc), ?_, hrest⟩
  rw [List.append_assoc, ← hrest, List.takeWhile_append_dropWhile]

theorem trimmed_trim (text : List Char) : Trimmed (trim text) where
  head c hc := by
    obtain ⟨-, back, -, -, -, hrest⟩ := exists_split_trim text
    refine head?_dropWhile_blank text c ?_
    rw [hrest, List.head?_append, Option.mem_def.mp hc]
    rfl
  last c hc := by
    refine head?_dropWhile_blank (text.dropWhile isBlank).reverse c ?_
    rw [← List.getLast?_reverse]
    exact hc

/-- **What is left of a text** is what stands between its white space and has none at its ends. -/
theorem trim_eq_iff {text inner : List Char} :
    trim text = inner ↔ Trimmed inner ∧
      ∃ front back, Blank front ∧ Blank back ∧ text = front ++ inner ++ back := by
  constructor
  · rintro rfl
    obtain ⟨front, back, hfront, hback, htext, -⟩ := exists_split_trim text
    exact ⟨trimmed_trim text, front, back, hfront, hback, htext⟩
  · rintro ⟨hinner, front, back, hfront, hback, rfl⟩
    have hblank : Blank back.reverse := fun c hc => hback c (List.mem_reverse.mp hc)
    have hlast : ∀ c ∈ inner.reverse.head?, ¬ isBlank c := by
      rw [List.head?_reverse]
      exact hinner.last
    unfold trim
    by_cases hnil : inner = []
    · subst hnil
      have hall : Blank (front ++ [] ++ back) := by
        intro c hc
        rw [List.append_nil, List.mem_append] at hc
        exact hc.elim (hfront c) (hback c)
      rw [List.dropWhile_eq_nil_iff.mpr hall]
      rfl
    · have hhead : ∀ c ∈ (inner ++ back).head?, ¬ isBlank c := by
        rw [List.head?_append_of_ne_nil _ hnil]
        exact hinner.head
      rw [List.append_assoc, dropWhile_blank_append hfront hhead, List.reverse_append,
        dropWhile_blank_append hblank hlast, List.reverse_reverse]

/-- White space behind a text is not left of it. -/
theorem trim_append_blank (text : List Char) {back : List Char} (h : Blank back) :
    trim (text ++ back) = trim text := by
  obtain ⟨front, back', hfront, hback, htext, -⟩ := exists_split_trim text
  refine trim_eq_iff.mpr ⟨trimmed_trim text, front, back' ++ back, hfront, ?_, ?_⟩
  · intro c hc
    exact (List.mem_append.mp hc).elim (hback c) (h c)
  · rw [← List.append_assoc, ← htext]

end Text

/-! ## 3. Decimal numerals -/

namespace Numeral

/-- What a decimal digit stands for. -/
def digit (c : Char) : Nat := c.toNat - '0'.toNat

/-- **One or more decimal digits of a value.** -/
structure Decimal (text : List Char) (n : Nat) : Prop where
  nonempty : text ≠ []
  digits : ∀ c ∈ text, c.isDigit
  value : Nat.ofDigits 10 (text.reverse.map digit) = n

theorem isDigit_iff {c : Char} : c.isDigit ↔ '0' ≤ c ∧ c ≤ '9' := by
  simp [Char.isDigit, Char.le_def]

theorem digitValue_of_isDigit {c : Char} (h : c.isDigit) : digitValue c = some (digit c) :=
  if_pos (isDigit_iff.mp h)

/-- **The digits of base ten** are the decimal digits. -/
theorem isDigitOf_ten (c : Char) : isDigitOf 10 c = c.isDigit := by
  rw [Bool.eq_iff_iff]
  unfold isDigitOf
  by_cases hc : c.isDigit
  · have hle : c.toNat ≤ 57 := (isDigit_iff.mp hc).2
    have hlt : c.toNat - 48 < 10 := by omega
    rw [digitValue_of_isDigit hc]
    exact ⟨fun _ => hc, fun _ => decide_eq_true hlt⟩
  · -- a letter stands for ten or more
    have hne : ¬ ∃ d, digitValue c = some d ∧ d < 10 := by
      rintro ⟨d, hd, hlt⟩
      unfold digitValue at hd
      rw [if_neg (mt isDigit_iff.mpr hc)] at hd
      split at hd
      · next hletter =>
        have hle : 97 ≤ c.toNat := hletter.1
        rw [Option.some.injEq] at hd
        omega
      · split at hd
        · next hletter =>
          have hle : 65 ≤ c.toNat := hletter.1
          rw [Option.some.injEq] at hd
          omega
        · cases hd
    cases hd : digitValue c with
    | none => simp [hc]
    | some d =>
      have hge : ¬ d < 10 := fun hlt => hne ⟨d, hd, hlt⟩
      simp [hc, hge]

theorem valueOf_concat (base : Nat) (text : List Char) (c : Char) :
    valueOf base (text ++ [c]) = valueOf base text * base + (digitValue c).getD 0 :=
  List.foldl_append

/-- **The value of decimal digits** is what they stand for in base ten. -/
theorem valueOf_ten {text : List Char} (h : ∀ c ∈ text, c.isDigit) :
    valueOf 10 text = Nat.ofDigits 10 (text.reverse.map digit) := by
  induction text using List.reverseRecOn with
  | nil => rfl
  | append_singleton text c ih =>
    have hc : c.isDigit := h c (List.mem_append_right _ (List.mem_singleton_self c))
    have htext : ∀ c ∈ text, c.isDigit := fun c hc => h c (List.mem_append_left _ hc)
    rw [valueOf_concat, digitValue_of_isDigit hc, ih htext, List.reverse_append,
      List.reverse_singleton, List.singleton_append, List.map_cons, Nat.ofDigits_cons]
    show _ * 10 + digit c = _
    omega

theorem digits?_eq_some_iff {text : List Char} {n : Nat} :
    digits? text = some n ↔ Decimal text n := by
  have hall : text.all (isDigitOf 10) = true ↔ ∀ c ∈ text, c.isDigit := by
    simp only [List.all_eq_true, isDigitOf_ten]
  unfold digits?
  constructor
  · intro h
    split at h
    · next hcond =>
      rw [Bool.and_eq_true, hall] at hcond
      obtain ⟨hne, hdigits⟩ := hcond
      rw [Option.some.injEq, valueOf_ten hdigits] at h
      exact ⟨by simpa using hne, hdigits, h⟩
    · cases h
  · rintro ⟨hne, hdigits, hvalue⟩
    rw [if_pos, valueOf_ten hdigits, hvalue]
    rw [Bool.and_eq_true, hall]
    exact ⟨by simpa using hne, hdigits⟩

/-- A plus, or nothing. -/
def OptionalPlus (sign : List Char) : Prop := sign = [] ∨ sign = ['+']

/-- A numeral is visible throughout. -/
theorem visible_of_mem {sign digits : List Char} {n : Nat} (hsign : OptionalPlus sign)
    (hdigits : Decimal digits n) : ∀ c ∈ sign ++ digits, Text.Visible c := by
  intro c hc
  rcases List.mem_append.mp hc with hc | hc
  · rcases hsign with rfl | rfl
    · cases hc
    · rw [List.mem_singleton.mp hc]
      exact ⟨by decide, by decide⟩
  · obtain ⟨hlow, hhigh⟩ := isDigit_iff.mp (hdigits.digits c hc)
    exact ⟨Nat.le_trans (by decide) (show 48 ≤ c.toNat from hlow),
      Nat.le_trans (show c.toNat ≤ 57 from hhigh) (by decide)⟩

/-- **A numeral without sign or with a plus**, of a value that is not too great. -/
theorem unsigned?_eq_some_iff {max : Nat} {text : List Char} {n : Nat} :
    unsigned? max text = some n ↔
      n ≤ max ∧ ∃ sign digits, OptionalPlus sign ∧ Decimal digits n ∧ text = sign ++ digits := by
  have hplus : ¬ ('+' : Char).isDigit := by decide
  unfold unsigned?
  rw [Option.filter_eq_some_iff, digits?_eq_some_iff, decide_eq_true_eq, and_comm]
  refine and_congr_right fun _ => ?_
  constructor
  · intro h
    split at h
    · exact ⟨['+'], _, Or.inr rfl, h, rfl⟩
    · exact ⟨[], _, Or.inl rfl, h, rfl⟩
  · rintro ⟨sign, digits, hsign, hdigits, rfl⟩
    rcases hsign with rfl | rfl
    · rw [List.nil_append]
      split
      · exact absurd (hdigits.digits _ List.mem_cons_self) hplus
      · exact hdigits
    · exact hdigits

/-! ## 4. Numbers as they are written -/

/-- The library's reading of decimal digits is the one of numerals. -/
theorem valueOf_ten_eq_ofDigitChars {text : List Char} (h : ∀ c ∈ text, c.isDigit) :
    valueOf 10 text = Nat.ofDigitChars 10 text 0 := by
  rw [Nat.ofDigitChars_eq_foldl]
  refine List.foldl_ext _ _ 0 fun n c hc => ?_
  rw [digitValue_of_isDigit (h c hc), Option.getD_some, Nat.mul_comm]
  rfl

/-- **A number is written in decimal digits of its value.** -/
theorem decimal_toString (n : Nat) : Decimal (toString n).toList n := by
  have hdigits : ∀ c ∈ Nat.toDigits 10 n, c.isDigit :=
    fun c hc => Nat.isDigit_of_mem_toDigits (by decide) (by decide) hc
  rw [Nat.toString_eq_ofList_toDigits, String.toList_ofList]
  refine ⟨Nat.toDigits_ne_nil, hdigits, ?_⟩
  rw [← valueOf_ten hdigits, valueOf_ten_eq_ofDigitChars hdigits, Nat.ofDigitChars_ten_toDigits]

/-- A number that is not too great is read as it is written. -/
theorem unsigned?_toString {max n : Nat} (h : n ≤ max) :
    unsigned? max (toString n).toList = some n :=
  unsigned?_eq_some_iff.mpr ⟨h, [], _, Or.inl rfl, decimal_toString n, rfl⟩

/-- Decimal digits are digits alone. -/
theorem Decimal.not_mem {text : List Char} {n : Nat} (h : Decimal text n) {c : Char}
    (hc : ¬ c.isDigit) : c ∉ text :=
  fun hmem => hc (h.digits c hmem)

end Numeral

end TrafficRouter
