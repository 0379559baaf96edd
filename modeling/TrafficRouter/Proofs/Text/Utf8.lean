import Mathlib.Data.List.Induction
import TrafficRouter.Text.Utf8

/-!
# What bytes are read as

The decoder of UTF-8 against its encoder. Both readings of a byte sequence come from the pieces that
the decoder finds in it:

* `Begun`: the bytes of a begun character, for each place at which one can stand;
* `Fed.first_cases`, `Begun.next_cases`: a byte ends a piece, begins a character or continues it, and
  a character that it ends is spelled by the bytes since it began;
* `feed_encodeChar`: the bytes of a character are read as that character;
* `decode_eq_some_iff`: a text is decoded from its encoding and from nothing else;
* `decodeLossy_encode`, `encode_decodeLossy`: so is it where each ill-formed piece becomes U+FFFD, as
  long as that character is not in what was read;
* `decodeLossy_concat`: an ASCII byte at the end is a character of its own, whatever comes before;
* `mem_of_mem_encode`: an ASCII byte in an encoded text is a character of it.

NOT here: how long an ill-formed piece is.
-/

namespace TrafficRouter.Utf8

/-! ## 1. The bytes of one character -/

theorem encodeChar_one {c : Char} (h : c.toNat < 0x80) :
    String.utf8EncodeChar c = [UInt8.ofNat c.toNat] := if_pos (Nat.le_of_lt_succ h)

theorem encodeChar_two {c : Char} (h : 0x80 ≤ c.toNat) (h' : c.toNat < 0x800) :
    String.utf8EncodeChar c =
      [UInt8.ofNat (c.toNat / 64 % 32 + 0xC0), UInt8.ofNat (c.toNat % 64 + 0x80)] :=
  (if_neg (Nat.not_le_of_lt h)).trans (if_pos (Nat.le_of_lt_succ h'))

theorem encodeChar_three {c : Char} (h : 0x800 ≤ c.toNat) (h' : c.toNat < 0x10000) :
    String.utf8EncodeChar c =
      [UInt8.ofNat (c.toNat / 4096 % 16 + 0xE0), UInt8.ofNat (c.toNat / 64 % 64 + 0x80),
        UInt8.ofNat (c.toNat % 64 + 0x80)] :=
  (if_neg (show ¬ c.toNat ≤ 0x7F by omega)).trans <|
    (if_neg (Nat.not_le_of_lt h)).trans (if_pos (Nat.le_of_lt_succ h'))

theorem encodeChar_four {c : Char} (h : 0x10000 ≤ c.toNat) :
    String.utf8EncodeChar c =
      [UInt8.ofNat (c.toNat / 262144 % 8 + 0xF0), UInt8.ofNat (c.toNat / 4096 % 64 + 0x80),
        UInt8.ofNat (c.toNat / 64 % 64 + 0x80), UInt8.ofNat (c.toNat % 64 + 0x80)] :=
  (if_neg (show ¬ c.toNat ≤ 0x7F by omega)).trans <|
    (if_neg (show ¬ c.toNat ≤ 0x7FF by omega)).trans (if_neg (Nat.not_le_of_lt h))

/-- A byte is known by its value. -/
theorem ofNat_eq_of_eq_toNat {n : Nat} {b : UInt8} (h : n = b.toNat) : UInt8.ofNat n = b := by
  rw [h, UInt8.ofNat_toNat]

theorem toNat_char_ofNat {n : Nat} (h : n.isValidChar) : (Char.ofNat n).toNat = n := by
  rw [Char.ofNat, dif_pos h]
  show (UInt32.ofNatLT n _).toNat = n
  exact UInt32.toNat_ofNatLT ..

/-! ## 2. Begun characters -/

/-- Between what a second byte lies behind a first one of three. -/
def SecondOfThree (b c : UInt8) : Prop :=
  (if b.toNat = 0xE0 then 0xA0 else 0x80) ≤ c.toNat ∧
    c.toNat ≤ (if b.toNat = 0xED then 0x9F else 0xBF)

/-- Between what a second byte lies behind a first one of four. -/
def SecondOfFour (b c : UInt8) : Prop :=
  (if b.toNat = 0xF0 then 0x90 else 0x80) ≤ c.toNat ∧
    c.toNat ≤ (if b.toNat = 0xF4 then 0x8F else 0xBF)

/-- Between what any later byte lies. -/
def Continues (b : UInt8) : Prop := 0x80 ≤ b.toNat ∧ b.toNat ≤ 0xBF

/-- **The bytes of a begun character**, with what the decoder holds behind them: one byte of two, one
or two of three, one to three of four. -/
inductive Begun : Bytes → Pending → Prop where
  | two {b : UInt8} (h : 0xC2 ≤ b.toNat) (h' : b.toNat < 0xE0) :
      Begun [b] ⟨1, 0x80, 0xBF, b.toNat - 0xC0⟩
  | three {b : UInt8} (h : 0xE0 ≤ b.toNat) (h' : b.toNat < 0xF0) :
      Begun [b] ⟨2, if b.toNat = 0xE0 then 0xA0 else 0x80, if b.toNat = 0xED then 0x9F else 0xBF,
        b.toNat - 0xE0⟩
  | threeSecond {b c : UInt8} (h : 0xE0 ≤ b.toNat) (h' : b.toNat < 0xF0) (hc : SecondOfThree b c) :
      Begun [b, c] ⟨1, 0x80, 0xBF, (b.toNat - 0xE0) * 64 + (c.toNat - 0x80)⟩
  | four {b : UInt8} (h : 0xF0 ≤ b.toNat) (h' : b.toNat < 0xF5) :
      Begun [b] ⟨3, if b.toNat = 0xF0 then 0x90 else 0x80, if b.toNat = 0xF4 then 0x8F else 0xBF,
        b.toNat - 0xF0⟩
  | fourSecond {b c : UInt8} (h : 0xF0 ≤ b.toNat) (h' : b.toNat < 0xF5) (hc : SecondOfFour b c) :
      Begun [b, c] ⟨2, 0x80, 0xBF, (b.toNat - 0xF0) * 64 + (c.toNat - 0x80)⟩
  | fourThird {b c d : UInt8} (h : 0xF0 ≤ b.toNat) (h' : b.toNat < 0xF5) (hc : SecondOfFour b c)
      (hd : Continues d) :
      Begun [b, c, d]
        ⟨1, 0x80, 0xBF, ((b.toNat - 0xF0) * 64 + (c.toNat - 0x80)) * 64 + (d.toNat - 0x80)⟩

/-- No byte of a character's inside is an ASCII byte. -/
theorem Begun.le_low {bytes : Bytes} {p : Pending} (h : Begun bytes p) : 0x80 ≤ p.low := by
  cases h with
  | two | threeSecond | fourSecond | fourThird => exact Nat.le_refl _
  | three | four =>
    dsimp only
    split <;> decide

/-- Two bytes spell the character of their value. -/
theorem spelled_two {b c : UInt8} (h : 0xC2 ≤ b.toNat) (h' : b.toNat < 0xE0) (hc : Continues c) :
    String.utf8EncodeChar (Char.ofNat ((b.toNat - 0xC0) * 64 + (c.toNat - 0x80))) = [b, c] := by
  obtain ⟨hc, hc'⟩ := hc
  have hn := toNat_char_ofNat (n := (b.toNat - 0xC0) * 64 + (c.toNat - 0x80)) (Or.inl (by omega))
  rw [encodeChar_two (by omega) (by omega), hn, ofNat_eq_of_eq_toNat (b := b) (by omega),
    ofNat_eq_of_eq_toNat (b := c) (by omega)]

/-- Three bytes spell the character of their value, which the bounds of the second keep from being
overlong or a surrogate. -/
theorem spelled_three {b c d : UInt8} (h : 0xE0 ≤ b.toNat) (h' : b.toNat < 0xF0)
    (hc : SecondOfThree b c) (hd : Continues d) :
    String.utf8EncodeChar
        (Char.ofNat (((b.toNat - 0xE0) * 64 + (c.toNat - 0x80)) * 64 + (d.toNat - 0x80))) =
      [b, c, d] := by
  obtain ⟨hd, hd'⟩ := hd
  unfold SecondOfThree at hc
  have hlow : 0x80 ≤ c.toNat ∧ c.toNat ≤ 0xBF ∧ (b.toNat = 0xE0 → 0xA0 ≤ c.toNat) ∧
      (b.toNat = 0xED → c.toNat ≤ 0x9F) := by
    split at hc <;> split at hc <;> omega
  have hvalid : Nat.isValidChar
      (((b.toNat - 0xE0) * 64 + (c.toNat - 0x80)) * 64 + (d.toNat - 0x80)) := by
    unfold Nat.isValidChar
    omega
  have hn := toNat_char_ofNat hvalid
  rw [encodeChar_three (by omega) (by omega), hn, ofNat_eq_of_eq_toNat (b := b) (by omega),
    ofNat_eq_of_eq_toNat (b := c) (by omega), ofNat_eq_of_eq_toNat (b := d) (by omega)]

/-- Four bytes spell the character of their value, which the bounds of the second keep from being
overlong or too great. -/
theorem spelled_four {b c d e : UInt8} (h : 0xF0 ≤ b.toNat) (h' : b.toNat < 0xF5)
    (hc : SecondOfFour b c) (hd : Continues d) (he : Continues e) :
    String.utf8EncodeChar (Char.ofNat ((((b.toNat - 0xF0) * 64 + (c.toNat - 0x80)) * 64 +
        (d.toNat - 0x80)) * 64 + (e.toNat - 0x80))) = [b, c, d, e] := by
  obtain ⟨hd, hd'⟩ := hd
  obtain ⟨he, he'⟩ := he
  unfold SecondOfFour at hc
  have hlow : 0x80 ≤ c.toNat ∧ c.toNat ≤ 0xBF ∧ (b.toNat = 0xF0 → 0x90 ≤ c.toNat) ∧
      (b.toNat = 0xF4 → c.toNat ≤ 0x8F) := by
    split at hc <;> split at hc <;> omega
  have hvalid : Nat.isValidChar ((((b.toNat - 0xF0) * 64 + (c.toNat - 0x80)) * 64 +
      (d.toNat - 0x80)) * 64 + (e.toNat - 0x80)) := by
    unfold Nat.isValidChar
    omega
  have hn := toNat_char_ofNat hvalid
  rw [encodeChar_four (by omega), hn, ofNat_eq_of_eq_toNat (b := b) (by omega),
    ofNat_eq_of_eq_toNat (b := c) (by omega), ofNat_eq_of_eq_toNat (b := d) (by omega),
    ofNat_eq_of_eq_toNat (b := e) (by omega)]

theorem Fed.first_one {b : UInt8} (h : b.toNat < 0x80) :
    Fed.first b = .piece (some (Char.ofNat b.toNat)) := if_pos h

theorem Fed.first_two {b : UInt8} (h : 0xC2 ≤ b.toNat) (h' : b.toNat < 0xE0) :
    Fed.first b = .begun ⟨1, 0x80, 0xBF, b.toNat - 0xC0⟩ :=
  (if_neg (show ¬ b.toNat < 0x80 by omega)).trans <|
    (if_neg (Nat.not_lt_of_le h)).trans (if_pos h')

theorem Fed.first_three {b : UInt8} (h : 0xE0 ≤ b.toNat) (h' : b.toNat < 0xF0) :
    Fed.first b = .begun ⟨2, if b.toNat = 0xE0 then 0xA0 else 0x80,
      if b.toNat = 0xED then 0x9F else 0xBF, b.toNat - 0xE0⟩ :=
  (if_neg (show ¬ b.toNat < 0x80 by omega)).trans <|
    (if_neg (show ¬ b.toNat < 0xC2 by omega)).trans <|
    (if_neg (Nat.not_lt_of_le h)).trans (if_pos h')

theorem Fed.first_four {b : UInt8} (h : 0xF0 ≤ b.toNat) (h' : b.toNat < 0xF5) :
    Fed.first b = .begun ⟨3, if b.toNat = 0xF0 then 0x90 else 0x80,
      if b.toNat = 0xF4 then 0x8F else 0xBF, b.toNat - 0xF0⟩ :=
  (if_neg (show ¬ b.toNat < 0x80 by omega)).trans <|
    (if_neg (show ¬ b.toNat < 0xC2 by omega)).trans <|
    (if_neg (show ¬ b.toNat < 0xE0 by omega)).trans <|
    (if_neg (Nat.not_lt_of_le h)).trans (if_pos h')

/-- What can begin nothing: a byte of a character's inside, the first of an overlong form, and what
is too great. -/
theorem Fed.first_none {b : UInt8} (h : 0x80 ≤ b.toNat)
    (h' : b.toNat < 0xC2 ∨ 0xF5 ≤ b.toNat) : Fed.first b = .piece none := by
  simp only [Fed.first]
  rw [if_neg (by omega)]
  rcases h' with h' | h'
  · rw [if_pos h']
  · rw [if_neg (by omega), if_neg (by omega), if_neg (by omega), if_neg (by omega)]

/-- **A byte at the start of a piece** is a character, is ill-formed or begins a character. -/
theorem Fed.first_cases (b : UInt8) :
    (∃ c, Fed.first b = .piece (some c) ∧ String.utf8EncodeChar c = [b]) ∨
      Fed.first b = .piece none ∨ ∃ p, Fed.first b = .begun p ∧ Begun [b] p := by
  by_cases h1 : b.toNat < 0x80
  · have hn := toNat_char_ofNat (n := b.toNat) (Or.inl (by omega))
    refine Or.inl ⟨_, first_one h1, ?_⟩
    rw [encodeChar_one (by omega), hn, UInt8.ofNat_toNat]
  right
  by_cases h2 : b.toNat < 0xC2 ∨ 0xF5 ≤ b.toNat
  · exact Or.inl (first_none (Nat.le_of_not_lt h1) h2)
  right
  by_cases h3 : b.toNat < 0xE0
  · exact ⟨_, first_two (by omega) h3, .two (by omega) h3⟩
  by_cases h4 : b.toNat < 0xF0
  · exact ⟨_, first_three (by omega) h4, .three (by omega) h4⟩
  · exact ⟨_, first_four (by omega) (by omega), .four (by omega) (by omega)⟩

/-- A byte that fits as the last of a character. -/
theorem Fed.next_last {low high value : Nat} {b : UInt8} (h : low ≤ b.toNat ∧ b.toNat ≤ high) :
    Fed.next ⟨1, low, high, value⟩ b =
      some (.piece (some (Char.ofNat (value * 64 + (b.toNat - 0x80))))) := if_pos h

/-- A byte that fits in a character which owes `owed + 1` more behind it. -/
theorem Fed.next_inner {owed low high value : Nat} {b : UInt8}
    (h : low ≤ b.toNat ∧ b.toNat ≤ high) :
    Fed.next ⟨owed + 2, low, high, value⟩ b =
      some (.begun ⟨owed + 1, 0x80, 0xBF, value * 64 + (b.toNat - 0x80)⟩) :=
  (if_pos h).trans (if_neg (show ¬ owed + 2 ≤ 1 by omega))

/-- **A byte behind a begun character** does not fit, ends the character or continues it. -/
theorem Begun.next_cases {bytes : Bytes} {p : Pending} (h : Begun bytes p) (b : UInt8) :
    Fed.next p b = none ∨
      (∃ c, Fed.next p b = some (.piece (some c)) ∧ String.utf8EncodeChar c = bytes ++ [b]) ∨
      ∃ p', Fed.next p b = some (.begun p') ∧ Begun (bytes ++ [b]) p' := by
  by_cases hb : p.low ≤ b.toNat ∧ b.toNat ≤ p.high
  · right
    cases h with
    | two h h' => exact Or.inl ⟨_, Fed.next_last hb, spelled_two h h' hb⟩
    | threeSecond h h' hc => exact Or.inl ⟨_, Fed.next_last hb, spelled_three h h' hc hb⟩
    | fourThird h h' hc hd => exact Or.inl ⟨_, Fed.next_last hb, spelled_four h h' hc hd hb⟩
    | three h h' => exact Or.inr ⟨_, Fed.next_inner hb, .threeSecond h h' hb⟩
    | four h h' => exact Or.inr ⟨_, Fed.next_inner hb, .fourSecond h h' hb⟩
    | fourSecond h h' hc => exact Or.inr ⟨_, Fed.next_inner hb, .fourThird h h' hc hb⟩
  · exact Or.inl (if_neg hb)

/-! ## 3. Where the decoder stands -/

/-- If none of the pieces, the latest of which is first, is ill-formed then they spell the bytes. -/
def Spelled (bytes : Bytes) (pieces : List (Option Char)) : Prop :=
  (∀ piece ∈ pieces, piece.isSome) → encode (pieces.reverse.filterMap id) = bytes

theorem Spelled.some {front bytes : Bytes} {pieces : List (Option Char)} {c : Char}
    (h : Spelled front pieces) (hc : String.utf8EncodeChar c = bytes) :
    Spelled (front ++ bytes) (some c :: pieces) := by
  intro hall
  have hfront := h fun piece hp => hall piece (List.mem_cons_of_mem _ hp)
  rw [List.reverse_cons, List.filterMap_append, encode_append, hfront]
  simp [encode, hc]

theorem Spelled.none (bytes : Bytes) (pieces : List (Option Char)) :
    Spelled bytes (none :: pieces) := by
  intro hall
  cases hall _ List.mem_cons_self

/-- **Where the decoder stands behind some bytes**: between two pieces, or inside a character. -/
inductive Stands : Bytes → Decoder → Prop where
  | between {bytes : Bytes} {pieces : List (Option Char)} (h : Spelled bytes pieces) :
      Stands bytes ⟨pieces, none⟩
  | inside {front begun : Bytes} {pieces : List (Option Char)} {p : Pending}
      (h : Spelled front pieces) (hbegun : Begun begun p) :
      Stands (front ++ begun) ⟨pieces, some p⟩

theorem Stands.first {front : Bytes} {pieces : List (Option Char)} (h : Spelled front pieces)
    (b : UInt8) : Stands (front ++ [b]) (Decoder.take pieces (.first b)) := by
  rcases Fed.first_cases b with ⟨c, hb, hc⟩ | hb | ⟨p, hb, hp⟩ <;> rw [hb]
  · exact .between (h.some hc)
  · exact .between (.none _ _)
  · exact .inside h hp

theorem Stands.feed {bytes : Bytes} {d : Decoder} (h : Stands bytes d) (b : UInt8) :
    Stands (bytes ++ [b]) (d.feed b) := by
  cases h with
  | between h => exact .first h b
  | inside h hbegun =>
    simp only [Decoder.feed]
    rcases hbegun.next_cases b with hb | ⟨c, hb, hc⟩ | ⟨p', hb, hp⟩ <;> rw [hb]
    · exact .first (.none _ _) b
    · rw [List.append_assoc]
      exact .between (h.some hc)
    · rw [List.append_assoc]
      exact .inside h hp

/-- **Where the decoder stands behind any bytes.** -/
theorem stands (bytes : Bytes) : Stands bytes (bytes.foldl Decoder.feed {}) := by
  induction bytes using List.reverseRecOn with
  | nil => exact .between fun _ => rfl
  | append_singleton bytes b ih =>
    rw [List.foldl_append]
    exact ih.feed b

/-- **An ASCII byte at the end is a piece of its own.** -/
theorem pieces_concat (bytes : Bytes) {b : UInt8} (h : b.toNat < 0x80) :
    pieces (bytes ++ [b]) = pieces bytes ++ [some (Char.ofNat b.toNat)] := by
  unfold pieces
  rw [List.foldl_append]
  generalize hd : bytes.foldl Decoder.feed {} = d
  have hstands := stands bytes
  rw [hd] at hstands
  cases hstands with
  | between hspelled =>
    show Decoder.finish (Decoder.take _ (.first b)) = _
    rw [Fed.first_one h]
    simp [Decoder.take, Decoder.finish]
  | inside hspelled hbegun =>
    rename_i pieces p
    have hlow := hbegun.le_low
    have hb : Fed.next p b = none := if_neg (by omega)
    simp only [List.foldl_cons, List.foldl_nil, Decoder.feed, hb]
    rw [Fed.first_one h]
    simp [Decoder.take, Decoder.finish]

/-- **Pieces of which none is ill-formed spell the bytes.** -/
theorem encode_pieces {bytes : Bytes} (h : ∀ piece ∈ pieces bytes, piece.isSome) :
    encode ((pieces bytes).filterMap id) = bytes := by
  unfold pieces at h ⊢
  generalize hd : bytes.foldl Decoder.feed {} = d at h ⊢
  have hstands := stands bytes
  rw [hd] at hstands
  cases hstands with
  | between hspelled =>
    exact hspelled fun piece hp => h piece (List.mem_reverse.mpr hp)
  | inside hspelled hbegun =>
    cases h none (List.mem_reverse.mpr List.mem_cons_self)

/-! ## 4. The bytes of a character are read as that character -/

section

variable {pieces : List (Option Char)} {p : Pending} {b : UInt8}

theorem feed_first (h : Fed.first b = .begun p) :
    Decoder.feed ⟨pieces, none⟩ b = ⟨pieces, some p⟩ := by
  show Decoder.take pieces (.first b) = _
  rw [h]
  rfl

theorem feed_inner {owed low high value : Nat} (h : low ≤ b.toNat ∧ b.toNat ≤ high) :
    Decoder.feed ⟨pieces, some ⟨owed + 2, low, high, value⟩⟩ b =
      ⟨pieces, some ⟨owed + 1, 0x80, 0xBF, value * 64 + (b.toNat - 0x80)⟩⟩ := by
  simp only [Decoder.feed, Fed.next_inner h]
  rfl

theorem feed_last {low high value : Nat} (h : low ≤ b.toNat ∧ b.toNat ≤ high) :
    Decoder.feed ⟨pieces, some ⟨1, low, high, value⟩⟩ b =
      ⟨some (Char.ofNat (value * 64 + (b.toNat - 0x80))) :: pieces, none⟩ := by
  simp only [Decoder.feed, Fed.next_last h]
  rfl

end

theorem toNat_ofNat_of_lt {n : Nat} (h : n < 0x100) : (UInt8.ofNat n).toNat = n :=
  UInt8.toNat_ofNat_of_lt' h

/-- **The bytes of a character are one piece**, that character. -/
theorem feed_encodeChar (pieces : List (Option Char)) (c : Char) :
    (String.utf8EncodeChar c).foldl Decoder.feed ⟨pieces, none⟩ = ⟨some c :: pieces, none⟩ := by
  have hc := Char.ofNat_toNat c
  have hvalid : c.toNat < 0xD800 ∨ 0xDFFF < c.toNat ∧ c.toNat < 0x110000 := c.valid
  by_cases h1 : c.toNat < 0x80
  · rw [encodeChar_one h1]
    have hb := toNat_ofNat_of_lt (n := c.toNat) (by omega)
    show Decoder.take pieces (.first _) = _
    rw [Fed.first_one (by omega), hb, hc]
    rfl
  by_cases h2 : c.toNat < 0x800
  · rw [encodeChar_two (by omega) h2]
    have ha := toNat_ofNat_of_lt (n := c.toNat / 64 % 32 + 0xC0) (by omega)
    have hb := toNat_ofNat_of_lt (n := c.toNat % 64 + 0x80) (by omega)
    rw [List.foldl_cons, feed_first (Fed.first_two (by omega) (by omega)), List.foldl_cons,
      feed_last (by omega), List.foldl_nil, ha, hb]
    have hvalue : (c.toNat / 64 % 32 + 0xC0 - 0xC0) * 64 + (c.toNat % 64 + 0x80 - 0x80) =
        c.toNat := by
      omega
    rw [hvalue, hc]
  by_cases h3 : c.toNat < 0x10000
  · rw [encodeChar_three (by omega) h3]
    have ha := toNat_ofNat_of_lt (n := c.toNat / 4096 % 16 + 0xE0) (by omega)
    have hb := toNat_ofNat_of_lt (n := c.toNat / 64 % 64 + 0x80) (by omega)
    have hd := toNat_ofNat_of_lt (n := c.toNat % 64 + 0x80) (by omega)
    have hsecond : SecondOfThree (UInt8.ofNat (c.toNat / 4096 % 16 + 0xE0))
        (UInt8.ofNat (c.toNat / 64 % 64 + 0x80)) := by
      unfold SecondOfThree
      rw [ha, hb]
      constructor <;> split <;> omega
    rw [List.foldl_cons, feed_first (Fed.first_three (by omega) (by omega)), List.foldl_cons,
      feed_inner hsecond, List.foldl_cons, feed_last (by omega), List.foldl_nil, ha, hb, hd]
    have hvalue : ((c.toNat / 4096 % 16 + 0xE0 - 0xE0) * 64 +
        (c.toNat / 64 % 64 + 0x80 - 0x80)) * 64 + (c.toNat % 64 + 0x80 - 0x80) = c.toNat := by
      omega
    rw [hvalue, hc]
  · rw [encodeChar_four (by omega)]
    have ha := toNat_ofNat_of_lt (n := c.toNat / 262144 % 8 + 0xF0) (by omega)
    have hb := toNat_ofNat_of_lt (n := c.toNat / 4096 % 64 + 0x80) (by omega)
    have hd := toNat_ofNat_of_lt (n := c.toNat / 64 % 64 + 0x80) (by omega)
    have he := toNat_ofNat_of_lt (n := c.toNat % 64 + 0x80) (by omega)
    have hsecond : SecondOfFour (UInt8.ofNat (c.toNat / 262144 % 8 + 0xF0))
        (UInt8.ofNat (c.toNat / 4096 % 64 + 0x80)) := by
      unfold SecondOfFour
      rw [ha, hb]
      constructor <;> split <;> omega
    rw [List.foldl_cons, feed_first (Fed.first_four (by omega) (by omega)), List.foldl_cons,
      feed_inner hsecond, List.foldl_cons, feed_inner (by omega), List.foldl_cons,
      feed_last (by omega), List.foldl_nil, ha, hb, hd, he]
    have hvalue : (((c.toNat / 262144 % 8 + 0xF0 - 0xF0) * 64 +
        (c.toNat / 4096 % 64 + 0x80 - 0x80)) * 64 + (c.toNat / 64 % 64 + 0x80 - 0x80)) * 64 +
        (c.toNat % 64 + 0x80 - 0x80) = c.toNat := by
      omega
    rw [hvalue, hc]

theorem feed_encode (pieces : List (Option Char)) (text : List Char) :
    (encode text).foldl Decoder.feed ⟨pieces, none⟩ =
      ⟨(text.map some).reverse ++ pieces, none⟩ := by
  induction text generalizing pieces with
  | nil => rfl
  | cons c text ih =>
    show (String.utf8EncodeChar c ++ encode text).foldl _ _ = _
    rw [List.foldl_append, feed_encodeChar, ih]
    simp

/-- **The pieces of an encoded text are its characters.** -/
theorem pieces_encode (text : List Char) : pieces (encode text) = text.map some := by
  show Decoder.finish ((encode text).foldl Decoder.feed ⟨[], none⟩) = _
  rw [feed_encode]
  simp [Decoder.finish]

/-! ## 5. The two readings -/

/-- **A text is decoded from its encoding and from nothing else.** -/
theorem decode_eq_some_iff {bytes : Bytes} {text : List Char} :
    decode bytes = some text ↔ bytes = encode text := by
  simp only [decode]
  constructor
  · intro h
    split at h
    · next hall =>
      rw [Option.some.injEq] at h
      rw [← h]
      exact (encode_pieces (List.all_eq_true.mp hall)).symm
    · cases h
  · rintro rfl
    simp [pieces_encode]

theorem decodeLossy_encode (text : List Char) : decodeLossy (encode text) = text := by
  unfold decodeLossy
  rw [pieces_encode, List.map_map]
  exact List.map_id text

/-- **What is read without a replacement is what the bytes encode.** -/
theorem encode_decodeLossy {bytes : Bytes} (h : '\uFFFD' ∉ decodeLossy bytes) :
    encode (decodeLossy bytes) = bytes := by
  have hall : ∀ piece ∈ pieces bytes, piece.isSome := by
    intro piece hp
    cases piece with
    | some c => rfl
    | none => exact absurd (List.mem_map.mpr ⟨none, hp, rfl⟩) h
  have hmap : decodeLossy bytes = (pieces bytes).filterMap id := by
    unfold decodeLossy
    generalize pieces bytes = ps at hall
    induction ps with
    | nil => rfl
    | cons piece ps ih =>
      cases piece with
      | none => cases hall _ List.mem_cons_self
      | some c =>
        rw [List.map_cons, ih fun piece hp => hall piece (List.mem_cons_of_mem _ hp)]
        rfl
  rw [hmap]
  exact encode_pieces hall

/-- **An ASCII byte at the end is a character of its own**, whatever comes before it. -/
theorem decodeLossy_concat (bytes : Bytes) {b : UInt8} (h : b.toNat < 0x80) :
    decodeLossy (bytes ++ [b]) = decodeLossy bytes ++ [Char.ofNat b.toNat] := by
  unfold decodeLossy
  rw [pieces_concat bytes h, List.map_append]
  rfl

/-! ## 6. ASCII bytes of an encoded text -/

/-- An ASCII byte is one of a character alone that has its value. -/
theorem toNat_of_mem_encodeChar {c : Char} {b : UInt8} (hb : b.toNat < 0x80)
    (h : b ∈ String.utf8EncodeChar c) : c.toNat = b.toNat := by
  have hhigh : ∀ n, 0x80 ≤ n → n < 256 → b ≠ UInt8.ofNat n := by
    rintro n hlow hlt rfl
    rw [toNat_ofNat_of_lt hlt] at hb
    omega
  by_cases h1 : c.toNat < 0x80
  · rw [encodeChar_one h1, List.mem_singleton] at h
    rw [h, toNat_ofNat_of_lt (by omega)]
  -- a longer character has no byte below 0x80
  exfalso
  by_cases h2 : c.toNat < 0x800
  · rw [encodeChar_two (by omega) h2] at h
    simp only [List.mem_cons, List.not_mem_nil, or_false] at h
    rcases h with h | h <;> exact hhigh _ (by omega) (by omega) h
  by_cases h3 : c.toNat < 0x10000
  · rw [encodeChar_three (by omega) h3] at h
    simp only [List.mem_cons, List.not_mem_nil, or_false] at h
    rcases h with h | h | h <;> exact hhigh _ (by omega) (by omega) h
  · rw [encodeChar_four (by omega)] at h
    simp only [List.mem_cons, List.not_mem_nil, or_false] at h
    rcases h with h | h | h | h <;> exact hhigh _ (by omega) (by omega) h

/-- **An ASCII byte in an encoded text is a character of that text.** -/
theorem mem_of_mem_encode {text : List Char} {b : UInt8} (hb : b.toNat < 0x80)
    (h : b ∈ encode text) : Char.ofNat b.toNat ∈ text := by
  obtain ⟨c, hc, hmem⟩ := List.mem_flatMap.mp h
  rw [← toNat_of_mem_encodeChar hb hmem, Char.ofNat_toNat]
  exact hc

theorem not_mem_encode {text : List Char} {b : UInt8} (hb : b.toNat < 0x80)
    (h : Char.ofNat b.toNat ∉ text) : b ∉ encode text := fun hmem => h (mem_of_mem_encode hb hmem)

end TrafficRouter.Utf8
