import Mathlib.Data.List.TakeDrop
import TrafficRouter.Proofs.Http.Framing
import TrafficRouter.Proofs.Text.Numeral
import TrafficRouter.Proofs.Text.Utf8

/-!
# What a header block declares

The declared length of a message, by the bytes of its header block:

* `NamesLength`: a line whose name is Content-Length in any case, and the bytes behind its colon;
* `lineLength?`, `lengthIn?`: what one line declares, and what the lines of a text do, of which the
  first decides (`headContentLength_eq`);
* `LengthText`: the values that are a length, and `declaredLength_eq_ok_iff`, `declaredLength_of_not`:
  these are what is read as one, and any other is refused with its text;
* `content_length_grammar`: both together for a buffer whose head is there.

NOT here: which lines there are when the first one holds line feeds of its own (`FirstLine`).
-/

namespace TrafficRouter.Http

/-! ## 1. Header lines -/

/-- **A header line of the name Content-Length**, in capitals or not, with what stands behind its
first colon. -/
def NamesLength (line raw : Bytes) : Prop :=
  ∃ name, line = name ++ 58 :: raw ∧ 58 ∉ name ∧
    name.map lowerAscii = ascii "content-length".toList

/-- What a line of a header block declares, if its name is Content-Length. -/
def lineLength? (line : Bytes) : Option (Except MessageError Nat) :=
  match headerField (dropReturn line) with
  | some (name, value) => if isContentLengthName name then some (declaredLength value) else none
  | none => none

/-- What the first line with that name declares, of those behind the first line feed of a text. -/
def lengthIn? (text : Bytes) : Option (Except MessageError Nat) :=
  (text.splitOn 10).tail.findSome? lineLength?

/-- **The first line that declares a length decides**, of those behind the first line feed. -/
theorem headContentLength_eq (head : Bytes) :
    headContentLength head =
      match lengthIn? head with
      | none => .ok none
      | some declared => declared.map some := by
  unfold headContentLength headerLines lengthIn?
  rw [splitOn_eq]
  induction (head.splitOn 10).tail with
  | nil => rfl
  | cons line lines ih =>
    rw [List.map_cons, List.findSome?_cons, lineLength?]
    cases hfield : headerField (dropReturn line) with
    | none =>
      rw [List.filterMap_cons_none hfield]
      exact ih
    | some field =>
      obtain ⟨name, value⟩ := field
      rw [List.filterMap_cons_some hfield, List.find?_cons]
      by_cases hname : isContentLengthName name
      · simp [hname]
      · simp only [hname]
        exact ih

/-- **A header line is divided at its first colon.** -/
theorem headerField_eq_some_iff {line name value : Bytes} :
    headerField line = some (name, value) ↔ line = name ++ 58 :: value ∧ 58 ∉ name := by
  unfold headerField
  constructor
  · intro h
    split at h
    · next hspan =>
      simp only [Option.some.injEq, Prod.mk.injEq] at h
      obtain ⟨rfl, rfl⟩ := h
      obtain ⟨-, hname, hline⟩ := span_ne_eq_cons_iff.mp hspan
      exact ⟨hline, hname⟩
    · cases h
  · rintro ⟨rfl, hname⟩
    rw [span_ne_eq_cons_iff.mpr ⟨rfl, hname, rfl⟩]

theorem dropReturn_concat (line : Bytes) : dropReturn (line ++ [13]) = line := by
  unfold dropReturn
  rw [List.getLast?_concat, if_pos rfl, List.dropLast_concat]

theorem dropReturn_of_ne {line : Bytes} (h : line.getLast? ≠ some 13) : dropReturn line = line :=
  if_neg h

/-- A line is without a carriage return at its end, or stands before one. -/
theorem dropReturn_cases (line : Bytes) :
    dropReturn line = line ∨ line = dropReturn line ++ [13] := by
  by_cases h : line.getLast? = some 13
  · obtain ⟨front, rfl⟩ := List.getLast?_eq_some_iff.mp h
    rw [dropReturn_concat]
    exact Or.inr rfl
  · exact Or.inl (dropReturn_of_ne h)

/-- The carriage return at the end of a line is none of its colons. -/
theorem dropReturn_append_colon (name raw : Bytes) :
    dropReturn (name ++ 58 :: raw) = name ++ 58 :: dropReturn raw := by
  rcases List.eq_nil_or_concat raw with rfl | ⟨front, b, rfl⟩
  · refine dropReturn_of_ne ?_
    rw [List.getLast?_concat]
    decide
  · have hline : name ++ 58 :: (front ++ [b]) = (name ++ 58 :: front) ++ [b] := by simp
    rw [List.concat_eq_append, hline]
    by_cases hb : b = 13
    · rw [hb, dropReturn_concat, dropReturn_concat]
    · have hne : some b ≠ some 13 := fun h => hb (Option.some.inj h)
      rw [dropReturn_of_ne (by rwa [List.getLast?_concat]),
        dropReturn_of_ne (by rwa [List.getLast?_concat]), ← hline]

theorem isContentLengthName_iff {name : Bytes} :
    isContentLengthName name ↔ name.map lowerAscii = ascii "content-length".toList := beq_iff_eq

/-- **A line of that name declares what stands behind its colon**, without the carriage return. -/
theorem NamesLength.lineLength {line raw : Bytes} (h : NamesLength line raw) :
    lineLength? line = some (declaredLength (dropReturn raw)) := by
  obtain ⟨name, rfl, hcolon, hname⟩ := h
  have hfield : headerField (dropReturn (name ++ 58 :: raw)) = some (name, dropReturn raw) :=
    headerField_eq_some_iff.mpr ⟨dropReturn_append_colon name raw, hcolon⟩
  simp only [lineLength?, hfield, if_pos (isContentLengthName_iff.mpr hname)]

/-- **A line of no such name declares nothing.** -/
theorem lineLength?_eq_none_iff {line : Bytes} :
    lineLength? line = none ↔ ∀ raw, ¬ NamesLength line raw := by
  constructor
  · intro h raw hraw
    rw [hraw.lineLength] at h
    cases h
  · intro h
    unfold lineLength?
    cases hfield : headerField (dropReturn line) with
    | none => rfl
    | some field =>
      obtain ⟨name, value⟩ := field
      obtain ⟨hline, hcolon⟩ := headerField_eq_some_iff.mp hfield
      refine if_neg fun hname => ?_
      rcases dropReturn_cases line with hsame | hreturn
      · exact h value ⟨name, hsame.symm.trans hline, hcolon, isContentLengthName_iff.mp hname⟩
      · refine h (value ++ [13]) ⟨name, ?_, hcolon, isContentLengthName_iff.mp hname⟩
        rw [hreturn, hline]
        simp

/-! ## 2. Values that are a length -/

/-- **A value is a length**: a plus that may be missing and decimal digits of a value that fits in a
word of 64 bits, between white space, in UTF-8. -/
structure LengthText (value : Bytes) (n : Nat) : Prop where
  fits : n ≤ Numeral.maxWord64
  text : ∃ front sign digits back : List Char, Text.Blank front ∧ Text.Blank back ∧
    Numeral.OptionalPlus sign ∧ Numeral.Decimal digits n ∧
    value = Utf8.encode (front ++ (sign ++ digits) ++ back)

/-- The replacement of an ill-formed piece is neither white space nor visible. -/
theorem replacement_not_mem {front sign digits back : List Char} {n : Nat}
    (hfront : Text.Blank front) (hback : Text.Blank back) (hsign : Numeral.OptionalPlus sign)
    (hdigits : Numeral.Decimal digits n) : '\uFFFD' ∉ front ++ (sign ++ digits) ++ back := by
  have hblank : ¬ Text.isBlank '\uFFFD' := by decide
  have hvisible : ¬ Text.Visible '\uFFFD' := by
    rintro ⟨-, h⟩
    exact absurd h (by decide)
  intro h
  rcases List.mem_append.mp h with h | h
  · rcases List.mem_append.mp h with h | h
    · exact hblank (hfront _ h)
    · exact hvisible (Numeral.visible_of_mem hsign hdigits _ h)
  · exact hblank (hback _ h)

/-- **What is read as a length.** A value in which something is ill-formed is none, since what stands
in the place of that is neither a digit nor white space. -/
theorem declaredLength_eq_ok_iff {value : Bytes} {n : Nat} :
    declaredLength value = .ok n ↔ LengthText value n := by
  have hread : declaredLength value = .ok n ↔
      Numeral.unsigned? Numeral.maxWord64 (Text.trim (Utf8.decodeLossy value)) = some n := by
    simp only [declaredLength]
    split
    · next length h => rw [h, Except.ok.injEq, Option.some.injEq]
    · next h => simp [h]
  rw [hread, Numeral.unsigned?_eq_some_iff]
  constructor
  · rintro ⟨hfits, sign, digits, hsign, hdigits, htext⟩
    obtain ⟨-, front, back, hfront, hback, hvalue⟩ := Text.trim_eq_iff.mp htext
    refine ⟨hfits, front, sign, digits, back, hfront, hback, hsign, hdigits, ?_⟩
    have hmem := replacement_not_mem hfront hback hsign hdigits
    rw [← hvalue] at hmem ⊢
    exact (Utf8.encode_decodeLossy hmem).symm
  · rintro ⟨hfits, front, sign, digits, back, hfront, hback, hsign, hdigits, rfl⟩
    refine ⟨hfits, sign, digits, hsign, hdigits, ?_⟩
    rw [Utf8.decodeLossy_encode]
    have hvisible := Numeral.visible_of_mem hsign hdigits
    exact Text.trim_eq_iff.mpr ⟨.of_forall fun c hc => (hvisible c hc).not_isBlank,
      front, back, hfront, hback, rfl⟩

/-- **Any other value is refused with its text**, as far as it can be read, between its white space. -/
theorem declaredLength_of_not {value : Bytes} (h : ∀ n, ¬ LengthText value n) :
    declaredLength value =
      .error (.invalidContentLength (String.ofList (Text.trim (Utf8.decodeLossy value)))) := by
  cases hd : declaredLength value with
  | ok n => exact absurd (declaredLength_eq_ok_iff.mp hd) (h n)
  | error e =>
    simp only [declaredLength] at hd
    split at hd
    · cases hd
    · rw [← hd]

/-! ## 3. What a head declares -/

/-- A head without a line of that name declares nothing. -/
theorem headContentLength_eq_none_iff {head : Bytes} :
    headContentLength head = .ok none ↔
      ∀ line ∈ (head.splitOn 10).tail, ∀ raw, ¬ NamesLength line raw := by
  have hnone : lengthIn? head = none ↔
      ∀ line ∈ (head.splitOn 10).tail, ∀ raw, ¬ NamesLength line raw := by
    simp only [lengthIn?, List.findSome?_eq_none_iff, lineLength?_eq_none_iff]
  rw [headContentLength_eq, ← hnone]
  cases lengthIn? head with
  | none => simp
  | some declared => cases declared <;> simp [Except.map]

/-- The first line of that name decides, whatever comes behind it. -/
theorem headContentLength_of_first {head line raw : Bytes} {before after : List Bytes}
    (hlines : (head.splitOn 10).tail = before ++ line :: after) (hnames : NamesLength line raw)
    (hbefore : ∀ earlier ∈ before, ∀ raw, ¬ NamesLength earlier raw) :
    headContentLength head = (declaredLength (dropReturn raw)).map some := by
  have hnone : before.findSome? lineLength? = none :=
    List.findSome?_eq_none_iff.mpr fun earlier he =>
      lineLength?_eq_none_iff.mpr (hbefore earlier he)
  rw [headContentLength_eq, lengthIn?, hlines, List.findSome?_append, hnone, Option.none_or,
    List.findSome?_cons, hnames.lineLength]

/-- **What the header block of a message declares.** For every buffer whose head is there: it can be
read, and no length is declared exactly if no line behind the first line feed has the name
Content-Length, in capitals or not, before its first colon. Otherwise the first such line decides,
whatever comes behind it: with what stands behind its colon, a carriage return at the end taken off,
the declared length is `n` exactly if that is white space, a plus that may be missing, decimal digits
of the value `n` within 64 bits and white space, in UTF-8; any other value is refused with its text. -/
theorem content_length_grammar (b : MessageBuffer) (head : Bytes)
    (h : b.readHead = .ok (some head)) :
    let lines := (head.splitOn 10).tail
    b.readContentLength = .ok b.contentLength ∧
      (b.contentLength = .ok none ↔ ∀ line ∈ lines, ∀ raw, ¬ NamesLength line raw) ∧
      ∀ before line after raw, lines = before ++ line :: after → NamesLength line raw →
        (∀ earlier ∈ before, ∀ raw, ¬ NamesLength earlier raw) →
        let value := dropReturn raw
        (∀ n, b.contentLength = .ok (some n) ↔ LengthText value n) ∧
          ((∀ n, ¬ LengthText value n) → b.contentLength =
            .error (.invalidContentLength (String.ofList (Text.trim (Utf8.decodeLossy value))))) := by
  intro lines
  have hread : b.readContentLength = .ok b.contentLength := by
    rw [MessageBuffer.readContentLength, h]
    rfl
  have hlength : b.contentLength = headContentLength head := by
    have hhead : b.head = some head := by
      unfold MessageBuffer.readHead at h
      split at h
      · exact Except.ok.inj h
      · cases h
    unfold MessageBuffer.contentLength
    rw [hhead]
  refine ⟨hread, ?_, fun before line after raw hlines hnames hbefore => ?_⟩
  · rw [hlength]
    exact headContentLength_eq_none_iff
  · rw [hlength, headContentLength_of_first hlines hnames hbefore]
    refine ⟨fun n => ?_, fun hnot => ?_⟩
    · rw [← declaredLength_eq_ok_iff]
      cases declaredLength (dropReturn raw) <;> simp [Except.map]
    · rw [declaredLength_of_not hnot]
      rfl

/-- A head with two lines of that name, the first of them in capitals, with a plus, more zeros than
needed and white space about the digits. -/
def twoLengths : Bytes :=
  ascii "POST / HTTP/1.1\r\nHost: a\r\nCONTENT-length: \t+0042 \r\nContent-Length: 7".toList

theorem content_length_grammar_first :
    let b := MessageBuffer.whole 128 (twoLengths ++ headerTerminator)
    b.readHead = .ok (some twoLengths) ∧ b.contentLength = .ok (some 42) := by
  intro b
  have hhead : b.readHead = .ok (some twoLengths) := by decide +kernel
  have hlines : (twoLengths.splitOn 10).tail = [ascii "Host: a\r".toList] ++
      ascii "CONTENT-length: \t+0042 \r".toList :: [ascii "Content-Length: 7".toList] := by
    decide +kernel
  have hnames : NamesLength (ascii "CONTENT-length: \t+0042 \r".toList)
      (ascii " \t+0042 \r".toList) :=
    ⟨ascii "CONTENT-length".toList, by decide +kernel, by decide +kernel, by decide +kernel⟩
  have hbefore : ∀ earlier ∈ [ascii "Host: a\r".toList], ∀ raw, ¬ NamesLength earlier raw := by
    intro earlier he
    rw [List.mem_singleton.mp he, ← lineLength?_eq_none_iff]
    decide +kernel
  have hvalue : LengthText (dropReturn (ascii " \t+0042 \r".toList)) 42 :=
    ⟨by decide, [' ', '\t'], ['+'], ['0', '0', '4', '2'], [' '],
      by decide, by decide, Or.inr rfl, ⟨by decide, List.all_eq_true.mp rfl, by decide⟩,
      by decide +kernel⟩
  obtain ⟨-, -, hfirst⟩ := content_length_grammar b twoLengths hhead
  obtain ⟨hlength, -⟩ := hfirst _ _ _ _ hlines hnames hbefore
  exact ⟨hhead, (hlength 42).mpr hvalue⟩

/-- What is ill-formed makes a value no length, be it next to digits. -/
example : declaredLength [32, 52, 255, 13] =
    .error (.invalidContentLength (String.ofList ['4', '\uFFFD'])) := by
  decide +kernel

end TrafficRouter.Http
