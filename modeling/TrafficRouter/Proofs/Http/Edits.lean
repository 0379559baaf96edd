import TrafficRouter.Proofs.Http.Framing

/-!
# Buffers that are filled and cut

A message buffer is filled in pieces, refuses a piece that does not fit, and may be cut. It keeps
the offset at which it saw the header block end, and looks for that only in new bytes and the three
before them. As long as no cut goes below the offset that it keeps, it is at every moment the buffer
that gets its bytes at once, so whatever is read of it depends on the bytes alone.

* `BufferEdit`, `MessageBuffer.edited`: what is done to a buffer, and the buffer after it;
* `MessageBuffer.SparesHead`: no cut goes below where the body begins, once that is known;
* `edit_whole`, `edited_whole`: an edit of a buffer that was filled at once, and then any number of
  them;
* `filled_as_if_at_once`: what holds of the buffer at every moment.

NOT here: what is read of a buffer that was cut below that offset (`CutBelow`).
-/

namespace TrafficRouter.Http

/-! ## 1. Edits -/

/-- What is done to a message buffer. -/
inductive BufferEdit where
  | extend (chunk : Bytes)
  | truncate (length : Nat)
  deriving DecidableEq, Repr

/-- What an edit leaves of bytes of which there may be `limit`. A chunk that does not fit is left
out as a whole. -/
def BufferEdit.apply (limit : Nat) (bytes : Bytes) : BufferEdit → Bytes
  | .extend chunk => if limit < bytes.length + chunk.length then bytes else bytes ++ chunk
  | .truncate length => bytes.take length

/-- The terminator of the header block is there at an offset. -/
def TerminatorAt (bytes : Bytes) (n : Nat) : Prop := headerTerminator <+: bytes.drop n

instance (bytes : Bytes) (n : Nat) : Decidable (TerminatorAt bytes n) :=
  inferInstanceAs (Decidable (headerTerminator <+: bytes.drop n))

/-- Past the end of the bytes there is no terminator. -/
theorem TerminatorAt.lt_length {bytes : Bytes} {n : Nat} (h : TerminatorAt bytes n) :
    n < bytes.length := by
  have hle := h.length_le
  rw [List.length_drop, length_headerTerminator] at hle
  omega

namespace MessageBuffer

/-- The buffer after an edit. When it refuses a chunk it is as it was. -/
def edit (b : MessageBuffer) : BufferEdit → MessageBuffer
  | .extend chunk =>
    match b.extend chunk with
    | .ok b' => b'
    | .error _ => b
  | .truncate length => b.truncate length

/-- The buffer after edits. -/
def edited (b : MessageBuffer) (edits : List BufferEdit) : MessageBuffer := edits.foldl edit b

/-- The edit does not cut below where the body begins, if that is known. -/
def Spares (b : MessageBuffer) : BufferEdit → Prop
  | .extend _ => True
  | .truncate length => ∀ start ∈ b.bodyStart, start ≤ length

/-- **No edit cuts below where the body begins**, as that is known when the edit is made. -/
def SparesHead : MessageBuffer → List BufferEdit → Prop
  | _, [] => True
  | b, e :: edits => b.Spares e ∧ (b.edit e).SparesHead edits

instance (b : MessageBuffer) : DecidablePred b.Spares
  | .extend _ => inferInstanceAs (Decidable True)
  | .truncate length => inferInstanceAs (Decidable (∀ start ∈ b.bodyStart, start ≤ length))

instance decidableSparesHead : ∀ (b : MessageBuffer) (edits : List BufferEdit),
    Decidable (b.SparesHead edits)
  | _, [] => inferInstanceAs (Decidable True)
  | b, e :: edits =>
    have := decidableSparesHead (b.edit e) edits
    inferInstanceAs (Decidable (b.Spares e ∧ (b.edit e).SparesHead edits))

/-! ## 2. Edits of a buffer that was filled at once -/

/-- A cut that keeps the head, or is made before the head was seen to end, leaves the offset that
would be found in what is left. -/
theorem truncate_whole {limit : Nat} {bytes : Bytes} {length : Nat}
    (h : (whole limit bytes).Spares (.truncate length)) :
    (whole limit bytes).truncate length = whole limit (bytes.take length) := by
  have hfind : find headerTerminator bytes = find headerTerminator (bytes.take length) := by
    cases hf : find headerTerminator bytes with
    | none => rw [find_front_of_none hf (List.take_prefix _ _)]
    | some n =>
      have hstart : n + headerTerminator.length ≤ length :=
        h _ (congrArg (Option.map (· + headerTerminator.length)) hf)
      have hend := find_add_length_le hf
      refine (find_front hf (by decide) (List.take_prefix _ _) ?_).symm
      rw [List.length_take]
      omega
  show MessageBuffer.mk limit (bytes.take length) (find headerTerminator bytes) = _
  rw [hfind]
  rfl

/-- **An edit of a buffer that was filled at once** gives one again. -/
theorem edit_whole {limit : Nat} {bytes : Bytes} {e : BufferEdit}
    (h : (whole limit bytes).Spares e) :
    (whole limit bytes).edit e = whole limit (e.apply limit bytes) := by
  cases e with
  | extend chunk =>
    simp only [edit, BufferEdit.apply]
    rw [extend_whole, List.length_append]
    by_cases hfit : limit < bytes.length + chunk.length
    · rw [if_pos hfit, if_pos hfit]
    · rw [if_neg hfit, if_neg hfit]
  | truncate length => exact truncate_whole h

/-- An edit keeps the limit. -/
theorem length_apply_le {limit : Nat} {bytes : Bytes} (h : bytes.length ≤ limit) (e : BufferEdit) :
    (e.apply limit bytes).length ≤ limit := by
  cases e with
  | extend chunk =>
    simp only [BufferEdit.apply]
    by_cases hfit : limit < bytes.length + chunk.length
    · rw [if_pos hfit]
      exact h
    · rw [if_neg hfit, List.length_append]
      omega
  | truncate length => exact Nat.le_trans (List.length_take_le' _ _) h

/-- **Edits of a buffer that was filled at once** give one again, within the limit. -/
theorem edited_whole {limit : Nat} {edits : List BufferEdit} {bytes : Bytes}
    (hfits : bytes.length ≤ limit) (h : (whole limit bytes).SparesHead edits) :
    (whole limit bytes).edited edits =
        whole limit (edits.foldl (BufferEdit.apply limit) bytes) ∧
      (edits.foldl (BufferEdit.apply limit) bytes).length ≤ limit := by
  induction edits generalizing bytes with
  | nil => exact ⟨rfl, hfits⟩
  | cons e edits ih =>
    obtain ⟨he, hedits⟩ := h
    rw [edit_whole he] at hedits
    show ((whole limit bytes).edit e).edited edits = _ ∧ _
    rw [edit_whole he]
    exact ih (length_apply_le hfits e) hedits

/-! ## 3. What the buffer stands for -/

/-- **A buffer stands for the bytes it holds**: what it keeps is what its bytes say, it refuses
exactly what is too much for it, and it can be read as the buffer that gets the same bytes in one
piece. -/
structure Faithful (limit : Nat) (b : MessageBuffer) : Prop where
  fits : b.bytes.length ≤ limit
  absent : b.headerEnd = none ↔ ∀ i, ¬ TerminatorAt b.bytes i
  first : ∀ n, b.headerEnd = some n ↔
    TerminatorAt b.bytes n ∧ ∀ i < n, ¬ TerminatorAt b.bytes i
  refuses : ∀ chunk error, b.extend chunk = .error error ↔
    limit < b.bytes.length + chunk.length ∧ error = .tooLarge limit
  refused : ∀ chunk, limit < b.bytes.length + chunk.length → b.edit (.extend chunk) = b
  atOnce : ofInitial limit b.bytes = .ok b
  readable : b.readHead = .ok b.head ∧ b.readBody = .ok b.body ∧
    b.readContentLength = .ok b.contentLength ∧ b.readFraming = .ok b.framing

theorem whole_headerEnd_eq_none_iff {limit : Nat} {bytes : Bytes} :
    (whole limit bytes).headerEnd = none ↔ ∀ i, ¬ TerminatorAt bytes i :=
  find_eq_none_iff.trans
    ⟨fun h i hi => h i hi.lt_length hi, fun h i _ => h i⟩

theorem whole_headerEnd_eq_some_iff {limit : Nat} {bytes : Bytes} {n : Nat} :
    (whole limit bytes).headerEnd = some n ↔
      TerminatorAt bytes n ∧ ∀ i < n, ¬ TerminatorAt bytes i :=
  find_eq_some_iff.trans
    ⟨fun ⟨_, hn, hfirst⟩ => ⟨hn, hfirst⟩, fun ⟨hn, hfirst⟩ => ⟨hn.lt_length, hn, hfirst⟩⟩

/-- The offset that a buffer filled at once keeps lies within its bytes. -/
theorem bodyStart_whole_le {limit : Nat} {bytes : Bytes} {start : Nat}
    (h : (whole limit bytes).bodyStart = some start) : start ≤ bytes.length := by
  obtain ⟨n, hn, rfl⟩ := Option.map_eq_some_iff.mp h
  exact find_add_length_le hn

/-- What a buffer filled at once keeps can be read. -/
theorem readHead_whole (limit : Nat) (bytes : Bytes) :
    (whole limit bytes).readHead = .ok (whole limit bytes).head := by
  refine if_pos ?_
  rw [Option.all_eq_true]
  intro n hn
  have hle := find_add_length_le hn
  rw [length_headerTerminator] at hle
  exact decide_eq_true (show n ≤ bytes.length by omega)

theorem readBody_whole (limit : Nat) (bytes : Bytes) :
    (whole limit bytes).readBody = .ok (whole limit bytes).body := by
  refine if_pos ?_
  rw [Option.all_eq_true]
  exact fun start hstart => decide_eq_true (bodyStart_whole_le hstart)

theorem faithful_whole {limit : Nat} {bytes : Bytes} (hfits : bytes.length ≤ limit) :
    Faithful limit (whole limit bytes) where
  fits := hfits
  absent := whole_headerEnd_eq_none_iff
  first _ := whole_headerEnd_eq_some_iff
  refuses chunk error := by
    rw [extend_whole, List.length_append]
    show _ ↔ limit < bytes.length + chunk.length ∧ _
    by_cases hlt : limit < bytes.length + chunk.length
    · rw [if_pos hlt, Except.error.injEq]
      exact ⟨fun h => ⟨hlt, h.symm⟩, fun h => h.2.symm⟩
    · rw [if_neg hlt]
      constructor
      · rintro ⟨⟩
      · exact fun h => absurd h.1 hlt
  refused chunk hlt := by
    have hedit : (whole limit bytes).Spares (.extend chunk) := trivial
    rw [edit_whole hedit]
    exact congrArg (whole limit) (if_pos hlt)
  atOnce := (ofInitial_eq limit bytes).trans (if_neg (Nat.not_lt_of_le hfits))
  readable := by
    have hhead := readHead_whole limit bytes
    have hbody := readBody_whole limit bytes
    have hlength : (whole limit bytes).readContentLength =
        .ok (whole limit bytes).contentLength := by
      rw [readContentLength, hhead]
      rfl
    refine ⟨hhead, hbody, hlength, ?_⟩
    unfold readFraming
    rw [hlength, hbody]
    rcases (whole limit bytes).contentLength with error | none | declared <;> rfl

/-- **Filled in pieces, as if at once.** For every limit and every sequence of edits from the empty
buffer, of which none cuts below where the body begins once that is known: the buffer holds what the
edits leave of the bytes, and stands for them. It is within the limit, the offset it keeps is the
least at which the header terminator occurs, a chunk is refused exactly if it is too much and the
buffer then is as it was, and it is the very buffer that gets its bytes in one piece, of which head,
body, declared length, framing and request line are read without a fault. -/
theorem filled_as_if_at_once (limit : Nat) (edits : List BufferEdit)
    (h : SparesHead { limit } edits) :
    let b := ({ limit } : MessageBuffer).edited edits
    b.bytes = edits.foldl (BufferEdit.apply limit) [] ∧ Faithful limit b := by
  intro b
  have hempty : (whole limit []).SparesHead edits := h
  obtain ⟨hb, hfits⟩ := edited_whole (Nat.zero_le limit) hempty
  have hwhole : b = whole limit (edits.foldl (BufferEdit.apply limit) []) := hb
  rw [hwhole]
  exact ⟨rfl, faithful_whole hfits⟩

/-- A terminator that comes in four pieces, one of them empty, behind a cut that takes away a
carriage return; then a chunk that does not fit, and a cut behind the head. -/
theorem filled_as_if_at_once_pieces :
    let edits : List BufferEdit :=
      [.extend (ascii "HEAD\r\n\r".toList), .truncate 6, .extend [13], .extend [],
        .extend (ascii "\nbody, ".toList), .extend [0], .truncate 12]
    let b := ({ limit := 14 } : MessageBuffer).edited edits
    SparesHead { limit := 14 } edits ∧ b.bytes = ascii "HEAD\r\n\r\nbody".toList ∧
      b.headerEnd = some 4 ∧ ofInitial 14 b.bytes = .ok b := by
  intro edits b
  have hspares : SparesHead { limit := 14 } edits := by decide +kernel
  obtain ⟨hbytes, hfaithful⟩ := filled_as_if_at_once 14 edits hspares
  have hcontent : edits.foldl (BufferEdit.apply 14) [] = ascii "HEAD\r\n\r\nbody".toList := by
    decide +kernel
  refine ⟨hspares, hbytes.trans hcontent, ?_, hfaithful.atOnce⟩
  rw [hfaithful.first, hbytes, hcontent]
  decide +kernel

/-- A cut below the offset that is kept leaves it behind. -/
example : ({ limit := 14 } : MessageBuffer).edited
    [.extend (ascii "HEAD\r\n\r\n".toList), .truncate 4] =
      { limit := 14, bytes := ascii "HEAD".toList, headerEnd := some 4 } := by
  decide +kernel

end MessageBuffer

end TrafficRouter.Http
