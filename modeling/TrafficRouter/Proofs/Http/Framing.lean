import TrafficRouter.Http.Message

/-!
# The framing of a message as a whole

A message buffer is filled piece by piece and remembers where it has seen the header block end.
What it says of the message depends on the bytes alone and not on the pieces in which they came:

* `find_append_of_eq_some`, `find_append_of_eq_none`: where a marker occurs first when bytes are
  added, which is why the search may go on just before the old end;
* `find_front`, `find_front_of_lt`, `find_front_of_none`: where it occurs first in a beginning;
* `MessageBuffer.extend_whole`: a buffer that holds a message as if given at once (`whole`) still
  does after more bytes, or they do not fit;
* `framing_whole`: its framing is that of the bytes (`framingOf`), which no buffer is needed for;
* `Declares`, `DeclaresNone`, `DeclaresWrongly`, `Awaits`: what that framing says of head and body.

NOT here: buffers that are cut (`Proofs.Http.Edits`).
-/

namespace TrafficRouter

/-! ## 1. Where a marker occurs first when bytes are added -/

/-- An occurrence lies inside the text. -/
theorem find_add_length_le {marker text : Bytes} {n : Nat} (h : find marker text = some n) :
    n + marker.length ≤ text.length := by
  obtain ⟨hlt, hp, -⟩ := find_eq_some_iff.mp h
  have hle := hp.length_le
  rw [List.length_drop] at hle
  omega

/-- An occurrence in a longer text that ends in its first part is one in that part. -/
theorem prefix_drop_of_append {marker a c : Bytes} {i : Nat} (hi : i + marker.length ≤ a.length)
    (h : marker <+: (a ++ c).drop i) : marker <+: a.drop i := by
  rw [List.drop_append_of_le_length (by omega)] at h
  refine List.prefix_of_prefix_length_le h (List.prefix_append _ _) ?_
  rw [List.length_drop]
  omega

/-- **The first occurrence stays where it is** when bytes are added. -/
theorem find_append_of_eq_some {marker a : Bytes} {n : Nat} (h : find marker a = some n)
    (c : Bytes) : find marker (a ++ c) = some n := by
  have hle := find_add_length_le h
  obtain ⟨hlt, hp, hfirst⟩ := find_eq_some_iff.mp h
  refine find_eq_some_iff.mpr ⟨?_, ?_, fun i hi hpi => ?_⟩
  · rw [List.length_append]
    omega
  · rw [List.drop_append_of_le_length (by omega)]
    exact hp.trans (List.prefix_append _ _)
  · exact hfirst i hi (prefix_drop_of_append (by omega) hpi)

/-- Where no occurrence begins in the first `start` bytes, the search may begin behind them. -/
theorem find_eq_find_drop {marker text : Bytes} {start : Nat}
    (h : ∀ i < start, ¬ marker <+: text.drop i) :
    find marker text = (find marker (text.drop start)).map (start + ·) := by
  induction start generalizing text with
  | zero => simp
  | succ start ih =>
    cases text with
    | nil => simp
    | cons b rest =>
      have h0 : marker.isPrefixOf (b :: rest) = false := by
        refine Bool.eq_false_iff.mpr fun e => h 0 (Nat.succ_pos _) ?_
        exact List.isPrefixOf_iff_prefix.mp e
      have hrest : ∀ i < start, ¬ marker <+: rest.drop i :=
        fun i hi => h (i + 1) (by omega)
      rw [find_cons, h0, if_neg Bool.false_ne_true, ih hrest, List.drop_succ_cons, Option.map_map]
      congr 1
      funext i
      show start + i + 1 = start + 1 + i
      omega

/-- **An occurrence that comes with added bytes** begins at most one byte less than the marker
before the old end. -/
theorem find_append_of_eq_none {marker a : Bytes} (h : find marker a = none) (c : Bytes) :
    find marker (a ++ c) =
      (find marker ((a ++ c).drop (a.length - (marker.length - 1)))).map
        (a.length - (marker.length - 1) + ·) := by
  refine find_eq_find_drop fun i hi hp => ?_
  exact find_eq_none_iff.mp h i (by omega) (prefix_drop_of_append (by omega) hp)

/-- A text that holds a marker has a first occurrence of it. -/
theorem find_isSome_of_infix {marker text : Bytes} (hpos : 0 < marker.length)
    (h : marker <:+: text) : ∃ n, find marker text = some n := by
  cases hf : find marker text with
  | some n => exact ⟨n, rfl⟩
  | none =>
    obtain ⟨front, back, rfl⟩ := h
    refine absurd ?_ (find_eq_none_iff.mp hf front.length ?_)
    · rw [List.append_assoc, List.drop_left]
      exact List.prefix_append _ _
    · simp only [List.length_append]
      omega

/-- What comes before the first occurrence does not hold the marker. -/
theorem not_infix_take_of_find {marker text : Bytes} {n : Nat} (hpos : 0 < marker.length)
    (h : find marker text = some n) : ¬ marker <:+: text.take n := by
  intro hinfix
  obtain ⟨m, hm⟩ := find_isSome_of_infix hpos hinfix
  have hle := find_add_length_le hm
  have hsame := find_append_of_eq_some hm (text.drop n)
  rw [List.take_append_drop, h, Option.some.injEq] at hsame
  rw [List.length_take] at hle
  omega

/-! ## 2. Occurrences in a beginning -/

section

variable {marker text front : Bytes} {n : Nat}

/-- An occurrence that a beginning of the text holds is found there. -/
theorem find_front (h : find marker text = some n) (hm : 0 < marker.length)
    (hp : front <+: text) (hle : n + marker.length ≤ front.length) :
    find marker front = some n := by
  obtain ⟨rest, rfl⟩ := hp
  cases hf : find marker front with
  | some n' => rw [← find_append_of_eq_some hf rest, h]
  | none =>
    obtain ⟨-, hocc, -⟩ := find_eq_some_iff.mp h
    exact absurd (prefix_drop_of_append hle hocc) (find_eq_none_iff.mp hf n (by omega))

/-- A beginning of the text that is shorter than an occurrence has none. -/
theorem find_front_of_lt (h : find marker text = some n) (hp : front <+: text)
    (hlt : front.length < n + marker.length) : find marker front = none := by
  obtain ⟨rest, rfl⟩ := hp
  cases hf : find marker front with
  | none => rfl
  | some n' =>
    rw [find_append_of_eq_some hf rest, Option.some.injEq] at h
    have hle := find_add_length_le hf
    omega

/-- A beginning of a text without an occurrence has none. -/
theorem find_front_of_none (h : find marker text = none) (hp : front <+: text) :
    find marker front = none := by
  obtain ⟨rest, rfl⟩ := hp
  cases hf : find marker front with
  | none => rfl
  | some n =>
    rw [find_append_of_eq_some hf rest] at h
    cases h

/-- What comes before an occurrence is the same in a beginning that holds it. -/
theorem take_front (hp : front <+: text) (hle : n ≤ front.length) :
    front.take n = text.take n := by
  obtain ⟨rest, rfl⟩ := hp
  rw [List.take_append_of_le_length hle]

end

namespace Http

/-! ## 3. Buffers that hold a message as if given at once -/

@[simp] theorem length_headerTerminator : headerTerminator.length = 4 := rfl

namespace MessageBuffer

/-- The buffer that was given a message at once. -/
def whole (limit : Nat) (bytes : Bytes) : MessageBuffer where
  limit
  bytes
  headerEnd := find headerTerminator bytes

/-- **More bytes do not fit, or the buffer is as if given all at once.** -/
theorem extend_whole (limit : Nat) (bytes chunk : Bytes) :
    (whole limit bytes).extend chunk =
      if limit < (bytes ++ chunk).length then .error (.tooLarge limit)
      else .ok (whole limit (bytes ++ chunk)) := by
  rw [List.length_append]
  unfold extend whole
  by_cases hfit : limit < bytes.length + chunk.length
  · rw [if_pos hfit, if_pos hfit]
  · rw [if_neg hfit, if_neg hfit]
    cases h : find headerTerminator bytes with
    | none =>
      rw [find_append_of_eq_none h chunk]
      rfl
    | some n =>
      rw [find_append_of_eq_some h chunk]

/-- **A buffer that is filled in pieces** within its limit holds them as if given at once. -/
theorem extend_pieces {limit : Nat} {bytes : Bytes} (pieces : List Bytes)
    (h : (bytes ++ pieces.flatten).length ≤ limit) :
    pieces.foldlM extend (whole limit bytes) = .ok (whole limit (bytes ++ pieces.flatten)) := by
  induction pieces generalizing bytes with
  | nil =>
    rw [List.flatten_nil, List.append_nil]
    rfl
  | cons piece pieces ih =>
    rw [List.flatten_cons, ← List.append_assoc] at h ⊢
    have hfits : (bytes ++ piece).length ≤ limit := by
      rw [List.length_append] at h
      omega
    rw [List.foldlM_cons, extend_whole, if_neg (Nat.not_lt_of_le hfits)]
    exact ih h

/-- The buffer that a message begins with. -/
theorem ofInitial_eq (limit : Nat) (initial : Bytes) :
    ofInitial limit initial =
      if limit < initial.length then .error (.tooLarge limit) else .ok (whole limit initial) :=
  extend_whole limit [] initial

end MessageBuffer

/-! ## 4. The framing of bytes -/

/-- Where a message of the given bytes stands: its head ends at the first header terminator, and
what that declares says the rest. -/
def framingOf (bytes : Bytes) : Except MessageError Framing :=
  match find headerTerminator bytes with
  | none => .ok .awaitingHeaders
  | some e =>
    match headContentLength (bytes.take e) with
    | .error error => .error error
    | .ok none => .ok .unbounded
    | .ok (some n) =>
      if e + headerTerminator.length + n ≤ bytes.length then
        .ok (.complete (e + headerTerminator.length + n))
      else .ok (.awaitingBody (e + headerTerminator.length + n - bytes.length))

/-- **A buffer given at once says of the message what its bytes say.** -/
theorem framing_whole (limit : Nat) (bytes : Bytes) :
    (MessageBuffer.whole limit bytes).framing = framingOf bytes := by
  unfold MessageBuffer.framing framingOf MessageBuffer.bodyStart MessageBuffer.contentLength
    MessageBuffer.head MessageBuffer.whole
  cases h : find headerTerminator bytes with
  | none => rfl
  | some e =>
    have hle := find_add_length_le h
    simp only [Option.map_some]
    cases headContentLength (bytes.take e) with
    | error error => rfl
    | ok declared =>
      cases declared with
      | none => rfl
      | some n =>
        simp only
        by_cases hn : e + headerTerminator.length + n ≤ bytes.length
        · rw [if_pos hn, if_pos (by omega)]
        · rw [if_neg hn, if_neg (by omega)]
          congr 2
          omega

/-! ## 5. What the framing says -/

/-- The head is there, the body begins at `start`, and `n` bytes of it are declared. -/
def Declares (bytes : Bytes) (start n : Nat) : Prop :=
  ∃ e, find headerTerminator bytes = some e ∧ start = e + headerTerminator.length ∧
    headContentLength (bytes.take e) = .ok (some n)

/-- The head is there and declares no length. -/
def DeclaresNone (bytes : Bytes) : Prop :=
  ∃ e, find headerTerminator bytes = some e ∧ headContentLength (bytes.take e) = .ok none

/-- The head is there and what it declares is no length. -/
def DeclaresWrongly (bytes : Bytes) (error : MessageError) : Prop :=
  ∃ e, find headerTerminator bytes = some e ∧ headContentLength (bytes.take e) = .error error

/-- The head or a part of the declared body is missing. -/
def Awaits (bytes : Bytes) : Prop :=
  find headerTerminator bytes = none ∨ ∃ start n, Declares bytes start n ∧ bytes.length < start + n

theorem framingOf_eq_error_iff {bytes : Bytes} {error : MessageError} :
    framingOf bytes = .error error ↔ DeclaresWrongly bytes error := by
  unfold framingOf DeclaresWrongly
  cases hf : find headerTerminator bytes with
  | none => simp
  | some e =>
    cases hl : headContentLength (bytes.take e) with
    | error error' => simp [hl]
    | ok declared =>
      cases declared with
      | none => simp [hl]
      | some n =>
        simp only [Option.some.injEq, exists_eq_left', hl, reduceCtorEq, iff_false]
        split <;> simp

theorem framingOf_eq_unbounded_iff {bytes : Bytes} :
    framingOf bytes = .ok .unbounded ↔ DeclaresNone bytes := by
  unfold framingOf DeclaresNone
  cases hf : find headerTerminator bytes with
  | none => simp
  | some e =>
    cases hl : headContentLength (bytes.take e) with
    | error error => simp [hl]
    | ok declared =>
      cases declared with
      | none => simp [hl]
      | some n =>
        simp only [Option.some.injEq, exists_eq_left', hl, Except.ok.injEq, reduceCtorEq, iff_false]
        split <;> simp

theorem framingOf_eq_complete_iff {bytes : Bytes} {length : Nat} :
    framingOf bytes = .ok (.complete length) ↔
      ∃ start n, Declares bytes start n ∧ length = start + n ∧ start + n ≤ bytes.length := by
  unfold framingOf Declares
  cases hf : find headerTerminator bytes with
  | none => simp
  | some e =>
    cases hl : headContentLength (bytes.take e) with
    | error error => simp [hl]
    | ok declared =>
      cases declared with
      | none => simp [hl]
      | some n =>
        simp only [Option.some.injEq, hl]
        constructor
        · intro h
          split at h
          · next hle =>
            simp only [Except.ok.injEq, Framing.complete.injEq] at h
            exact ⟨_, n, ⟨e, rfl, rfl, hl⟩, h.symm, hle⟩
          · simp at h
        · rintro ⟨start, m, ⟨e', rfl, rfl, hm⟩, rfl, hle⟩
          rw [hl, Except.ok.injEq, Option.some.injEq] at hm
          subst hm
          rw [if_pos hle]

theorem framingOf_eq_awaitingBody_iff {bytes : Bytes} {remaining : Nat} :
    framingOf bytes = .ok (.awaitingBody remaining) ↔
      0 < remaining ∧ ∃ start n, Declares bytes start n ∧ start + n = bytes.length + remaining := by
  unfold framingOf Declares
  cases hf : find headerTerminator bytes with
  | none => simp
  | some e =>
    cases hl : headContentLength (bytes.take e) with
    | error error => simp [hl]
    | ok declared =>
      cases declared with
      | none => simp [hl]
      | some n =>
        simp only [Option.some.injEq, hl]
        constructor
        · intro h
          split at h
          · simp at h
          · next hlt =>
            simp only [Except.ok.injEq, Framing.awaitingBody.injEq] at h
            exact ⟨by omega, _, n, ⟨e, rfl, rfl, hl⟩, by omega⟩
        · rintro ⟨hpos, start, m, ⟨e', rfl, rfl, hm⟩, hsum⟩
          rw [hl, Except.ok.injEq, Option.some.injEq] at hm
          subst hm
          rw [if_neg (by omega)]
          congr 2
          omega

theorem framingOf_awaits_iff {bytes : Bytes} :
    (framingOf bytes = .ok .awaitingHeaders ∨ ∃ n, framingOf bytes = .ok (.awaitingBody n)) ↔
      Awaits bytes := by
  unfold framingOf Awaits Declares
  cases hf : find headerTerminator bytes with
  | none => simp
  | some e =>
    cases hl : headContentLength (bytes.take e) with
    | error error => simp [hl]
    | ok declared =>
      cases declared with
      | none => simp [hl]
      | some n =>
        simp only [Option.some.injEq, hl, reduceCtorEq, false_or]
        constructor
        · rintro (h | ⟨m, h⟩)
          · split at h <;> simp at h
          · split at h
            · simp at h
            · next hlt => exact ⟨_, n, ⟨e, rfl, rfl, hl⟩, by omega⟩
        · rintro ⟨start, m, ⟨e', rfl, rfl, hm⟩, hlt⟩
          rw [hl, Except.ok.injEq, Option.some.injEq] at hm
          subst hm
          right
          exact ⟨_, if_neg (by omega)⟩

/-- A head that is there is the same with more bytes behind. -/
theorem head_append {bytes : Bytes} {e : Nat} (he : find headerTerminator bytes = some e)
    (more : Bytes) :
    find headerTerminator (bytes ++ more) = some e ∧ (bytes ++ more).take e = bytes.take e := by
  have hle := find_add_length_le he
  exact ⟨find_append_of_eq_some he more, List.take_append_of_le_length (by omega)⟩

/-- A message that declares no length declares none with more bytes behind. -/
theorem DeclaresNone.append {bytes : Bytes} (h : DeclaresNone bytes) (more : Bytes) :
    DeclaresNone (bytes ++ more) := by
  obtain ⟨e, he, hnone⟩ := h
  obtain ⟨he', htake⟩ := head_append he more
  exact ⟨e, he', htake ▸ hnone⟩

theorem DeclaresWrongly.append {bytes : Bytes} {error : MessageError}
    (h : DeclaresWrongly bytes error) (more : Bytes) : DeclaresWrongly (bytes ++ more) error := by
  obtain ⟨e, he, herror⟩ := h
  obtain ⟨he', htake⟩ := head_append he more
  exact ⟨e, he', htake ▸ herror⟩

theorem Declares.append {bytes : Bytes} {start n : Nat} (h : Declares bytes start n)
    (more : Bytes) : Declares (bytes ++ more) start n := by
  obtain ⟨e, he, hstart, hdeclared⟩ := h
  obtain ⟨he', htake⟩ := head_append he more
  exact ⟨e, he', hstart, htake ▸ hdeclared⟩

/-- What a head declares, it declares in every beginning that holds it. -/
theorem Declares.front {bytes front : Bytes} {start n : Nat} (h : Declares bytes start n)
    (hp : front <+: bytes) (hle : start ≤ front.length) : Declares front start n := by
  obtain ⟨e, he, rfl, hdeclared⟩ := h
  refine ⟨e, find_front he (by decide) hp hle, rfl, ?_⟩
  rw [take_front hp (by omega)]
  exact hdeclared

/-- A beginning that is shorter than the message awaits the rest of it. -/
theorem Declares.awaits {bytes front : Bytes} {start n : Nat} (h : Declares bytes start n)
    (hp : front <+: bytes) (hlt : front.length < start + n) : Awaits front := by
  by_cases hle : start ≤ front.length
  · exact Or.inr ⟨start, n, h.front hp hle, hlt⟩
  · obtain ⟨e, he, rfl, -⟩ := h
    exact Or.inl (find_front_of_lt he hp (Nat.lt_of_not_le hle))

/-- A message without an end of its own has its head. -/
theorem DeclaresNone.length_pos {bytes : Bytes} (h : DeclaresNone bytes) : 0 < bytes.length := by
  obtain ⟨e, he, -⟩ := h
  have hle := find_add_length_le he
  rw [length_headerTerminator] at hle
  omega

/-- A body begins behind its head. -/
theorem Declares.start_pos {bytes : Bytes} {start n : Nat} (h : Declares bytes start n) :
    0 < start := by
  obtain ⟨e, -, rfl, -⟩ := h
  rw [length_headerTerminator]
  omega

/-- What a head declares is what the buffer says of it. -/
theorem Declares.observed {bytes : Bytes} {start n : Nat} (h : Declares bytes start n)
    (limit : Nat) :
    (MessageBuffer.whole limit bytes).bodyStart = some start ∧
      (MessageBuffer.whole limit bytes).contentLength = .ok (some n) := by
  obtain ⟨e, he, rfl, hdeclared⟩ := h
  unfold MessageBuffer.bodyStart MessageBuffer.contentLength MessageBuffer.head MessageBuffer.whole
  rw [he]
  exact ⟨rfl, hdeclared⟩

/-- The body is what comes behind the head. -/
theorem Declares.body {bytes : Bytes} {start n : Nat} (h : Declares bytes start n) (limit : Nat) :
    (MessageBuffer.whole limit bytes).body = bytes.drop start := by
  obtain ⟨hstart, -⟩ := h.observed limit
  unfold MessageBuffer.body
  rw [hstart]
  rfl

end Http

end TrafficRouter
