import TrafficRouter.Proofs.Http.ContentLength
import TrafficRouter.Proofs.Http.Edits
import TrafficRouter.Proofs.Words

/-!
# How a framing goes on

Once the head of a message is there, more bytes change its framing in one way only: the count of those
that are missing goes down, until the message is complete. From then on it stays so, with its length,
and a cut at that length leaves the whole message.

* `MessageBuffer.wordFraming?`: the framing with every sum and difference that has to be a word of 64
  bits and every slice that has to be in range; `wordFraming?_whole`: all of them are;
* `Continues`: how framing and request line go on with so many more bytes;
* `Readable`: what can be read of a buffer without a fault;
* `CutToFrame`: what a cut at the length of a complete message leaves;
* `framing_evolves`: the three for every buffer that is only extended.

NOT here: which reads bring the bytes (`Proofs.Gateway.Completion`).
-/

namespace TrafficRouter.Http

/-! ## 1. Words and slices -/

/-- So many bytes from the front, if there are so many. -/
def slice? (bytes : Bytes) (length : Nat) : Option Bytes :=
  if length ≤ bytes.length then some (bytes.take length) else none

/-- A head declares no more than a word of 64 bits. -/
theorem le_maxWord64_of_declared {head : Bytes} {n : Nat}
    (h : headContentLength head = .ok (some n)) : n ≤ Numeral.maxWord64 := by
  rw [headContentLength_eq] at h
  split at h
  · cases h
  · next declared hfirst =>
    obtain ⟨line, -, hline⟩ := List.exists_of_findSome?_eq_some hfirst
    cases declared with
    | error error => cases h
    | ok length =>
      obtain rfl : length = n := Option.some.inj (Except.ok.inj h)
      unfold lineLength? at hline
      split at hline
      · split at hline
        · exact (declaredLength_eq_ok_iff.mp (Option.some.inj hline)).fits
        · cases hline
      · cases hline

namespace MessageBuffer

/-- **The framing in words of 64 bits**, by the steps in which it is found, or none where a sum or a
difference is no such word or a slice goes past the end. -/
def wordFraming? (b : MessageBuffer) : Option (Except MessageError Framing) :=
  match b.headerEnd with
  | none => some (.ok .awaitingHeaders)
  | some e =>
    (sum64? e headerTerminator.length).bind fun start =>
    (slice? b.bytes e).bind fun head =>
    match headContentLength head with
    | .error error => some (.error error)
    | .ok none => some (.ok .unbounded)
    | .ok (some declared) =>
      (difference64? b.bytes.length start).bind fun received =>
      if declared ≤ received then
        (sum64? start declared).map fun length => .ok (.complete length)
      else (difference64? declared received).map fun remaining => .ok (.awaitingBody remaining)

/-- **No sum, difference or slice goes out of range**, as long as the bytes can be counted. A declared
length is added only where so many bytes are there. -/
theorem wordFraming?_whole {limit : Nat} {bytes : Bytes} (h : bytes.length ≤ Numeral.maxWord64) :
    (whole limit bytes).wordFraming? = some (whole limit bytes).framing := by
  unfold wordFraming? framing bodyStart contentLength head whole
  cases hf : find headerTerminator bytes with
  | none => rfl
  | some e =>
    have hle := find_add_length_le hf
    have hstart : sum64? e headerTerminator.length = some (e + headerTerminator.length) :=
      if_pos (Nat.le_trans hle h)
    have hslice : slice? bytes e = some (bytes.take e) := if_pos (by omega)
    simp only [hstart, hslice, Option.bind_some, Option.map_some]
    cases hl : headContentLength (bytes.take e) with
    | error error => rfl
    | ok declared =>
      cases declared with
      | none => rfl
      | some n =>
        have hreceived : difference64? bytes.length (e + headerTerminator.length) =
            some (bytes.length - (e + headerTerminator.length)) := if_pos hle
        simp only [hreceived, Option.bind_some]
        by_cases hn : n ≤ bytes.length - (e + headerTerminator.length)
        · have hlength : sum64? (e + headerTerminator.length) n =
              some (e + headerTerminator.length + n) := if_pos (by omega)
          rw [if_pos hn, if_pos hn, hlength]
          rfl
        · have hremaining : difference64? n (bytes.length - (e + headerTerminator.length)) =
              some (n - (bytes.length - (e + headerTerminator.length))) := if_pos (by omega)
          rw [if_neg hn, if_neg hn, hremaining]
          rfl

/-! ## 2. More bytes -/

/-- **How a buffer goes on with so many more bytes.** -/
structure Continues (b b' : MessageBuffer) (count : Nat) : Prop where
  complete : ∀ length, b.framing = .ok (.complete length) → b'.framing = .ok (.complete length)
  unbounded : b.framing = .ok .unbounded → b'.framing = .ok .unbounded
  invalid : ∀ error, b.framing = .error error → b'.framing = .error error
  awaiting : ∀ remaining, b.framing = .ok (.awaitingBody remaining) →
    ∃ start declared, b.bodyStart = some start ∧ b.contentLength = .ok (some declared) ∧
      b'.framing = .ok (if count < remaining then .awaitingBody (remaining - count)
        else .complete (start + declared))
  /-- Once there is a line end, the request line is what it is. -/
  requestLine : lineEnd <:+: b.bytes → b'.requestLine = b.requestLine

/-- The request line is that of the bytes that begin with it. -/
theorem requestLine_append {bytes : Bytes} (h : lineEnd <:+: bytes) (more : Bytes) (limit : Nat) :
    (whole limit (bytes ++ more)).requestLine = (whole limit bytes).requestLine := by
  obtain ⟨n, hn⟩ := find_isSome_of_infix (by decide) h
  have hle := find_add_length_le hn
  unfold requestLine whole
  simp only [find_append_of_eq_some hn more, hn]
  rw [List.take_append_of_le_length (by omega)]

/-- **How a buffer that was filled at once goes on.** -/
theorem continues_whole (limit : Nat) (bytes chunk : Bytes) :
    Continues (whole limit bytes) (whole limit (bytes ++ chunk)) chunk.length := by
  constructor
  · intro length h
    rw [framing_whole, framingOf_eq_complete_iff] at h ⊢
    obtain ⟨start, n, hdeclares, rfl, hle⟩ := h
    refine ⟨start, n, hdeclares.append chunk, rfl, ?_⟩
    rw [List.length_append]
    omega
  · intro h
    rw [framing_whole, framingOf_eq_unbounded_iff] at h ⊢
    exact h.append chunk
  · intro error h
    rw [framing_whole, framingOf_eq_error_iff] at h ⊢
    exact h.append chunk
  · intro remaining h
    rw [framing_whole, framingOf_eq_awaitingBody_iff] at h
    obtain ⟨hpos, start, n, hdeclares, hsum⟩ := h
    obtain ⟨hstart, hlength⟩ := hdeclares.observed limit
    refine ⟨start, n, hstart, hlength, ?_⟩
    have hmore := hdeclares.append chunk
    rw [framing_whole]
    by_cases hcount : chunk.length < remaining
    · rw [if_pos hcount, framingOf_eq_awaitingBody_iff]
      refine ⟨by omega, start, n, hmore, ?_⟩
      rw [List.length_append]
      omega
    · rw [if_neg hcount, framingOf_eq_complete_iff]
      refine ⟨start, n, hmore, rfl, ?_⟩
      rw [List.length_append]
      omega
  · exact fun h => requestLine_append h chunk limit

/-! ## 3. What can be read, and what a cut leaves -/

/-- **A buffer can be read** without a fault: its framing is found in words of 64 bits, and each part
of it lies within its bytes. -/
structure Readable (b : MessageBuffer) : Prop where
  inWords : b.wordFraming? = some b.framing
  head : b.readHead = .ok b.head
  body : b.readBody = .ok b.body
  contentLength : b.readContentLength = .ok b.contentLength
  framing : b.readFraming = .ok b.framing
  requestLine : ∀ n, find lineEnd b.bytes = some n → n ≤ b.bytes.length

theorem readable_whole {limit : Nat} {bytes : Bytes} (hfits : bytes.length ≤ limit)
    (hlimit : limit ≤ Numeral.maxWord64) : Readable (whole limit bytes) := by
  obtain ⟨hhead, hbody, hlength, hframing⟩ := (faithful_whole hfits).readable
  refine ⟨wordFraming?_whole (Nat.le_trans hfits hlimit), hhead, hbody, hlength, hframing, ?_⟩
  intro n hn
  have hle : n + lineEnd.length ≤ bytes.length := find_add_length_le hn
  show n ≤ bytes.length
  omega

/-- **What a cut leaves of a complete message**: all of it and nothing more. -/
structure CutToFrame (b : MessageBuffer) (length start declared : Nat) : Prop where
  bodyStart : b.bodyStart = some start
  contentLength : b.contentLength = .ok (some declared)
  length_eq : length = start + declared
  start_le : start ≤ length
  length_le : length ≤ b.bytes.length
  readable : Readable (b.truncate length)
  framing : (b.truncate length).framing = .ok (.complete length)
  body : (b.truncate length).body.length = declared
  bytes : (b.truncate length).bytes = b.bytes.take length

theorem cutToFrame_whole {limit : Nat} {bytes : Bytes} {length : Nat}
    (hfits : bytes.length ≤ limit) (hlimit : limit ≤ Numeral.maxWord64)
    (h : (whole limit bytes).framing = .ok (.complete length)) :
    ∃ start declared, CutToFrame (whole limit bytes) length start declared := by
  rw [framing_whole, framingOf_eq_complete_iff] at h
  obtain ⟨start, n, hdeclares, rfl, hle⟩ := h
  obtain ⟨hstart, hlength⟩ := hdeclares.observed limit
  have hcut : (whole limit bytes).truncate (start + n) = whole limit (bytes.take (start + n)) := by
    refine truncate_whole fun start' h => ?_
    rw [hstart, Option.mem_def, Option.some.injEq] at h
    omega
  have htake : (bytes.take (start + n)).length = start + n := by
    rw [List.length_take, Nat.min_eq_left hle]
  have hfront : Declares (bytes.take (start + n)) start n :=
    hdeclares.front (List.take_prefix _ _) (by omega)
  refine ⟨start, n, hstart, hlength, rfl, Nat.le_add_right _ _, hle, ?_, ?_, ?_, rfl⟩
  · rw [hcut]
    exact readable_whole (by omega) hlimit
  · rw [hcut, framing_whole, framingOf_eq_complete_iff]
    exact ⟨start, n, hfront, rfl, by omega⟩
  · have hbody : (whole limit (bytes.take (start + n))).body = (bytes.take (start + n)).drop start := by
      unfold MessageBuffer.body
      rw [(hfront.observed limit).1]
      rfl
    rw [hcut, hbody, List.length_drop, htake]
    omega

/-- An extended buffer is cut nowhere. -/
theorem sparesHead_extends (b : MessageBuffer) (chunks : List Bytes) :
    SparesHead b (chunks.map .extend) := by
  induction chunks generalizing b with
  | nil => trivial
  | cons chunk chunks ih => exact ⟨trivial, ih _⟩

/-- **Framing goes on as declared and stays in range.** For every limit that is a word of 64 bits and
every buffer that is filled in pieces, some of which may have been refused: it can be read, with every
sum and difference in range whatever length is declared; with a further chunk that is accepted, what
is complete stays complete with its length, what has no end keeps having none, what is wrong stays
wrong in the same way, and of a body so many fewer bytes are missing or it is complete; the request
line keeps its answer once there is a line end; and where the message is complete, its length lies
between the start of the body and the end of the bytes, and a cut there leaves the message. -/
theorem framing_evolves (limit : Nat) (chunks : List Bytes)
    (hlimit : limit ≤ Numeral.maxWord64) :
    let b := ({ limit } : MessageBuffer).edited (chunks.map .extend)
    Readable b ∧ (∀ declared, b.contentLength = .ok (some declared) →
        declared ≤ Numeral.maxWord64) ∧
      (∀ chunk b', b.extend chunk = .ok b' → Continues b b' chunk.length) ∧
      ∀ length, b.framing = .ok (.complete length) →
        ∃ start declared, CutToFrame b length start declared := by
  intro b
  have hempty : (whole limit []).SparesHead (chunks.map .extend) := sparesHead_extends _ chunks
  obtain ⟨hb, hfits⟩ := edited_whole (Nat.zero_le limit) hempty
  generalize (chunks.map BufferEdit.extend).foldl (BufferEdit.apply limit) [] = bytes at hb hfits
  have hwhole : b = whole limit bytes := hb
  rw [hwhole]
  refine ⟨readable_whole hfits hlimit, fun declared h => ?_, fun chunk b' h => ?_,
    fun length h => cutToFrame_whole hfits hlimit h⟩
  · unfold contentLength at h
    split at h
    · cases h
    · exact le_maxWord64_of_declared h
  · rw [extend_whole] at h
    split at h
    · cases h
    · obtain rfl : whole limit (bytes ++ chunk) = b' := Except.ok.inj h
      exact continues_whole limit bytes chunk

/-- The head of a response with a body of three bytes. -/
def headOfThree : Bytes := ascii "HTTP/1.1 200 OK\r\nContent-Length: 3\r\n\r\n".toList

/-- A response that comes in three pieces, of which the last brings a byte that is not its own. -/
theorem framing_evolves_pieces :
    let b := ({ limit := 64 } : MessageBuffer).edited ([headOfThree, [111]].map .extend)
    let b' := ({ limit := 64 } : MessageBuffer).edited
      ([headOfThree, [111], [107, 33, 33]].map .extend)
    64 ≤ Numeral.maxWord64 ∧ b.framing = .ok (.awaitingBody 2) ∧
      b'.framing = .ok (.complete 41) ∧ (b'.truncate 41).framing = .ok (.complete 41) ∧
        (b'.truncate 41).body.length = 3 := by
  intro b b'
  have hlimit : 64 ≤ Numeral.maxWord64 := by decide
  have hawaits : b.framing = .ok (.awaitingBody 2) := by decide +kernel
  have hstart : b.bodyStart = some 38 ∧ b.contentLength = .ok (some 3) := by decide +kernel
  have hextend : b.extend [107, 33, 33] = .ok b' := by decide +kernel
  obtain ⟨-, -, hcontinues, -⟩ := framing_evolves 64 [headOfThree, [111]] hlimit
  obtain ⟨start, declared, hs, hd, hcomplete⟩ := (hcontinues _ b' hextend).awaiting 2 hawaits
  rw [hstart.1, Option.some.injEq] at hs
  rw [hstart.2, Except.ok.injEq, Option.some.injEq] at hd
  subst hs hd
  obtain ⟨-, -, -, hcut⟩ := framing_evolves 64 [headOfThree, [111], [107, 33, 33]] hlimit
  obtain ⟨start, declared, hframe⟩ := hcut 41 hcomplete
  have hlength : b'.contentLength = .ok (some 3) := by decide +kernel
  obtain rfl : declared = 3 :=
    Option.some.inj (Except.ok.inj (hframe.contentLength.symm.trans hlength))
  exact ⟨hlimit, hawaits, hcomplete, hframe.framing, hframe.body⟩

/-- The greatest length that can be declared is awaited and added to nothing. -/
example :
    (whole 100 (ascii
      "HTTP/1.1 200 OK\r\nContent-Length: 18446744073709551615\r\n\r\n".toList)).wordFraming? =
      some (.ok (.awaitingBody 18446744073709551615)) := by
  decide +kernel

end MessageBuffer

end TrafficRouter.Http
