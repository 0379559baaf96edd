import TrafficRouter.Proofs.Gateway.Segmentation
import TrafficRouter.Proofs.Http.LocalResponse

/-!
# Answers that are read back

An answer that is written here is read by the parts that read a response of the service, in whatever
pieces it comes and with whatever behind it.

* `Declares.framing_front`: the framing of a message at each of its beginnings;
* `Declares.isOpen`: a response before its last byte;
* `Collection.run_of_declares`: a response within the limit is collected as it is, without what comes
  behind it;
* `local_response_read_back`: all of it for an answer.

NOT here: what is behind a response and past the limit (`Segmentation`).
-/

namespace TrafficRouter

open Http

/-! ## 1. The beginnings of a message -/

/-- **Only with its last byte is a message complete.** -/
theorem Http.Declares.framing_front {m front : Bytes} {start n : Nat} (h : Declares m start n)
    (hlength : m.length = start + n) (hp : front <+: m) :
    (front ≠ m → framingOf front = .ok .awaitingHeaders ∨
        ∃ missing, framingOf front = .ok (.awaitingBody missing)) ∧
      (front = m → framingOf front = .ok (.complete m.length)) := by
  constructor
  · intro hne
    have hlt : front.length < m.length :=
      Nat.lt_of_le_of_ne hp.length_le fun heq => hne (hp.eq_of_length heq)
    exact framingOf_awaits_iff.mpr (h.awaits hp (hlength ▸ hlt))
  · rintro rfl
    exact framingOf_eq_complete_iff.mpr ⟨start, n, h, hlength, hlength.ge⟩

/-! ## 2. A response within the limit -/

section

variable {limit start n : Nat} {stream : Bytes}

/-- Before its last byte a response within the limit is open. -/
theorem Http.Declares.isOpen (h : Declares stream start n) (hfits : stream.length ≤ limit)
    {front : List Bytes} (hnonempty : ∀ chunk ∈ front, chunk ≠ [])
    (hp : front.flatten <+: stream) (hlt : front.flatten.length < start + n) :
    Open limit front where
  nonempty := hnonempty
  fits _ hbegun := Nat.le_trans (hbegun.flatten.trans hp).length_le hfits
  unfinished _ hbegun :=
    Or.inl (h.awaits (hbegun.flatten.trans hp) (Nat.lt_of_le_of_lt hbegun.flatten.length_le hlt))

/-- **A response within the limit is collected as it is**, whatever is read behind it. -/
theorem Collection.run_of_declares (h : Declares stream start n) (hfits : stream.length ≤ limit)
    (hthere : start + n ≤ stream.length) {chunks : List Bytes} (hwhole : chunks.flatten = stream)
    (hnonempty : ∀ chunk ∈ chunks, chunk ≠ []) (later : List Reading) :
    (Collection.start limit).run (chunks.map .bytes ++ later) =
      .complete (stream.take (start + n)) := by
  have hpos : 0 < start + n := Nat.add_pos_left h.start_pos n
  obtain ⟨front, chunk, back, rfl, hlt, hle⟩ :=
    exists_completing_chunk hpos (hwhole.symm ▸ hthere)
  have hsplit : (front.flatten ++ chunk) ++ back.flatten = stream := by
    rw [← hwhole]
    simp
  have hp : front.flatten ++ chunk <+: stream := ⟨back.flatten, hsplit⟩
  rw [← List.length_append] at hle
  have hopen : Open limit front :=
    h.isOpen hfits (fun c hc => hnonempty c (List.mem_append_left _ hc))
      ((List.prefix_append _ _).trans hp) hlt
  have hcompletion := Completion.framed hopen (hnonempty chunk (by simp))
    (Nat.le_trans hp.length_le hfits) (h.front hp (by omega)) hle
  have hreads : (front ++ chunk :: back).map Reading.bytes ++ later =
      (front.map .bytes ++ [.bytes chunk]) ++ (back.map .bytes ++ later) := by
    simp
  rw [hreads, Collection.run_append, hcompletion.run_eq, Collection.run_ofResult, take_front hp hle]
  rfl

end

/-! ## 3. Answers -/

/-- **An answer is read back as it was meant.** For every status of 16 bits, every reason on one line
and every body, and every limit that the message does not exceed: its status is read from it. In
whatever pieces a buffer is filled with it, the buffer takes every piece, and the message is complete
with its last byte and awaited before it; then it has the length that it has, declares that of the
body, and its body is the body. Where the service sends it, with whatever behind it that the limit
admits and in whatever reads, the response that is collected is the message and nothing else, whatever
is read later; an exchange to which these reads come forwards it, or has read less than the message. -/
theorem local_response_read_back (r : LocalResponse) (h : r.WellFormed) (limit : Nat)
    (hfits : r.toBytes.length ≤ limit) :
    let m := r.toBytes
    statusCode? m = some r.status ∧
    (∀ pieces : List Bytes, pieces.flatten = m → ∀ front, front <+: pieces →
      ∃ b, front.foldlM MessageBuffer.extend { limit } = .ok b ∧ b.bytes = front.flatten ∧
        (b.bytes ≠ m → b.framing = .ok .awaitingHeaders ∨
          ∃ missing, b.framing = .ok (.awaitingBody missing)) ∧
        (b.bytes = m → b.framing = .ok (.complete m.length) ∧
          b.contentLength = .ok (some r.bodyBytes.length) ∧ b.body = r.bodyBytes)) ∧
    ∀ trailing, (m ++ trailing).length ≤ limit →
      ∀ chunks, chunks.flatten = m ++ trailing → (∀ chunk ∈ chunks, chunk ≠ []) →
        (∀ later, (Collection.start limit).run (chunks.map .bytes ++ later) = .complete m) ∧
        ∀ (x : ExchangeRun) (labels : List ExchangeLabel), x.settings.maxMessage = limit →
          let w := (Watched.begin x.requestSent).run labels
          w.notes.serviceReads <+: closedReads chunks →
            (w.notes.verdicts = [] ∧ ∃ front, front <+: chunks ∧
                w.notes.serviceReads = front.map .bytes ∧ front.flatten.length < m.length) ∨
              w.notes.verdicts = [.forwarded m] := by
  intro m
  obtain ⟨start, hdeclares, hlength, hbody⟩ := h.declares
  refine ⟨?_, ?_, ?_⟩
  · have hstatus := h.statusCode []
    rw [List.append_nil] at hstatus
    exact hstatus
  · intro pieces hpieces front hfront
    have hp : front.flatten <+: m := hpieces ▸ hfront.flatten
    have hextended : front.foldlM MessageBuffer.extend { limit } = .ok (.whole limit front.flatten) :=
      MessageBuffer.extend_pieces front (Nat.le_trans hp.length_le hfits)
    obtain ⟨hbefore, hcomplete⟩ := hdeclares.framing_front hlength hp
    refine ⟨_, hextended, rfl, ?_, ?_⟩
    · intro hne
      rw [framing_whole]
      exact hbefore hne
    · intro heq
      have hflat : front.flatten = m := heq
      rw [hflat] at hcomplete ⊢
      rw [framing_whole, hdeclares.body]
      exact ⟨hcomplete rfl, (hdeclares.observed limit).2, hbody⟩
  · intro trailing hfits' chunks hwhole hnonempty
    have htrailing := hdeclares.append trailing
    have hthere : start + r.bodyBytes.length ≤ (m ++ trailing).length := by
      rw [List.length_append, ← hlength]
      exact Nat.le_add_right _ _
    have htake : (m ++ trailing).take (start + r.bodyBytes.length) = m := by
      rw [← hlength, List.take_left]
    have hcollected : ∀ later, (Collection.start limit).run (chunks.map .bytes ++ later) =
        .complete m := by
      intro later
      rw [Collection.run_of_declares htrailing hfits' hthere hwhole hnonempty later, htake]
    refine ⟨hcollected, ?_⟩
    rintro x labels rfl w hreads
    have hclosed : (Collection.start x.settings.maxMessage).run (closedReads chunks) =
        .ofResult (.ok m) := hcollected [.bytes []]
    have hverdict := verdict_of_collected htrailing hwhole x labels hclosed hreads
    rw [← hlength] at hverdict
    exact hverdict

/-- An answer whose body holds what could be the end of a head and a header line. -/
def unavailable : LocalResponse :=
  ⟨503, "Später", "naïve\r\n\r\nContent-Length: 1\r\n\r\n"⟩

/-- Its body is 31 bytes long. Cut inside the head, with more behind it, it is forwarded as it is. -/
theorem local_response_read_back_terminators :
    let m := unavailable.toBytes
    let chunks := [m.take 60, m.drop 60 ++ extra]
    let x := ExchangeRun.start { GatewaySettings.ofSettings {} with maxMessage := 150 } [] {}
    let labels := chunks.flatMap fun chunk => [.backend (.send chunk), .step]
    unavailable.WellFormed ∧ m.length = 120 ∧ statusCode? m = some 503 ∧
      (Collection.start 150).run (chunks.map .bytes) = .complete m ∧
      ((Watched.begin x.requestSent).run labels).notes.verdicts = [.forwarded m] := by
  intro m chunks x labels
  have h : unavailable.WellFormed :=
    ⟨by decide, by decide +kernel, by decide +kernel, by decide +kernel⟩
  have hlength : m.length = 120 := by decide +kernel
  have hreads : ((Watched.begin x.requestSent).run labels).notes.serviceReads =
      chunks.map .bytes := by
    decide +kernel
  obtain ⟨hstatus, -, hread⟩ := local_response_read_back unavailable h 150 (by decide +kernel)
  obtain ⟨hcollected, hverdict⟩ := hread extra (by decide +kernel) chunks (by decide +kernel)
    (by decide +kernel)
  have hdecided := hverdict x labels rfl
  dsimp only at hdecided
  rw [hreads] at hdecided
  refine ⟨h, hlength, hstatus, hcollected [], ?_⟩
  rcases hdecided (List.prefix_append _ _) with ⟨hnone, -⟩ | hforwarded
  · exact absurd hnone (by decide +kernel)
  · exact hforwarded

end TrafficRouter
