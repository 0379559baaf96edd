import Mathlib.Data.List.Induction
import TrafficRouter.Gateway.Collection
import TrafficRouter.Proofs.Http.Framing

/-!
# When a response is complete

The completion rule of responses (`Completion`), stated on what the reads of the service came to:
a declared length ends the response inside the read that brings its last byte, silence or the close
ends a response that declares none, and all else is an error that says what was wrong.

* `Collection.ofBytes`: a collection that is still open stands where the bytes received so far
  put it, in whatever pieces they came (`feed_chunk`);
* `Open.run_eq`, `Completion.run_eq`: collecting follows the rule, so the rule gives one result;
* `Open.advance`: whatever the next read comes to, the response stays open or the rule has a result;
* `run_eq_ofResult_iff`: over any reads, collecting comes to a result exactly where the rule does.

NOT here: the clock. How long a read may take before it comes to nothing is in `Response`.
-/

namespace TrafficRouter

open Http

/-! ## 1. Collections by the bytes received -/

namespace Collection

/-- Where a response stands with the given bytes. -/
def ofBytes (limit : Nat) (bytes : Bytes) : Collection :=
  if limit < bytes.length then .failed (.message (.tooLarge limit))
  else
    match framingOf bytes with
    | .error e => .failed (.message e)
    | .ok (.complete length) => .complete (bytes.take length)
    | .ok framing => .reading (.whole limit bytes) framing

/-- **A chunk puts a response where all bytes so far put it.** -/
theorem feed_chunk {limit : Nat} {bytes chunk : Bytes} {framing : Framing} (h : chunk ≠ []) :
    (reading (.whole limit bytes) framing).feed (.bytes chunk) = ofBytes limit (bytes ++ chunk) := by
  have hfeed : (reading (.whole limit bytes) framing).feed (.bytes chunk) =
      ofExtended ((MessageBuffer.whole limit bytes).extend chunk) := by
    cases chunk with
    | nil => exact absurd rfl h
    | cons b chunk => cases framing <;> rfl
  rw [hfeed, MessageBuffer.extend_whole]
  unfold ofBytes
  split
  · rfl
  · unfold ofExtended ofBuffer
    simp only [framing_whole]
    rfl

theorem run_append (c : Collection) (front back : List Reading) :
    c.run (front ++ back) = (c.run front).run back := List.foldl_append

/-- The result of a response. -/
def ofResult : Except GatewayError Bytes → Collection
  | .ok response => .complete response
  | .error e => .failed e

theorem ofResult_injective {r s : Except GatewayError Bytes} (h : ofResult r = ofResult s) :
    r = s := by
  cases r <;> cases s <;> simp_all [ofResult]

end Collection

/-! ## 2. The rule -/

/-- **A response is open** after the given chunks: none is empty, and with each of them what was
received was within the limit and was waiting for more or had no end of its own. -/
structure Open (limit : Nat) (chunks : List Bytes) : Prop where
  nonempty : ∀ chunk ∈ chunks, chunk ≠ []
  fits : ∀ front, front <+: chunks → front.flatten.length ≤ limit
  unfinished : ∀ front, front <+: chunks → Awaits front.flatten ∨ DeclaresNone front.flatten

/-- **The completion rule**: the result of a response, by what the reads of it came to. -/
inductive Completion (limit : Nat) : List Reading → Except GatewayError Bytes → Prop where
  /-- The chunk that brings the last byte of a declared body ends the response with that byte. -/
  | framed {chunks : List Bytes} {chunk : Bytes} {start n : Nat} (hopen : Open limit chunks)
      (hne : chunk ≠ []) (fits : (chunks.flatten ++ chunk).length ≤ limit)
      (declared : Declares (chunks.flatten ++ chunk) start n)
      (arrived : start + n ≤ (chunks.flatten ++ chunk).length) :
      Completion limit (chunks.map .bytes ++ [.bytes chunk])
        (.ok ((chunks.flatten ++ chunk).take (start + n)))
  /-- The close ends a response that declares no length. -/
  | closed {chunks : List Bytes} (hopen : Open limit chunks)
      (hnone : DeclaresNone chunks.flatten) :
      Completion limit (chunks.map .bytes ++ [.bytes []]) (.ok chunks.flatten)
  /-- Silence ends a response that declares no length. -/
  | idle {chunks : List Bytes} (hopen : Open limit chunks) (hnone : DeclaresNone chunks.flatten) :
      Completion limit (chunks.map .bytes ++ [.timedOut]) (.ok chunks.flatten)
  /-- The close comes before the head or the declared body is there. -/
  | cutOff {chunks : List Bytes} (hopen : Open limit chunks) (hawaits : Awaits chunks.flatten) :
      Completion limit (chunks.map .bytes ++ [.bytes []])
        (.error (.incomplete chunks.flatten.length))
  /-- Silence comes before the head or the declared body is there. -/
  | stalled {chunks : List Bytes} (hopen : Open limit chunks) (hawaits : Awaits chunks.flatten) :
      Completion limit (chunks.map .bytes ++ [.timedOut]) (.error .receiveTimeout)
  | faulty {chunks : List Bytes} {fault : IoFault} (hopen : Open limit chunks) :
      Completion limit (chunks.map .bytes ++ [.failed fault]) (.error (.receive fault))
  | tooLarge {chunks : List Bytes} {chunk : Bytes} (hopen : Open limit chunks) (hne : chunk ≠ [])
      (exceeds : limit < (chunks.flatten ++ chunk).length) :
      Completion limit (chunks.map .bytes ++ [.bytes chunk]) (.error (.message (.tooLarge limit)))
  | malformed {chunks : List Bytes} {chunk : Bytes} {e : MessageError} (hopen : Open limit chunks)
      (hne : chunk ≠ []) (fits : (chunks.flatten ++ chunk).length ≤ limit)
      (wrong : DeclaresWrongly (chunks.flatten ++ chunk) e) :
      Completion limit (chunks.map .bytes ++ [.bytes chunk]) (.error (.message e))

/-- Before the first read a response is open. -/
theorem Open.nil (limit : Nat) : Open limit [] where
  nonempty chunk h := absurd h List.not_mem_nil
  fits front h := by
    rw [List.prefix_nil.mp h]
    exact Nat.zero_le _
  unfinished front h := by
    rw [List.prefix_nil.mp h]
    exact Or.inl (Or.inl rfl)

/-- A response that was open stays open with a chunk that fits and does not complete it. -/
theorem Open.snoc {limit : Nat} {chunks : List Bytes} {chunk : Bytes} (h : Open limit chunks)
    (hne : chunk ≠ []) (fits : (chunks.flatten ++ chunk).length ≤ limit)
    (unfinished : Awaits (chunks.flatten ++ chunk) ∨ DeclaresNone (chunks.flatten ++ chunk)) :
    Open limit (chunks ++ [chunk]) where
  nonempty c hc := by
    rcases List.mem_append.mp hc with hc | hc
    · exact h.nonempty c hc
    · rw [List.mem_singleton.mp hc]
      exact hne
  fits front hf := by
    rcases List.prefix_concat_iff.mp hf with rfl | hf
    · simpa using fits
    · exact h.fits front hf
  unfinished front hf := by
    rcases List.prefix_concat_iff.mp hf with rfl | hf
    · simpa using unfinished
    · exact h.unfinished front hf

theorem Open.of_snoc {limit : Nat} {chunks : List Bytes} {chunk : Bytes}
    (h : Open limit (chunks ++ [chunk])) : Open limit chunks where
  nonempty c hc := h.nonempty c (List.mem_append_left _ hc)
  fits front hf := h.fits front (hf.trans (List.prefix_append _ _))
  unfinished front hf := h.unfinished front (hf.trans (List.prefix_append _ _))

/-! ## 3. Collecting follows the rule -/

/-- Bytes that are received and leave the response open have a framing that waits for more. -/
theorem Collection.ofBytes_of_open {limit : Nat} {bytes : Bytes} (fits : bytes.length ≤ limit)
    (unfinished : Awaits bytes ∨ DeclaresNone bytes) :
    ∃ framing, Collection.ofBytes limit bytes = .reading (.whole limit bytes) framing ∧
      framingOf bytes = .ok framing := by
  unfold ofBytes
  rw [if_neg (by omega)]
  rcases unfinished with h | h
  · rcases framingOf_awaits_iff.mpr h with hf | ⟨n, hf⟩
    · rw [hf]
      exact ⟨_, rfl, rfl⟩
    · rw [hf]
      exact ⟨_, rfl, rfl⟩
  · rw [framingOf_eq_unbounded_iff.mpr h]
    exact ⟨_, rfl, rfl⟩

/-- **An open response is still being read**, with the framing of the bytes received. -/
theorem Open.run_eq {limit : Nat} {chunks : List Bytes} (h : Open limit chunks) :
    ∃ framing, (Collection.start limit).run (chunks.map .bytes) =
        .reading (.whole limit chunks.flatten) framing ∧
      framingOf chunks.flatten = .ok framing := by
  induction chunks using List.reverseRecOn with
  | nil => exact ⟨_, rfl, rfl⟩
  | append_singleton chunks chunk ih =>
    obtain ⟨framing, hrun, -⟩ := ih h.of_snoc
    have hne : chunk ≠ [] := h.nonempty chunk (List.mem_append_right _ (List.mem_singleton_self _))
    rw [List.map_append, Collection.run_append, hrun]
    show ∃ f, (Collection.reading (.whole limit chunks.flatten) framing).feed (.bytes chunk) = _ ∧ _
    rw [Collection.feed_chunk hne]
    have hflat : (chunks ++ [chunk]).flatten = chunks.flatten ++ chunk := by simp
    rw [hflat]
    have hfits := h.fits _ (List.prefix_refl _)
    have hunfinished := h.unfinished _ (List.prefix_refl _)
    rw [hflat] at hfits hunfinished
    exact Collection.ofBytes_of_open hfits hunfinished

/-- What one more read makes of an open response. -/
theorem Open.run_snoc {limit : Nat} {chunks : List Bytes} (h : Open limit chunks)
    (reading : Reading) :
    ∃ framing, framingOf chunks.flatten = .ok framing ∧
      (Collection.start limit).run (chunks.map .bytes ++ [reading]) =
        (Collection.reading (.whole limit chunks.flatten) framing).feed reading := by
  obtain ⟨framing, hrun, hf⟩ := h.run_eq
  refine ⟨framing, hf, ?_⟩
  rw [Collection.run_append, hrun]
  rfl

/-- A framing that waits for more is not that of a response without a length. -/
theorem framing_ne_unbounded {bytes : Bytes} {framing : Framing} (hf : framingOf bytes = .ok framing)
    (h : Awaits bytes) : framing ≠ .unbounded := by
  rcases framingOf_awaits_iff.mpr h with he | ⟨n, he⟩ <;>
    · rw [he, Except.ok.injEq] at hf
      rw [← hf]
      exact Framing.noConfusion

/-- **Collecting comes to the result that the rule gives.** -/
theorem Completion.run_eq {limit : Nat} {reads : List Reading}
    {result : Except GatewayError Bytes} (h : Completion limit reads result) :
    (Collection.start limit).run reads = .ofResult result := by
  cases h with
  | framed hopen hne fits declared arrived =>
    obtain ⟨framing, -, hrun⟩ := hopen.run_snoc (.bytes _)
    rw [hrun, Collection.feed_chunk hne, Collection.ofBytes, if_neg (by omega),
      framingOf_eq_complete_iff.mpr ⟨_, _, declared, rfl, arrived⟩]
    rfl
  | closed hopen hnone =>
    obtain ⟨framing, hf, hrun⟩ := hopen.run_snoc (.bytes [])
    rw [framingOf_eq_unbounded_iff.mpr hnone, Except.ok.injEq] at hf
    rw [hrun, ← hf]
    rfl
  | idle hopen hnone =>
    obtain ⟨framing, hf, hrun⟩ := hopen.run_snoc .timedOut
    rw [framingOf_eq_unbounded_iff.mpr hnone, Except.ok.injEq] at hf
    rw [hrun, ← hf]
    rfl
  | cutOff hopen hawaits =>
    obtain ⟨framing, hf, hrun⟩ := hopen.run_snoc (.bytes [])
    have hne := framing_ne_unbounded hf hawaits
    rw [hrun]
    cases framing with
    | unbounded => exact absurd rfl hne
    | awaitingHeaders | awaitingBody | complete => rfl
  | stalled hopen hawaits =>
    obtain ⟨framing, hf, hrun⟩ := hopen.run_snoc .timedOut
    have hne := framing_ne_unbounded hf hawaits
    rw [hrun]
    cases framing with
    | unbounded => exact absurd rfl hne
    | awaitingHeaders | awaitingBody | complete => rfl
  | faulty hopen =>
    obtain ⟨framing, -, hrun⟩ := hopen.run_snoc (.failed _)
    rw [hrun]
    cases framing <;> rfl
  | tooLarge hopen hne exceeds =>
    obtain ⟨framing, -, hrun⟩ := hopen.run_snoc (.bytes _)
    rw [hrun, Collection.feed_chunk hne, Collection.ofBytes, if_pos exceeds]
    rfl
  | malformed hopen hne fits wrong =>
    obtain ⟨framing, -, hrun⟩ := hopen.run_snoc (.bytes _)
    rw [hrun, Collection.feed_chunk hne, Collection.ofBytes, if_neg (by omega),
      framingOf_eq_error_iff.mpr wrong]
    rfl

/-- **The rule gives one result.** -/
theorem Completion.unique {limit : Nat} {reads : List Reading} {r s : Except GatewayError Bytes}
    (hr : Completion limit reads r) (hs : Completion limit reads s) : r = s :=
  Collection.ofResult_injective (hr.run_eq.symm.trans hs.run_eq)

/-- While a response is open the rule gives no result. -/
theorem Open.not_completion {limit : Nat} {chunks : List Bytes} (h : Open limit chunks)
    (result : Except GatewayError Bytes) : ¬ Completion limit (chunks.map .bytes) result := by
  intro hc
  obtain ⟨framing, hrun, -⟩ := h.run_eq
  rw [hc.run_eq] at hrun
  cases result <;> simp [Collection.ofResult] at hrun

/-- **Whatever the next read comes to, the response stays open or the rule has a result.** -/
theorem Open.advance {limit : Nat} {chunks : List Bytes} (h : Open limit chunks)
    (reading : Reading) :
    (∃ chunk, reading = .bytes chunk ∧ Open limit (chunks ++ [chunk])) ∨
      ∃ result, Completion limit (chunks.map .bytes ++ [reading]) result := by
  have hlast := h.unfinished chunks (List.prefix_refl _)
  cases reading with
  | failed fault => exact Or.inr ⟨_, .faulty h⟩
  | timedOut =>
    rcases hlast with hawaits | hnone
    · exact Or.inr ⟨_, .stalled h hawaits⟩
    · exact Or.inr ⟨_, .idle h hnone⟩
  | bytes chunk =>
    by_cases hne : chunk = []
    · subst hne
      rcases hlast with hawaits | hnone
      · exact Or.inr ⟨_, .cutOff h hawaits⟩
      · exact Or.inr ⟨_, .closed h hnone⟩
    · by_cases hfits : (chunks.flatten ++ chunk).length ≤ limit
      · cases hf : framingOf (chunks.flatten ++ chunk) with
        | error e => exact Or.inr ⟨_, .malformed h hne hfits (framingOf_eq_error_iff.mp hf)⟩
        | ok framing =>
          cases framing with
          | awaitingHeaders =>
            have hawaits := framingOf_awaits_iff.mp (Or.inl hf)
            exact Or.inl ⟨chunk, rfl, h.snoc hne hfits (Or.inl hawaits)⟩
          | awaitingBody n =>
            have hawaits := framingOf_awaits_iff.mp (Or.inr ⟨n, hf⟩)
            exact Or.inl ⟨chunk, rfl, h.snoc hne hfits (Or.inl hawaits)⟩
          | unbounded =>
            have hnone := framingOf_eq_unbounded_iff.mp hf
            exact Or.inl ⟨chunk, rfl, h.snoc hne hfits (Or.inr hnone)⟩
          | complete length =>
            obtain ⟨start, n, declared, -, arrived⟩ := framingOf_eq_complete_iff.mp hf
            exact Or.inr ⟨_, .framed h hne hfits declared arrived⟩
      · exact Or.inr ⟨_, .tooLarge h hne (by omega)⟩

/-- **Collecting follows the rule, read by read**: the buffer goes on with the framing of the bytes
received, or the collection comes to the result of the rule. -/
theorem Open.feed_cases {limit : Nat} {chunks : List Bytes} {framing : Framing}
    (h : Open limit chunks) (hf : framingOf chunks.flatten = .ok framing) (reading : Reading) :
    (∃ chunk framing', reading = .bytes chunk ∧ Open limit (chunks ++ [chunk]) ∧
        framingOf (chunks ++ [chunk]).flatten = .ok framing' ∧
        (Collection.reading (.whole limit chunks.flatten) framing).feed reading =
          .reading (.whole limit (chunks ++ [chunk]).flatten) framing') ∨
      ∃ result, Completion limit (chunks.map .bytes ++ [reading]) result ∧
        (Collection.reading (.whole limit chunks.flatten) framing).feed reading =
          .ofResult result := by
  obtain ⟨framing', hf', hrun⟩ := h.run_snoc reading
  rw [hf, Except.ok.injEq] at hf'
  subst hf'
  rcases h.advance reading with ⟨chunk, rfl, hopen⟩ | ⟨result, hc⟩
  · obtain ⟨framing', hrun', hf'⟩ := hopen.run_eq
    rw [List.map_append, List.map_singleton, hrun] at hrun'
    exact Or.inl ⟨chunk, framing', rfl, hopen, hf', hrun'⟩
  · exact Or.inr ⟨result, hc, hrun.symm.trans hc.run_eq⟩

/-- A response that has come to its result stays as it is. -/
theorem Collection.run_ofResult (result : Except GatewayError Bytes) (reads : List Reading) :
    (Collection.ofResult result).run reads = .ofResult result := by
  induction reads with
  | nil => rfl
  | cons reading reads ih => cases result <;> exact ih

/-- **The rule has the last word**, whatever comes behind the reads that it is about. -/
theorem Completion.run_of_prefix {limit : Nat} {front reads : List Reading}
    {result : Except GatewayError Bytes} (h : Completion limit front result) (hp : front <+: reads) :
    (Collection.start limit).run reads = .ofResult result := by
  obtain ⟨more, rfl⟩ := hp
  rw [Collection.run_append, h.run_eq, Collection.run_ofResult]

/-- **Any reads leave a response open, or the rule has a result for the first of them.** -/
theorem open_or_completion (limit : Nat) (reads : List Reading) :
    (∃ chunks, reads = chunks.map .bytes ∧ Open limit chunks) ∨
      ∃ front result, front <+: reads ∧ Completion limit front result := by
  induction reads using List.reverseRecOn with
  | nil => exact Or.inl ⟨[], rfl, .nil limit⟩
  | append_singleton reads reading ih =>
    rcases ih with ⟨chunks, rfl, hopen⟩ | ⟨front, result, hp, hc⟩
    · rcases hopen.advance reading with ⟨chunk, rfl, hopen'⟩ | ⟨result, hc⟩
      · exact Or.inl ⟨chunks ++ [chunk], by rw [List.map_append, List.map_singleton], hopen'⟩
      · exact Or.inr ⟨_, result, List.prefix_rfl, hc⟩
    · exact Or.inr ⟨front, result, hp.trans (List.prefix_append _ _), hc⟩

/-- **Collecting comes to a result exactly where the rule gives it**, with the reads that there are or
with the first of them. -/
theorem run_eq_ofResult_iff {limit : Nat} {reads : List Reading}
    {result : Except GatewayError Bytes} :
    (Collection.start limit).run reads = .ofResult result ↔
      ∃ front, front <+: reads ∧ Completion limit front result := by
  constructor
  · intro hrun
    rcases open_or_completion limit reads with ⟨chunks, rfl, hopen⟩ | ⟨front, result', hp, hc⟩
    · obtain ⟨framing, hreading, -⟩ := hopen.run_eq
      rw [hreading] at hrun
      cases result <;> cases hrun
    · have hsame := Collection.ofResult_injective ((hc.run_of_prefix hp).symm.trans hrun)
      exact ⟨front, hp, hsame ▸ hc⟩
  · rintro ⟨front, hp, hc⟩
    exact hc.run_of_prefix hp

/-- A response that is passed on is not empty. -/
theorem Completion.response_ne_nil {limit : Nat} {reads : List Reading} {response : Bytes}
    (h : Completion limit reads (.ok response)) : response ≠ [] := by
  intro e
  cases h with
  | framed hopen hne fits declared arrived =>
    have hpos := declared.start_pos
    have hlen := congrArg List.length e
    rw [List.length_take, List.length_nil] at hlen
    omega
  | closed hopen hnone | idle hopen hnone =>
    have hpos := hnone.length_pos
    rw [e, List.length_nil] at hpos
    omega

end TrafficRouter
