import Mathlib.Data.List.Induction
import Mathlib.Data.List.Infix
import TrafficRouter.Proofs.Gateway.Response

/-!
# How a response is divided into reads

A response with a declared length ends inside the read that brings its last byte. Whether it fits is
asked of all that was received with that read, before its end is looked for. So of two divisions of
the same stream into reads the one may be passed on and the other refused.

* `Division`: a stream as reads that are not empty and not longer than a read may be;
* `receivedUntil`: how much is there with the read that completes so many bytes, and `framedResult`,
  `Collection.run_closed`: the result of a response is a matter of that number alone;
* `Division.received_bounds`, `exists_division`: which numbers it may be;
* `same_result_iff`, `always_passed_on_iff`: the streams on whose division the result does not depend,
  and those that are passed on however they are divided;
* `verdict_of_collected`: an exchange to which the reads of a closed stream come;
* `verdict_by_completing_read`: all of it for a stream whose head declares a length;
* `verdict_by_segmentation`: one stream, two divisions and two results.

NOT here: responses without a declared length, whose end is when the service has closed.
-/

namespace TrafficRouter

open Http

/-! ## 1. Divisions -/

/-- **A stream divided into reads**: none is empty, and none longer than a read of the gateway. -/
structure Division (stream : Bytes) (chunks : List Bytes) : Prop where
  whole : chunks.flatten = stream
  nonempty : ∀ chunk ∈ chunks, chunk ≠ []
  fits : ∀ chunk ∈ chunks, chunk.length ≤ exchangeChunk

instance (stream : Bytes) (chunks : List Bytes) : Decidable (Division stream chunks) :=
  decidable_of_iff (chunks.flatten = stream ∧ (∀ chunk ∈ chunks, chunk ≠ []) ∧
      ∀ chunk ∈ chunks, chunk.length ≤ exchangeChunk)
    ⟨fun ⟨hwhole, hnonempty, hfits⟩ => ⟨hwhole, hnonempty, hfits⟩,
      fun h => ⟨h.whole, h.nonempty, h.fits⟩⟩

/-- The reads of a stream that comes in the given chunks and is then closed. -/
def closedReads (chunks : List Bytes) : List Reading := chunks.map .bytes ++ [.bytes []]

/-- How many bytes are there with the first chunk that makes them `length`, or with all chunks. -/
def receivedUntil (length : Nat) : List Bytes → Nat
  | [] => 0
  | chunk :: chunks =>
    if length ≤ chunk.length then chunk.length
    else chunk.length + receivedUntil (length - chunk.length) chunks

/-- **The result of a response** of so many bytes, by what is there with the read that completes it. -/
def framedResult (limit length : Nat) (stream : Bytes) (received : Nat) :
    Except GatewayError Bytes :=
  if limit < received then .error (.message (.tooLarge limit))
  else if length ≤ stream.length then .ok (stream.take length)
  else .error (.incomplete stream.length)

/-! ## 2. What is there with the completing read -/

section

variable {length : Nat} {chunks : List Bytes}

/-- Where there are fewer bytes, all of them are there. -/
theorem receivedUntil_of_lt (h : chunks.flatten.length < length) :
    receivedUntil length chunks = chunks.flatten.length := by
  induction chunks generalizing length with
  | nil => rfl
  | cons chunk chunks ih =>
    rw [List.flatten_cons, List.length_append] at h ⊢
    rw [receivedUntil, if_neg (by omega), ih (by omega)]

/-- The read that brings the last of so many bytes. -/
theorem exists_completing_chunk (hpos : 0 < length) (h : length ≤ chunks.flatten.length) :
    ∃ front chunk back, chunks = front ++ chunk :: back ∧ front.flatten.length < length ∧
      length ≤ front.flatten.length + chunk.length := by
  induction chunks using List.reverseRecOn with
  | nil => exact absurd h (Nat.not_le_of_lt hpos)
  | append_singleton chunks chunk ih =>
    by_cases hbefore : length ≤ chunks.flatten.length
    · obtain ⟨front, completing, back, rfl, hlt, hle⟩ := ih hbefore
      exact ⟨front, completing, back ++ [chunk], by simp, hlt, hle⟩
    · refine ⟨chunks, chunk, [], rfl, Nat.lt_of_not_le hbefore, ?_⟩
      simpa using h

/-- The read that completes, by what comes before it. -/
theorem receivedUntil_append {chunk : Bytes} {front back : List Bytes}
    (hlt : front.flatten.length < length) (hle : length ≤ front.flatten.length + chunk.length) :
    receivedUntil length (front ++ chunk :: back) = front.flatten.length + chunk.length := by
  induction front generalizing length with
  | nil =>
    rw [List.flatten_nil, List.length_nil] at hle ⊢
    rw [List.nil_append, receivedUntil, if_pos (by omega), Nat.zero_add]
  | cons c front ih =>
    rw [List.flatten_cons, List.length_append] at hlt hle ⊢
    rw [List.cons_append, receivedUntil, if_neg (by omega), ih (by omega) (by omega)]
    omega

/-- There are so many bytes with that read, and no more than all. -/
theorem receivedUntil_bounds (hpos : 0 < length) (h : length ≤ chunks.flatten.length) :
    length ≤ receivedUntil length chunks ∧ receivedUntil length chunks ≤ chunks.flatten.length := by
  obtain ⟨front, chunk, back, rfl, hlt, hle⟩ := exists_completing_chunk hpos h
  rw [receivedUntil_append hlt hle, List.flatten_append, List.flatten_cons, List.length_append,
    List.length_append]
  omega

/-- **The read that completes brings at least one byte of those**, so it brings fewer than a whole
read behind them. -/
theorem receivedUntil_lt (hpos : 0 < length) (h : length ≤ chunks.flatten.length)
    (hfits : ∀ chunk ∈ chunks, chunk.length ≤ exchangeChunk) :
    receivedUntil length chunks < length + exchangeChunk := by
  obtain ⟨front, chunk, back, rfl, hlt, hle⟩ := exists_completing_chunk hpos h
  have hchunk : chunk.length ≤ exchangeChunk :=
    hfits chunk (List.mem_append_right _ List.mem_cons_self)
  rw [receivedUntil_append hlt hle]
  omega

end

/-! ## 3. Collecting a divided stream -/

/-- What is too much is refused, whatever it is. -/
theorem Collection.ofBytes_of_lt {limit : Nat} {bytes : Bytes} (h : limit < bytes.length) :
    Collection.ofBytes limit bytes = .ofResult (.error (.message (.tooLarge limit))) := if_pos h

/-- A beginning that holds the response is complete with it. -/
theorem Collection.ofBytes_of_declares {limit start n : Nat} {stream front : Bytes}
    (h : Declares stream start n) (hp : front <+: stream) (hfits : front.length ≤ limit)
    (hle : start + n ≤ front.length) :
    Collection.ofBytes limit front = .ofResult (.ok (stream.take (start + n))) := by
  have hfront : Declares front start n := h.front hp (by omega)
  unfold ofBytes
  rw [if_neg (Nat.not_lt_of_le hfits), framingOf_eq_complete_iff.mpr ⟨start, n, hfront, rfl, hle⟩,
    ← take_front hp hle]
  rfl

/-- **The rest of a stream**, from a beginning that is shorter than the response. -/
theorem Collection.run_rest {limit start n : Nat} {stream front : Bytes} {chunks : List Bytes}
    {framing : Framing} (h : Declares stream start n) (hwhole : front ++ chunks.flatten = stream)
    (hnonempty : ∀ chunk ∈ chunks, chunk ≠ []) (hfits : front.length ≤ limit)
    (hlt : front.length < start + n) (hframing : framingOf front = .ok framing) :
    (Collection.reading (.whole limit front) framing).run (closedReads chunks) =
      .ofResult (framedResult limit (start + n) stream
        (front.length + receivedUntil (start + n - front.length) chunks)) := by
  induction chunks generalizing front framing with
  | nil =>
    -- the close comes where the head or the body is awaited
    rw [List.flatten_nil, List.append_nil] at hwhole
    subst hwhole
    have hne := framing_ne_unbounded hframing (h.awaits (List.prefix_refl _) hlt)
    have hresult : framedResult limit (start + n) front (front.length + 0) =
        .error (.incomplete front.length) := by
      unfold framedResult
      rw [if_neg (by omega), if_neg (by omega)]
    rw [receivedUntil, hresult]
    cases framing with
    | unbounded => exact absurd rfl hne
    | awaitingHeaders | awaitingBody | complete => rfl
  | cons chunk chunks ih =>
    have hrest : (front ++ chunk) ++ chunks.flatten = stream := by simpa using hwhole
    have hp : front ++ chunk <+: stream := ⟨chunks.flatten, hrest⟩
    have hlength : (front ++ chunk).length = front.length + chunk.length := List.length_append
    have hchunk : chunk ≠ [] := hnonempty chunk List.mem_cons_self
    show ((Collection.reading (.whole limit front) framing).feed (.bytes chunk)).run
      (closedReads chunks) = _
    rw [Collection.feed_chunk hchunk, receivedUntil]
    by_cases hlarge : limit < (front ++ chunk).length
    · -- too much is too much with whatever comes behind
      rw [Collection.ofBytes_of_lt hlarge, Collection.run_ofResult]
      unfold framedResult
      rw [if_pos]
      split <;> omega
    have hfits' : (front ++ chunk).length ≤ limit := Nat.le_of_not_lt hlarge
    by_cases hcomplete : start + n ≤ (front ++ chunk).length
    · have hle := Nat.le_trans hcomplete hp.length_le
      rw [Collection.ofBytes_of_declares h hp hfits' hcomplete, Collection.run_ofResult,
        if_pos (by omega)]
      unfold framedResult
      rw [if_neg (by omega), if_pos hle]
    · have hlt' : (front ++ chunk).length < start + n := Nat.lt_of_not_le hcomplete
      obtain ⟨framing', hopen, hframing'⟩ :=
        Collection.ofBytes_of_open hfits' (Or.inl (h.awaits hp hlt'))
      have hnonempty' : ∀ c ∈ chunks, c ≠ [] := fun c hc => hnonempty c (List.mem_cons_of_mem _ hc)
      rw [hopen, ih hrest hnonempty' hfits' hlt' hframing', if_neg (by omega), hlength,
        Nat.sub_sub, Nat.add_assoc]

/-- **The result of a divided stream** is a matter of what is there with the read that completes the
response. -/
theorem Collection.run_closed {start n : Nat} {stream : Bytes} {chunks : List Bytes}
    (h : Declares stream start n) (hd : Division stream chunks) (limit : Nat) :
    (Collection.start limit).run (closedReads chunks) =
      .ofResult (framedResult limit (start + n) stream (receivedUntil (start + n) chunks)) := by
  have hrest : (Collection.reading (.whole limit []) .awaitingHeaders).run (closedReads chunks) = _ :=
    Collection.run_rest h hd.whole hd.nonempty (Nat.zero_le _) (Nat.add_pos_left h.start_pos _) rfl
  rw [List.length_nil, Nat.zero_add, Nat.sub_zero] at hrest
  exact hrest

/-! ## 4. How much may be there -/

/-- The reads of one byte each. -/
theorem division_singles (bytes : Bytes) : Division bytes (bytes.map fun b => [b]) where
  whole := List.flatMap_singleton' bytes
  nonempty chunk h := by
    obtain ⟨b, -, rfl⟩ := List.mem_map.mp h
    exact List.cons_ne_nil b []
  fits chunk h := by
    obtain ⟨b, -, rfl⟩ := List.mem_map.mp h
    exact (by decide : 1 ≤ exchangeChunk)

theorem Division.cons {chunk stream : Bytes} {chunks : List Bytes} (hne : chunk ≠ [])
    (hfits : chunk.length ≤ exchangeChunk) (h : Division stream chunks) :
    Division (chunk ++ stream) (chunk :: chunks) where
  whole := by rw [List.flatten_cons, h.whole]
  nonempty := List.forall_mem_cons.mpr ⟨hne, h.nonempty⟩
  fits := List.forall_mem_cons.mpr ⟨hfits, h.fits⟩

theorem Division.append {front back : Bytes} {chunks chunks' : List Bytes}
    (h : Division front chunks) (h' : Division back chunks') :
    Division (front ++ back) (chunks ++ chunks') where
  whole := by rw [List.flatten_append, h.whole, h'.whole]
  nonempty := List.forall_mem_append.mpr ⟨h.nonempty, h'.nonempty⟩
  fits := List.forall_mem_append.mpr ⟨h.fits, h'.fits⟩

/-- **Every number from the length of the response on may be there with the read that completes it**,
up to the end of the stream and to what that read may bring behind it. -/
theorem exists_division {stream : Bytes} {length received : Nat} (hpos : 0 < length)
    (hle : length ≤ received) (hstream : received ≤ stream.length)
    (hread : received < length + exchangeChunk) :
    ∃ chunks, Division stream chunks ∧ receivedUntil length chunks = received := by
  -- one read brings the last byte of the response and what may come behind it
  obtain ⟨last, hlast⟩ : ∃ last, last + 1 = length := ⟨length - 1, by omega⟩
  generalize hfront : stream.take last = front
  generalize hchunk : (stream.drop last).take (received - last) = chunk
  have hfrontLength : front.length = last := by
    rw [← hfront, List.length_take]
    omega
  have hchunkLength : chunk.length = received - last := by
    rw [← hchunk, List.length_take, List.length_drop]
    omega
  have hsplit : front ++ (chunk ++ stream.drop received) = stream := by
    rw [← hfront, ← hchunk, ← List.append_assoc, ← List.take_add, Nat.add_sub_of_le (by omega),
      List.take_append_drop]
  have hbefore := division_singles front
  have hcompleting := (division_singles (stream.drop received)).cons
    (List.ne_nil_of_length_pos (by omega)) (show chunk.length ≤ exchangeChunk by omega)
  refine ⟨_, hsplit ▸ hbefore.append hcompleting, ?_⟩
  rw [receivedUntil_append] <;> rw [hbefore.whole] <;> omega

/-- The most that may be there with the read that completes a response of so many bytes. -/
def mostReceived (length : Nat) (stream : Bytes) : Nat :=
  min stream.length (length + (exchangeChunk - 1))

theorem Division.received_bounds {stream : Bytes} {length : Nat} {chunks : List Bytes}
    (h : Division stream chunks) (hpos : 0 < length) (hle : length ≤ stream.length) :
    length ≤ receivedUntil length chunks ∧
      receivedUntil length chunks ≤ mostReceived length stream := by
  rw [← h.whole] at hle
  have hbounds := receivedUntil_bounds hpos hle
  have hread := receivedUntil_lt hpos hle h.fits
  rw [h.whole] at hbounds
  refine ⟨hbounds.1, Nat.le_min.mpr ⟨hbounds.2, ?_⟩⟩
  omega

theorem Division.received_of_lt {stream : Bytes} {length : Nat} {chunks : List Bytes}
    (h : Division stream chunks) (hlt : stream.length < length) :
    receivedUntil length chunks = stream.length := by
  rw [← h.whole] at hlt ⊢
  exact receivedUntil_of_lt hlt

/-! ## 5. The result by the division -/

theorem framedResult_eq_tooLarge {limit length received : Nat} {stream : Bytes}
    (h : limit < received) :
    framedResult limit length stream received = .error (.message (.tooLarge limit)) := if_pos h

theorem framedResult_eq_ok_iff {limit length received : Nat} {stream : Bytes} :
    framedResult limit length stream received = .ok (stream.take length) ↔
      received ≤ limit ∧ length ≤ stream.length := by
  unfold framedResult
  split
  · simp only [reduceCtorEq, false_iff]
    omega
  · split
    · simp only [true_iff]
      omega
    · simp only [reduceCtorEq, false_iff]
      omega

/-- **On which streams the division makes a difference**: on those that hold a response within the
limit, with so much behind it that a read may bring it past the limit. -/
theorem same_result_iff {limit length : Nat} {stream : Bytes} (hpos : 0 < length) :
    (∀ chunks chunks', Division stream chunks → Division stream chunks' →
      framedResult limit length stream (receivedUntil length chunks) =
        framedResult limit length stream (receivedUntil length chunks')) ↔
      stream.length < length ∨ limit < length ∨ mostReceived length stream ≤ limit := by
  constructor
  · intro h
    by_contra hno
    obtain ⟨hstream, hno⟩ := not_or.mp hno
    obtain ⟨hlength, hmost⟩ := not_or.mp hno
    have hle : length ≤ stream.length := Nat.le_of_not_lt hstream
    have hpositive : 0 < exchangeChunk := by decide
    have hmost_le : mostReceived length stream ≤ stream.length := Nat.min_le_left _ _
    have hmost_lt : mostReceived length stream < length + exchangeChunk :=
      Nat.lt_of_le_of_lt (Nat.min_le_right _ _) (by omega)
    obtain ⟨chunks, hd, hreceived⟩ := exists_division hpos (Nat.le_refl length) hle (by omega)
    obtain ⟨chunks', hd', hreceived'⟩ := exists_division hpos (by omega) hmost_le hmost_lt
    have hsame := h chunks chunks' hd hd'
    have hok := framedResult_eq_ok_iff.mpr ⟨Nat.le_of_not_lt hlength, hle⟩
    rw [hreceived, hreceived', framedResult_eq_tooLarge (Nat.lt_of_not_le hmost), hok] at hsame
    cases hsame
  · rintro hcases chunks chunks' hd hd'
    by_cases hstream : stream.length < length
    · rw [hd.received_of_lt hstream, hd'.received_of_lt hstream]
    · have hle : length ≤ stream.length := Nat.le_of_not_lt hstream
      have hbounds := hd.received_bounds hpos hle
      have hbounds' := hd'.received_bounds hpos hle
      rcases hcases with hlt | hlimit | hmost
      · exact absurd hlt hstream
      · rw [framedResult_eq_tooLarge (by omega), framedResult_eq_tooLarge (by omega)]
      · have hok := framedResult_eq_ok_iff.mpr ⟨Nat.le_trans hbounds.2 hmost, hle⟩
        have hok' := framedResult_eq_ok_iff.mpr ⟨Nat.le_trans hbounds'.2 hmost, hle⟩
        exact hok.trans hok'.symm

/-- **Which responses are passed on however they are divided**: those that are all there, with no more
behind them than what is within the limit together with them, as far as one read may bring it. -/
theorem always_passed_on_iff {limit length : Nat} {stream : Bytes} (hpos : 0 < length) :
    (∀ chunks, Division stream chunks →
      framedResult limit length stream (receivedUntil length chunks) = .ok (stream.take length)) ↔
      length ≤ stream.length ∧ mostReceived length stream ≤ limit := by
  constructor
  · intro h
    obtain ⟨-, hle⟩ := framedResult_eq_ok_iff.mp (h _ (division_singles stream))
    refine ⟨hle, ?_⟩
    have hsame : stream.length < length ∨ limit < length ∨ mostReceived length stream ≤ limit :=
      (same_result_iff hpos).mp fun chunks chunks' hd hd' => (h chunks hd).trans (h chunks' hd').symm
    obtain ⟨hbegun, -⟩ := (division_singles stream).received_bounds hpos hle
    obtain ⟨hfits, -⟩ := framedResult_eq_ok_iff.mp (h _ (division_singles stream))
    rcases hsame with hlt | hlimit | hmost
    · omega
    · omega
    · exact hmost
  · rintro ⟨hle, hmost⟩ chunks hd
    obtain ⟨-, hreceived⟩ := hd.received_bounds hpos hle
    exact framedResult_eq_ok_iff.mpr ⟨Nat.le_trans hreceived hmost, hle⟩

/-! ## 6. Exchanges -/

/-- While a response is open, not all of it has been read. -/
theorem Open.length_lt {limit start n : Nat} {stream : Bytes} {chunks : List Bytes}
    (h : Open limit chunks) (hdeclares : Declares stream start n) (hp : chunks.flatten <+: stream) :
    chunks.flatten.length < start + n := by
  by_contra hle
  have hge : start + n ≤ chunks.flatten.length := Nat.le_of_not_lt hle
  have hcomplete := framingOf_eq_complete_iff.mpr
    ⟨start, n, hdeclares.front hp (by omega), rfl, hge⟩
  rcases h.unfinished chunks (List.prefix_refl _) with hawaits | hnone
  · rcases framingOf_awaits_iff.mpr hawaits with hf | ⟨_, hf⟩ <;>
      · rw [hcomplete] at hf
        cases hf
  · have hf := framingOf_eq_unbounded_iff.mpr hnone
    rw [hcomplete] at hf
    cases hf

/-- Reads without an empty one that begin a closed stream are some of its chunks. -/
theorem chunks_of_closedReads {front chunks : List Bytes} (hnonempty : ∀ chunk ∈ front, chunk ≠ [])
    (h : front.map .bytes <+: closedReads chunks) : front <+: chunks := by
  have hinjective : Function.Injective Reading.bytes := fun _ _ heq => Reading.bytes.inj heq
  rcases List.prefix_concat_iff.mp h with hall | hsome
  · have hclose : Reading.bytes [] ∈ front.map .bytes := by
      rw [hall]
      exact List.mem_append_right _ (List.mem_singleton_self _)
    exact absurd rfl (hnonempty [] ((List.mem_map_of_injective hinjective).mp hclose))
  · exact (List.prefix_map_iff_of_injective hinjective).mp hsome

/-- **The verdict of an exchange** whose reads are the beginning of a closed stream is what the stream
comes to, and is there as soon as the response is, or the stream has been closed. -/
theorem verdict_of_collected {start n : Nat} {stream : Bytes} {chunks : List Bytes}
    {result : Except GatewayError Bytes} (h : Declares stream start n)
    (hwhole : chunks.flatten = stream) (r : ExchangeRun) (labels : List ExchangeLabel)
    (hcollected : (Collection.start r.settings.maxMessage).run (closedReads chunks) =
      .ofResult result) :
    let w := (Watched.begin r.requestSent).run labels
    w.notes.serviceReads <+: closedReads chunks →
      (w.notes.verdicts = [] ∧ ∃ front, front <+: chunks ∧
          w.notes.serviceReads = front.map .bytes ∧ front.flatten.length < start + n) ∨
        w.notes.verdicts = [.ofResult result] := by
  intro w hreads
  have hw : Receiving r.settings w := receiving_run r labels
  rcases hw.standing with ⟨front, framing, ho⟩ | ⟨result', hr⟩
  · rw [ho.reads] at hreads
    have hfront := chunks_of_closedReads ho.isOpen.nonempty hreads
    have hp : front.flatten <+: stream := hwhole ▸ hfront.flatten
    exact Or.inl ⟨ho.undecided, front, hfront, ho.reads, ho.isOpen.length_lt h hp⟩
  · obtain ⟨rest, hrest⟩ := hreads
    have hsame : Collection.ofResult result' = .ofResult result := by
      rw [← hcollected, ← hrest, Collection.run_append, hr.completion.run_eq,
        Collection.run_ofResult]
    rw [← Collection.ofResult_injective hsame]
    exact Or.inr hr.verdict

/-- **The verdict on a response is that of the read which completes it.** For every limit and every
stream whose head declares a length, however it is divided into reads and then closed: the response
is passed on if all of it is there and what is there with the read that brings its last byte is within
the limit, and is refused as too large or as incomplete otherwise. The result is the same for all
divisions exactly if the response is not all there, or is itself too large, or is within the limit
together with all that one read may bring behind it; it is passed on in all of them exactly if it is
all there and that is so. An exchange to which the reads of a division come has that verdict, or has
none and has read less than the response. -/
theorem verdict_by_completing_read (limit : Nat) (stream : Bytes) (start n : Nat)
    (h : Declares stream start n) :
    let length := start + n
    let collected chunks := (Collection.start limit).run (closedReads chunks)
    let result chunks := framedResult limit length stream (receivedUntil length chunks)
    (∀ chunks, Division stream chunks → collected chunks = .ofResult (result chunks)) ∧
      ((∀ chunks chunks', Division stream chunks → Division stream chunks' →
          collected chunks = collected chunks') ↔
        stream.length < length ∨ limit < length ∨ mostReceived length stream ≤ limit) ∧
      ((∀ chunks, Division stream chunks → collected chunks = .complete (stream.take length)) ↔
        length ≤ stream.length ∧ mostReceived length stream ≤ limit) ∧
      ∀ (r : ExchangeRun) (labels : List ExchangeLabel) (chunks : List Bytes),
        r.settings.maxMessage = limit → Division stream chunks →
        let w := (Watched.begin r.requestSent).run labels
        w.notes.serviceReads <+: closedReads chunks →
          (w.notes.verdicts = [] ∧ ∃ front, front <+: chunks ∧
              w.notes.serviceReads = front.map .bytes ∧ front.flatten.length < length) ∨
            w.notes.verdicts = [.ofResult (result chunks)] := by
  intro length collected result
  have hpos : 0 < length := Nat.add_pos_left h.start_pos n
  have hcollected : ∀ chunks, Division stream chunks → collected chunks = .ofResult (result chunks) :=
    fun chunks hd => Collection.run_closed h hd limit
  refine ⟨hcollected, ?_, ?_, ?_⟩
  · rw [← same_result_iff hpos]
    refine forall₄_congr fun chunks chunks' hd hd' => ?_
    rw [hcollected chunks hd, hcollected chunks' hd']
    exact ⟨Collection.ofResult_injective, congrArg _⟩
  · rw [← always_passed_on_iff hpos]
    refine forall₂_congr fun chunks hd => ?_
    rw [hcollected chunks hd]
    exact ⟨fun heq => Collection.ofResult_injective heq, congrArg _⟩
  · rintro r labels chunks rfl hd w hreads
    exact verdict_of_collected h hd.whole r labels (hcollected chunks hd) hreads

/-- A response of 40 bytes. -/
def okResponse : Bytes := ascii "HTTP/1.1 200 OK\r\nContent-Length: 2\r\n\r\nok".toList

/-- What comes behind it. -/
def extra : Bytes := ascii "EXTRA".toList

theorem declares_okResponse : Declares (okResponse ++ extra) 38 2 :=
  ⟨34, by decide +kernel, by decide, by decide +kernel⟩

/-- Within a limit of 45 bytes the response is passed on however it and what comes behind it are
divided; in an exchange that gets it in two pieces, say. -/
theorem verdict_by_completing_read_within :
    let stream := okResponse ++ extra
    let chunks := [stream.take 20, stream.drop 20]
    let r := ExchangeRun.start { GatewaySettings.ofSettings {} with maxMessage := 45 } [] {}
    let w := (Watched.begin r.requestSent).run
      (chunks.flatMap fun chunk => [.backend (.send chunk), .step])
    Declares stream 38 2 ∧ Division stream chunks ∧ w.notes.serviceReads = chunks.map .bytes ∧
      w.notes.verdicts = [.forwarded okResponse] ∧
      ∀ chunks', Division stream chunks' →
        (Collection.start 45).run (closedReads chunks') = .complete okResponse := by
  intro stream chunks r w
  have hd : Division stream chunks := by decide +kernel
  have hreads : w.notes.serviceReads = chunks.map .bytes := by decide +kernel
  have hbegins : w.notes.serviceReads <+: closedReads chunks := hreads ▸ List.prefix_append _ _
  have hbounds : 40 ≤ stream.length ∧ mostReceived 40 stream ≤ 45 := by decide +kernel
  have htake : stream.take 40 = okResponse := by decide +kernel
  obtain ⟨-, -, hpassed, hverdict⟩ := verdict_by_completing_read 45 stream 38 2 declares_okResponse
  refine ⟨declares_okResponse, hd, hreads, ?_, htake ▸ hpassed.mpr hbounds⟩
  rcases hverdict r _ chunks rfl hd hbegins with ⟨hnone, -⟩ | hdecided
  · exact absurd hnone (by decide +kernel)
  · rw [hdecided]
    decide +kernel

/-- **One response, two divisions, two verdicts.** A response of 40 bytes and five more bytes behind
it, with a limit of 42: in one read the response is refused as larger than the limit, in two it is
passed on. -/
theorem verdict_by_segmentation :
    let stream := okResponse ++ extra
    Declares stream 38 2 ∧ Division stream [stream] ∧ Division stream [okResponse, extra] ∧
      okResponse.length = 40 ∧
      (Collection.start 42).run (closedReads [stream]) = .failed (.message (.tooLarge 42)) ∧
      (Collection.start 42).run (closedReads [okResponse, extra]) = .complete okResponse := by
  intro stream
  exact ⟨declares_okResponse, by decide +kernel⟩

end TrafficRouter
