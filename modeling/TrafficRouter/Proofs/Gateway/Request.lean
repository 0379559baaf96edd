import TrafficRouter.Proofs.Http.Framing
import TrafficRouter.Gateway.Intake
import Mathlib.Data.List.Induction

/-!
# Which requests are for the service

A request is taken in as long as it is within the limit and its head or its declared body is
awaited. The first bytes at which that is no longer so decide: they are for the service exactly where
they fit, are a request that is complete or has no end of its own, and begin with the line of a
login request. All else is refused.

* `Intake.ofBytes`: a request stands where the bytes received so far put it (`feed_chunk`);
* `Pending`, `LoginReached`: the two ways in which the bytes received leave a way to the service;
* `Standing.start`, `Pending.standing`: whatever the next read comes to, one of them holds or the
  request is refused; `standing_run`: so it is behind any reads.

NOT here: that the service is called (`Admission`).
-/

namespace TrafficRouter

open Http

/-! ## 1. Requests by the bytes received -/

/-- The first line names the login page. -/
def LoginLine (bytes : Bytes) : Prop :=
  ∃ n line, find lineEnd bytes = some n ∧ RequestLine.parse? (bytes.take n) = some line ∧
    line.method = "POST" ∧ line.path = "/login.php"

/-- A request that is within the limit and waits for more. -/
def Unfinished (limit : Nat) (bytes : Bytes) : Prop := bytes.length ≤ limit ∧ Awaits bytes

/-- A request that is within the limit and complete, or without an end of its own. -/
def Finished (limit : Nat) (bytes : Bytes) : Prop :=
  bytes.length ≤ limit ∧
    (DeclaresNone bytes ∨ ∃ start n, Declares bytes start n ∧ start + n ≤ bytes.length)

theorem rejectionOf_whole_iff {limit : Nat} {bytes : Bytes} :
    rejectionOf (.whole limit bytes) = none ↔ LoginLine bytes := by
  have hline : (MessageBuffer.whole limit bytes).requestLine =
      (find lineEnd bytes).bind fun n => RequestLine.parse? (bytes.take n) := by
    show (MessageBuffer.whole limit bytes).requestLine =
      (find lineEnd (MessageBuffer.whole limit bytes).bytes).bind _
    unfold MessageBuffer.requestLine
    cases find lineEnd (MessageBuffer.whole limit bytes).bytes <;> rfl
  unfold rejectionOf LoginLine
  rw [hline]
  cases hf : find lineEnd bytes with
  | none => simp
  | some n =>
    cases hp : RequestLine.parse? (bytes.take n) with
    | none => simp [hp]
    | some line => simp [hp, RequestLine.isLogin]

namespace Intake

/-- Where a request stands with the given bytes. -/
def ofBytes (limit : Nat) (bytes : Bytes) : Intake :=
  if limit < bytes.length then .rejected (.message (.tooLarge limit))
  else ofBuffer (.whole limit bytes)

theorem start_eq (limit : Nat) (initial : Bytes) : start limit initial = ofBytes limit initial := by
  unfold start ofBytes
  rw [MessageBuffer.ofInitial_eq]
  split <;> rfl

/-- **A chunk puts a request where all bytes so far put it.** -/
theorem feed_chunk {limit : Nat} {bytes chunk : Bytes} (h : chunk ≠ []) :
    (reading (.whole limit bytes)).feed (.bytes chunk) = ofBytes limit (bytes ++ chunk) := by
  have hfeed : (reading (.whole limit bytes)).feed (.bytes chunk) =
      ofExtended ((MessageBuffer.whole limit bytes).extend chunk) := by
    cases chunk with
    | nil => exact absurd rfl h
    | cons b chunk => rfl
  rw [hfeed, MessageBuffer.extend_whole]
  unfold ofBytes
  split <;> rfl

theorem run_append (i : Intake) (front back : List Reading) :
    i.run (front ++ back) = (i.run front).run back := List.foldl_append

/-- Why the request is not forwarded, where that is known. -/
def refusal? : Intake → Option Rejection
  | .reading _ => none
  | .complete request => rejectionOf request
  | .rejected rejection => some rejection

theorem ofBytes_of_unfinished {limit : Nat} {bytes : Bytes} (h : Unfinished limit bytes) :
    ofBytes limit bytes = .reading (.whole limit bytes) := by
  obtain ⟨fits, hawaits⟩ := h
  unfold ofBytes ofBuffer
  rw [if_neg (by omega), framing_whole]
  rcases framingOf_awaits_iff.mpr hawaits with hf | ⟨n, hf⟩ <;> rw [hf]

theorem ofBytes_of_finished {limit : Nat} {bytes : Bytes} (h : Finished limit bytes) :
    ofBytes limit bytes = .complete (.whole limit bytes) := by
  obtain ⟨fits, hnone | ⟨start, n, declared, arrived⟩⟩ := h
  · unfold ofBytes ofBuffer
    rw [if_neg (by omega), framing_whole, framingOf_eq_unbounded_iff.mpr hnone]
  · unfold ofBytes ofBuffer
    rw [if_neg (by omega), framing_whole,
      framingOf_eq_complete_iff.mpr ⟨start, n, declared, rfl, arrived⟩]

/-- Bytes are an unfinished request, or a login request, or refused. -/
theorem ofBytes_cases (limit : Nat) (bytes : Bytes) :
    Unfinished limit bytes ∨ Finished limit bytes ∧ LoginLine bytes ∨
      ∃ rejection, (ofBytes limit bytes).refusal? = some rejection := by
  by_cases fits : bytes.length ≤ limit
  · cases hf : framingOf bytes with
    | error e =>
      refine Or.inr (Or.inr ⟨.message e, ?_⟩)
      unfold ofBytes ofBuffer
      rw [if_neg (by omega), framing_whole, hf]
      rfl
    | ok framing =>
      have hfinished (h : Finished limit bytes) : Finished limit bytes ∧ LoginLine bytes ∨
          ∃ rejection, (ofBytes limit bytes).refusal? = some rejection := by
        rw [ofBytes_of_finished h]
        cases hr : rejectionOf (.whole limit bytes) with
        | none => exact Or.inl ⟨h, rejectionOf_whole_iff.mp hr⟩
        | some rejection => exact Or.inr ⟨rejection, hr⟩
      cases framing with
      | awaitingHeaders => exact Or.inl ⟨fits, framingOf_awaits_iff.mp (Or.inl hf)⟩
      | awaitingBody n => exact Or.inl ⟨fits, framingOf_awaits_iff.mp (Or.inr ⟨n, hf⟩)⟩
      | unbounded => exact Or.inr (hfinished ⟨fits, Or.inl (framingOf_eq_unbounded_iff.mp hf)⟩)
      | complete length =>
        obtain ⟨start, n, declared, -, arrived⟩ := framingOf_eq_complete_iff.mp hf
        exact Or.inr (hfinished ⟨fits, Or.inr ⟨start, n, declared, arrived⟩⟩)
  · refine Or.inr (Or.inr ⟨.message (.tooLarge limit), ?_⟩)
    unfold ofBytes
    rw [if_pos (by omega)]
    rfl

end Intake

/-! ## 2. The way to the service -/

/-- **The request is unfinished** from the initial bytes on, with each of the chunks. -/
structure Pending (limit : Nat) (initial : Bytes) (chunks : List Bytes) : Prop where
  nonempty : ∀ chunk ∈ chunks, chunk ≠ []
  unfinished : ∀ front, front <+: chunks → Unfinished limit (initial ++ front.flatten)

/-- **The request is a login request** with the last of the chunks, and was unfinished before. -/
structure LoginReached (limit : Nat) (initial : Bytes) (chunks : List Bytes) : Prop where
  nonempty : ∀ chunk ∈ chunks, chunk ≠ []
  unfinished : ∀ front, front <+: chunks → front ≠ chunks →
    Unfinished limit (initial ++ front.flatten)
  finished : Finished limit (initial ++ chunks.flatten)
  login : LoginLine (initial ++ chunks.flatten)

theorem Pending.of_snoc {limit : Nat} {initial : Bytes} {chunks : List Bytes} {chunk : Bytes}
    (h : Pending limit initial (chunks ++ [chunk])) : Pending limit initial chunks where
  nonempty c hc := h.nonempty c (List.mem_append_left _ hc)
  unfinished front hf := h.unfinished front (hf.trans (List.prefix_append _ _))

theorem LoginReached.of_snoc {limit : Nat} {initial : Bytes} {chunks : List Bytes} {chunk : Bytes}
    (h : LoginReached limit initial (chunks ++ [chunk])) : Pending limit initial chunks where
  nonempty c hc := h.nonempty c (List.mem_append_left _ hc)
  unfinished front hf := by
    refine h.unfinished front (hf.trans (List.prefix_append _ _)) fun e => ?_
    have hle := hf.length_le
    rw [e, List.length_append, List.length_singleton] at hle
    omega

theorem flatten_snoc (initial : Bytes) (chunks : List Bytes) (chunk : Bytes) :
    initial ++ (chunks ++ [chunk]).flatten = initial ++ chunks.flatten ++ chunk := by
  simp

/-- **A pending request is still being taken in.** -/
theorem Pending.run_eq {limit : Nat} {initial : Bytes} {chunks : List Bytes}
    (h : Pending limit initial chunks) :
    (Intake.start limit initial).run (chunks.map .bytes) =
      .reading (.whole limit (initial ++ chunks.flatten)) := by
  induction chunks using List.reverseRecOn with
  | nil =>
    have hu := h.unfinished [] (List.prefix_refl _)
    show Intake.start limit initial = _
    rw [Intake.start_eq]
    simp only [List.flatten_nil, List.append_nil] at hu ⊢
    exact Intake.ofBytes_of_unfinished hu
  | append_singleton chunks chunk ih =>
    have hne : chunk ≠ [] := h.nonempty chunk (List.mem_append_right _ (List.mem_singleton_self _))
    rw [List.map_append, Intake.run_append, ih h.of_snoc]
    show (Intake.reading _).feed (.bytes chunk) = _
    rw [Intake.feed_chunk hne, ← flatten_snoc]
    exact Intake.ofBytes_of_unfinished (h.unfinished _ (List.prefix_refl _))

/-- **A login request is complete and not refused.** -/
theorem LoginReached.run_eq {limit : Nat} {initial : Bytes} {chunks : List Bytes}
    (h : LoginReached limit initial chunks) :
    (Intake.start limit initial).run (chunks.map .bytes) =
      .complete (.whole limit (initial ++ chunks.flatten)) := by
  have hfinished := Intake.ofBytes_of_finished h.finished
  cases chunks using List.reverseRecOn with
  | nil =>
    show Intake.start limit initial = _
    rw [Intake.start_eq, ← hfinished, List.flatten_nil, List.append_nil]
  | append_singleton chunks chunk =>
    have hne : chunk ≠ [] := h.nonempty chunk (List.mem_append_right _ (List.mem_singleton_self _))
    rw [List.map_append, Intake.run_append, h.of_snoc.run_eq, ← hfinished, flatten_snoc]
    exact Intake.feed_chunk hne

/-- **Where a request stands** behind the given reads. -/
inductive Standing (limit : Nat) (initial : Bytes) (reads : List Reading) : Prop where
  | pending {chunks : List Bytes} (h : Pending limit initial chunks)
      (hn : reads = chunks.map .bytes)
  | login {chunks : List Bytes} (h : LoginReached limit initial chunks)
      (hn : reads = chunks.map .bytes)
  | refused {rejection : Rejection}
      (h : ((Intake.start limit initial).run reads).refusal? = some rejection)

/-- What the initial bytes alone come to. -/
theorem Standing.start (limit : Nat) (initial : Bytes) : Standing limit initial [] := by
  have hflat : initial ++ ([] : List Bytes).flatten = initial := List.append_nil _
  have hnonempty : ∀ chunk ∈ ([] : List Bytes), chunk ≠ [] := fun _ hc => absurd hc List.not_mem_nil
  rcases Intake.ofBytes_cases limit initial with hu | ⟨hf, hlogin⟩ | ⟨rejection, hr⟩
  · refine .pending ⟨hnonempty, fun front hfront => ?_⟩ rfl
    rw [List.prefix_nil.mp hfront, hflat]
    exact hu
  · rw [← hflat] at hf hlogin
    refine .login ⟨hnonempty, fun front hfront hne => ?_, hf, hlogin⟩ rfl
    exact absurd (List.prefix_nil.mp hfront) hne
  · have hr' : (Intake.start limit initial).refusal? = some rejection := by
      rw [Intake.start_eq]
      exact hr
    exact .refused hr'

/-- **Whatever the next read comes to**, the request stays pending, is a login request, or is
refused. -/
theorem Pending.standing {limit : Nat} {initial : Bytes} {chunks : List Bytes}
    (h : Pending limit initial chunks) (reading : Reading) :
    Standing limit initial (chunks.map .bytes ++ [reading]) := by
  have hrun : (Intake.start limit initial).run (chunks.map .bytes ++ [reading]) =
      (Intake.reading (.whole limit (initial ++ chunks.flatten))).feed reading := by
    rw [Intake.run_append, h.run_eq]
    rfl
  have hrefused {rejection : Rejection}
      (hr : ((Intake.reading (.whole limit (initial ++ chunks.flatten))).feed reading).refusal? =
        some rejection) : Standing limit initial (chunks.map .bytes ++ [reading]) :=
    .refused ((congrArg Intake.refusal? hrun).trans hr)
  cases reading with
  | failed fault => exact hrefused rfl
  | timedOut => exact hrefused rfl
  | bytes chunk =>
    by_cases hne : chunk = []
    · subst hne
      exact hrefused rfl
    · have hnonempty : ∀ c ∈ chunks ++ [chunk], c ≠ [] := fun c hc => by
        rcases List.mem_append.mp hc with hc | hc
        · exact h.nonempty c hc
        · rw [List.mem_singleton.mp hc]
          exact hne
      have hmap : chunks.map .bytes ++ [.bytes chunk] = (chunks ++ [chunk]).map Reading.bytes := by
        rw [List.map_append, List.map_singleton]
      rcases Intake.ofBytes_cases limit (initial ++ (chunks ++ [chunk]).flatten) with
        hu | ⟨hf, hlogin⟩ | ⟨rejection, hr⟩
      · refine .pending ⟨hnonempty, fun front hfront => ?_⟩ hmap
        rcases List.prefix_concat_iff.mp hfront with rfl | hfront
        · exact hu
        · exact h.unfinished front hfront
      · refine .login ⟨hnonempty, fun front hfront hne' => ?_, hf, hlogin⟩ hmap
        rcases List.prefix_concat_iff.mp hfront with rfl | hfront
        · exact absurd rfl hne'
        · exact h.unfinished front hfront
      · rw [flatten_snoc, ← Intake.feed_chunk hne] at hr
        exact hrefused hr

/-! ## 3. Any reads -/

/-- A request that is complete stays as it is. -/
theorem Intake.run_complete (request : MessageBuffer) (reads : List Reading) :
    (complete request).run reads = complete request := by
  induction reads with
  | nil => rfl
  | cons reading reads ih => exact ih

/-- A request that is refused stays so. -/
theorem Intake.refusal?_feed {i : Intake} {rejection : Rejection}
    (h : i.refusal? = some rejection) (reading : Reading) :
    (i.feed reading).refusal? = some rejection := by
  cases i with
  | reading buffer => cases h
  | complete request | rejected rejection' => exact h

/-- **A login request is complete, whatever comes behind it.** -/
theorem LoginReached.run_of_prefix {limit : Nat} {initial : Bytes} {chunks : List Bytes}
    {reads : List Reading} (h : LoginReached limit initial chunks)
    (hp : chunks.map .bytes <+: reads) :
    (Intake.start limit initial).run reads =
      .complete (.whole limit (initial ++ chunks.flatten)) := by
  obtain ⟨more, rfl⟩ := hp
  rw [Intake.run_append, h.run_eq, Intake.run_complete]

/-- **Any reads** leave a request pending, have made a login request of it, or have it refused. -/
theorem standing_run (limit : Nat) (initial : Bytes) (reads : List Reading) :
    (∃ chunks, reads = chunks.map .bytes ∧ Pending limit initial chunks) ∨
      (∃ chunks, chunks.map .bytes <+: reads ∧ LoginReached limit initial chunks) ∨
      ∃ rejection, ((Intake.start limit initial).run reads).refusal? = some rejection := by
  have hcases {reads : List Reading} (h : Standing limit initial reads) :
      (∃ chunks, reads = chunks.map .bytes ∧ Pending limit initial chunks) ∨
        (∃ chunks, chunks.map .bytes <+: reads ∧ LoginReached limit initial chunks) ∨
        ∃ rejection, ((Intake.start limit initial).run reads).refusal? = some rejection := by
    cases h with
    | pending h hn => exact Or.inl ⟨_, hn, h⟩
    | login h hn => exact Or.inr (Or.inl ⟨_, hn ▸ List.prefix_rfl, h⟩)
    | refused h => exact Or.inr (Or.inr ⟨_, h⟩)
  induction reads using List.reverseRecOn with
  | nil => exact hcases (.start limit initial)
  | append_singleton reads reading ih =>
    rcases ih with ⟨chunks, rfl, hpending⟩ | ⟨chunks, hp, hlogin⟩ | ⟨rejection, hrefused⟩
    · exact hcases (hpending.standing reading)
    · exact Or.inr (Or.inl ⟨chunks, hp.trans (List.prefix_append _ _), hlogin⟩)
    · refine Or.inr (Or.inr ⟨rejection, ?_⟩)
      rw [Intake.run_append]
      exact Intake.refusal?_feed hrefused reading

theorem map_bytes_injective {chunks chunks' : List Bytes}
    (h : chunks.map Reading.bytes = chunks'.map .bytes) : chunks = chunks' :=
  (List.map_inj_right fun _ _ e => Reading.bytes.inj e).mp h

/-- A login request is not refused. -/
theorem LoginReached.not_refused {limit : Nat} {initial : Bytes} {chunks : List Bytes}
    (h : LoginReached limit initial chunks) (rejection : Rejection) :
    ((Intake.start limit initial).run (chunks.map .bytes)).refusal? ≠ some rejection := by
  rw [h.run_eq]
  show rejectionOf (.whole limit (initial ++ chunks.flatten)) ≠ some rejection
  rw [rejectionOf_whole_iff.mpr h.login]
  exact Option.some_ne_none rejection |>.symm

/-- A pending request is not a login request yet. -/
theorem Pending.not_loginReached {limit : Nat} {initial : Bytes} {chunks : List Bytes}
    (h : Pending limit initial chunks) : ¬ LoginReached limit initial chunks := fun hl => by
  have hrun := h.run_eq
  rw [hl.run_eq] at hrun
  cases hrun

end TrafficRouter
