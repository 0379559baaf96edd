import TrafficRouter.Stream.Duplex

/-!
# What reading and writing keep

A read takes bytes off the front of what has arrived, a write puts bytes behind what was accepted,
and what the peer does adds bytes behind what has arrived. So the bytes of one way through are
always, in order, those accepted, those in hand and those not read.

* `Source.unread_await`: what a read returns and what it leaves are what there was;
* `Sink.delivered_push`: what a write adds to what was accepted and what it leaves are what was
  offered; `Sink.delivered_push_error`: a write that fails adds nothing; `Sink.Blocks`: when it waits;
* `PeerAction.sent`, `Duplex.unread_act`: the peer adds what it sends and takes nothing away.

NOT here: which of the waiting parties goes on first.
-/

namespace TrafficRouter

/-! ## 1. Sources -/

/-- The bytes that a reading brings. -/
def Reading.content : Reading → Bytes
  | .bytes b => b
  | .failed _ | .timedOut => []

namespace Source

/-- **What a read returns and what it leaves are what there was.** -/
theorem unread_read {max : Nat} {s s' : Source} {reading : Reading}
    (h : s.read max = (some reading, s')) : reading.content ++ s'.unread = s.unread := by
  unfold read at h
  split at h
  · next piece pieces hp =>
    simp only [Prod.mk.injEq, Option.some.injEq] at h
    obtain ⟨rfl, rfl⟩ := h
    unfold unread
    rw [hp]
    by_cases hd : (piece.drop max).isEmpty
    · have hle : piece.length ≤ max := by simpa using hd
      simp [hd, Reading.content, List.take_of_length_le hle]
    · simp [hd, Reading.content, ← List.append_assoc]
  · next hp =>
    split at h
    · simp at h
    · simp only [Prod.mk.injEq, Option.some.injEq] at h
      obtain ⟨rfl, rfl⟩ := h
      rfl
    · simp only [Prod.mk.injEq, Option.some.injEq] at h
      obtain ⟨rfl, rfl⟩ := h
      rfl

/-- A read returns no more than it may. -/
theorem length_read_le {max : Nat} {s s' : Source} {bytes : Bytes}
    (h : s.read max = (some (.bytes bytes), s')) : bytes.length ≤ max := by
  unfold read at h
  split at h
  · simp only [Prod.mk.injEq, Option.some.injEq, Reading.bytes.injEq] at h
    rw [← h.1, List.length_take]
    exact Nat.min_le_left _ _
  · split at h
    · simp at h
    · simp only [Prod.mk.injEq, Option.some.injEq, Reading.bytes.injEq] at h
      rw [← h.1]
      exact Nat.zero_le _
    · simp at h

/-- A read that has to wait leaves the source as it is. -/
theorem read_eq_none {max : Nat} {s s' : Source} (h : s.read max = (none, s')) : s' = s := by
  unfold read at h
  split at h
  · simp at h
  · split at h <;> simp_all

theorem await_of_read {max now deadline : Nat} {s s' : Source} {reading : Reading}
    (h : s.read max = (some reading, s')) : s.await max now deadline = (some reading, s') := by
  unfold await
  rw [h]

theorem await_of_wait {max now deadline : Nat} {s s' : Source} (h : s.read max = (none, s')) :
    s.await max now deadline = (if deadline ≤ now then some .timedOut else none, s') := by
  unfold await
  rw [h]

/-- A read with a limit on the wait leaves what a read leaves. -/
theorem source_of_await {max now deadline : Nat} {s s' : Source} {reading : Option Reading}
    (h : s.await max now deadline = (reading, s')) : s' = (s.read max).2 := by
  rcases hr : s.read max with ⟨_ | found, s''⟩
  · rw [await_of_wait hr] at h
    exact (Prod.mk.inj h).2.symm
  · rw [await_of_read hr] at h
    exact (Prod.mk.inj h).2.symm

/-- A read with a limit on the wait is a read, or comes too late. -/
theorem await_cases {max now deadline : Nat} {s s' : Source} {reading : Reading}
    (h : s.await max now deadline = (some reading, s')) :
    s.read max = (some reading, s') ∨ (s.read max).1 = none ∧ reading = .timedOut ∧ s' = s := by
  rcases hr : s.read max with ⟨_ | found, s''⟩
  · rw [await_of_wait hr] at h
    right
    split at h
    · simp only [Prod.mk.injEq, Option.some.injEq] at h
      exact ⟨rfl, h.1.symm, h.2.symm.trans (read_eq_none hr)⟩
    · simp at h
  · rw [await_of_read hr] at h
    exact Or.inl h

/-- **What a read with a limit on the wait returns and what it leaves are what there was.** -/
theorem unread_await {max now deadline : Nat} {s s' : Source} {reading : Reading}
    (h : s.await max now deadline = (some reading, s')) :
    reading.content ++ s'.unread = s.unread := by
  rcases await_cases h with hr | ⟨-, rfl, rfl⟩
  · exact unread_read hr
  · rfl

/-- A read with a limit on the wait returns no more than it may. -/
theorem length_await_le {max now deadline : Nat} {s s' : Source} {bytes : Bytes}
    (h : s.await max now deadline = (some (.bytes bytes), s')) : bytes.length ≤ max := by
  rcases await_cases h with hr | ⟨-, e, -⟩
  · exact length_read_le hr
  · cases e

/-- **A read comes to what the source has**, or comes too late where there is nothing at its deadline
or later. -/
theorem await_eq_some_iff {max now deadline : Nat} {s : Source} {reading : Reading} :
    (s.await max now deadline).1 = some reading ↔
      (s.read max).1 = some reading ∨
        (s.read max).1 = none ∧ reading = .timedOut ∧ deadline ≤ now := by
  rcases hr : s.read max with ⟨_ | found, s'⟩
  · rw [await_of_wait hr]
    by_cases hd : deadline ≤ now <;> simp [hd, eq_comm]
  · simp [await_of_read hr]

@[simp] theorem unread_arrive (s : Source) (piece : Bytes) :
    (s.arrive piece).unread = s.unread ++ piece := by
  unfold arrive
  split
  · next h => simp [List.isEmpty_iff.mp h]
  · simp [unread]

@[simp] theorem unread_flow (s : Source) (bytes : Bytes) :
    (s.flow bytes).unread = s.unread ++ bytes := by
  unfold flow
  split
  · exact unread_arrive s bytes
  · next hne =>
    have hs : s.pieces ≠ [] := fun e => hne e
    obtain ⟨front, last, e⟩ : ∃ front last, s.pieces = front ++ [last] :=
      ⟨_, _, (List.dropLast_concat_getLast hs).symm⟩
    simp [unread, e]

@[simp] theorem unread_finish (s : Source) (ending : Ending) :
    (s.finish ending).unread = s.unread := by
  unfold finish
  split <;> rfl

/-- **A source whose pieces all hold bytes**, as those that arrive do. -/
def Solid (s : Source) : Prop := ∀ piece ∈ s.pieces, piece ≠ []

theorem Solid.read {max : Nat} {s s' : Source} {reading : Option Reading} (h : s.Solid)
    (hr : s.read max = (reading, s')) : s'.Solid := by
  unfold Source.read at hr
  split at hr
  · next piece pieces hp =>
    simp only [Prod.mk.injEq] at hr
    rw [← hr.2]
    unfold Solid at h ⊢
    rw [hp] at h
    by_cases hd : (piece.drop max).isEmpty
    · rw [if_pos hd]
      exact fun q hq => h q (List.mem_cons_of_mem _ hq)
    · rw [if_neg hd]
      intro q hq
      rcases List.mem_cons.mp hq with rfl | hq
      · exact fun e => hd (List.isEmpty_iff.mpr e)
      · exact h q (List.mem_cons_of_mem _ hq)
  · split at hr <;> rw [← (Prod.mk.inj hr).2] <;> exact h

theorem Solid.arrive {s : Source} (h : s.Solid) (piece : Bytes) : (s.arrive piece).Solid := by
  unfold Source.arrive
  split
  · exact h
  · next hne =>
    intro q hq
    rcases List.mem_append.mp hq with hq | hq
    · exact h q hq
    · rw [List.mem_singleton.mp hq]
      exact fun e => hne (List.isEmpty_iff.mpr e)

theorem Solid.flow {s : Source} (h : s.Solid) (bytes : Bytes) : (s.flow bytes).Solid := by
  unfold Source.flow
  split
  · exact h.arrive bytes
  · next hne =>
    have hs : s.pieces ≠ [] := fun e => hne e
    intro q hq
    rcases List.mem_append.mp hq with hq | hq
    · exact h q ((List.dropLast_sublist _).mem hq)
    · -- the last piece held bytes before any ran into it
      rw [List.mem_singleton.mp hq, List.getLastD_eq_getLast?, List.getLast?_eq_some_getLast hs]
      exact fun e => h _ (List.getLast_mem hs) (List.append_eq_nil_iff.mp e).1

theorem Solid.finish {s : Source} (h : s.Solid) (ending : Ending) : (s.finish ending).Solid := by
  unfold Source.finish
  split <;> exact h

/-- **What has arrived is read**, where there is room for it. -/
theorem Solid.read_bytes {max : Nat} {s : Source} (h : s.Solid) (hmax : 1 ≤ max)
    (hne : s.unread ≠ []) :
    ∃ chunk s', chunk ≠ [] ∧ s.read max = (some (.bytes chunk), s') := by
  cases hp : s.pieces with
  | nil => exact absurd (show s.unread = [] by unfold unread; rw [hp]; rfl) hne
  | cons piece pieces =>
    have hpiece : piece ≠ [] := h piece (by rw [hp]; exact List.mem_cons_self)
    refine ⟨piece.take max, _, ?_, by unfold Source.read; rw [hp]⟩
    rw [Ne, List.take_eq_nil_iff]
    rintro (hzero | hnil)
    · omega
    · exact hpiece hnil

/-- A read with a limit on the wait brings bytes where some have arrived. -/
theorem Solid.await_bytes {max now deadline : Nat} {s s' : Source} {reading : Option Reading}
    (h : s.Solid) (hmax : 1 ≤ max) (hne : s.unread ≠ [])
    (ha : s.await max now deadline = (reading, s')) :
    ∃ chunk, chunk ≠ [] ∧ reading = some (.bytes chunk) := by
  obtain ⟨chunk, s'', hchunk, hr⟩ := h.read_bytes hmax hne
  rw [await_of_read hr] at ha
  exact ⟨chunk, hchunk, (Prod.mk.inj ha).1.symm⟩

/-- **A read finds nothing only behind all bytes**, where the source is closed. -/
theorem Solid.read_nil {max : Nat} {s s' : Source} (h : s.Solid) (hmax : 1 ≤ max)
    (hr : s.read max = (some (.bytes []), s')) :
    s.unread = [] ∧ s.ending = some .closed := by
  unfold Source.read at hr
  split at hr
  · next piece pieces hp =>
    simp only [Prod.mk.injEq, Option.some.injEq, Reading.bytes.injEq, List.take_eq_nil_iff] at hr
    rcases hr.1 with e | e
    · omega
    · exact absurd e (h piece (by rw [hp]; exact List.mem_cons_self))
  · next hp =>
    refine ⟨by unfold unread; rw [hp]; rfl, ?_⟩
    split at hr
    · simp at hr
    · assumption
    · simp at hr

end Source

/-! ## 2. Sinks -/

namespace Sink

/-- **What a write adds and what it leaves are what was offered.** -/
theorem delivered_push {s s' : Sink} {bytes rest : Bytes}
    (h : s.push bytes = (some (.ok rest), s')) :
    ∃ accepted, s'.delivered = s.delivered ++ accepted ∧ accepted ++ rest = bytes ∧
      s'.isShutdown = s.isShutdown := by
  unfold push write at h
  by_cases hb : s.budget = some 0
  · rw [if_pos hb] at h
    cases he : s.exhausted <;> simp [he] at h
  · rw [if_neg hb] at h
    cases hc : s.room bytes.length with
    | zero => simp [hc] at h
    | succ n =>
        simp only [hc, Prod.mk.injEq, Option.some.injEq, Except.ok.injEq] at h
        obtain ⟨rfl, rfl⟩ := h
        exact ⟨_, delivered_accept s (n + 1) bytes, List.take_append_drop (n + 1) bytes, rfl⟩

/-- **A write that fails adds nothing.** -/
theorem delivered_push_error {s s' : Sink} {bytes : Bytes} {fault : IoFault}
    (h : s.push bytes = (some (.error fault), s')) :
    s'.delivered = s.delivered ∧ s'.isShutdown = s.isShutdown := by
  unfold push write at h
  by_cases hb : s.budget = some 0
  · rw [if_pos hb] at h
    cases he : s.exhausted <;> simp [he] at h <;> simp [← h.2]
  · rw [if_neg hb] at h
    cases hc : s.room bytes.length with
    | zero =>
        simp only [hc, Prod.mk.injEq] at h
        rw [← h.2]
        exact ⟨by simp, rfl⟩
    | succ n => simp [hc] at h

/-- **A writer has to wait** at a sink that accepts nothing for now and says nothing of it. -/
def Blocks (s : Sink) : Prop := s.budget = some 0 ∧ s.exhausted = .block

theorem push_eq_none_iff (s : Sink) (bytes : Bytes) : (s.push bytes).1 = none ↔ s.Blocks := by
  unfold push write Blocks
  by_cases hb : s.budget = some 0
  · rw [if_pos hb]
    cases he : s.exhausted <;> simp [hb]
  · rw [if_neg hb]
    cases s.room bytes.length <;> simp [hb]

end Sink

/-! ## 3. What the peer does -/

/-- The bytes that an action of the peer adds to what has arrived. -/
def PeerAction.sent : PeerAction → Bytes
  | .send bytes | .flow bytes => bytes
  | .finish | .fail _ | .leave _ | .allow _ | .govern .. => []

namespace Duplex

/-- **The peer adds what it sends and takes nothing away.** -/
@[simp] theorem unread_act (d : Duplex) (action : PeerAction) :
    (d.act action).source.unread = d.source.unread ++ action.sent := by
  cases action <;> simp [act, PeerAction.sent]

/-- The peer does not change what it has been given. -/
@[simp] theorem delivered_act (d : Duplex) (action : PeerAction) :
    (d.act action).sink.delivered = d.sink.delivered := by
  cases action <;> rfl

@[simp] theorem isShutdown_act (d : Duplex) (action : PeerAction) :
    (d.act action).sink.isShutdown = d.sink.isShutdown := by
  cases action <;> rfl

@[simp] theorem hold_act (d : Duplex) (action : PeerAction) : (d.act action).hold = d.hold := by
  cases action <;> rfl

theorem solid_act (d : Duplex) (action : PeerAction) (h : d.source.Solid) :
    (d.act action).source.Solid := by
  cases action with
  | send bytes => exact h.arrive bytes
  | flow bytes => exact h.flow bytes
  | finish => exact h.finish .closed
  | fail fault => exact h.finish (.failed fault)
  | leave ending => exact h.finish ending
  | allow | govern => exact h

/-- What is let go of is not held. -/
theorem hold_release_ne_held (d : Duplex) : d.release.hold ≠ .held := by
  unfold release
  split
  · exact Hold.noConfusion
  · assumption

/-- A connection that was never made is not let go of either. -/
@[simp] theorem hold_release_eq_absent (d : Duplex) :
    d.release.hold = .absent ↔ d.hold = .absent := by
  unfold release
  cases d.hold <;> simp

end Duplex

end TrafficRouter
