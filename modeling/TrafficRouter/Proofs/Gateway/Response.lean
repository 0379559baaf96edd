import TrafficRouter.Proofs.Gateway.Completion
import TrafficRouter.Proofs.Gateway.Steps

/-!
# Receiving a response

An exchange whose request has been sent collects the response by the completion rule, at whatever
times the service's bytes, its close or its failure arrive and whenever the exchange is polled:

* `Receiving`: the invariant of such a run. The response is open, with a deadline that is the last
  move plus the wait that its framing asks for; or the rule has given a result and that was decided;
* `response_completion`: what was decided is exactly what the rule gives, and a read comes to
  nothing exactly after `responseIdle` without a byte where no length is declared and after
  `backendRead` where the head or the body is awaited.

NOT here: how the answer is written (`Answer`).
-/

namespace TrafficRouter

open Http

/-- The verdict on a request whose response had the given result. -/
def Verdict.ofResult : Except GatewayError Bytes → Verdict
  | .ok response => .forwarded response
  | .error e => .failed e

theorem Verdict.ofResult_injective {r s : Except GatewayError Bytes}
    (h : Verdict.ofResult r = .ofResult s) : r = s := by
  cases r <;> cases s <;> simp_all [Verdict.ofResult]

theorem Exchange.ofCollection_ofResult (g : GatewaySettings) (now : Nat)
    (result : Except GatewayError Bytes) :
    ofCollection g now (.ofResult result) = answer (.ofResult result) := by
  cases result <;> rfl

/-- The run at the moment at which all of its request has been sent. -/
def ExchangeRun.requestSent (r : ExchangeRun) : ExchangeRun :=
  { r with exchange := .sent r.settings r.now [] }

/-- The response is open: what its reads came to, and how long the next one may take. -/
structure StillOpen (g : GatewaySettings) (w : Watched) (chunks : List Bytes) (framing : Framing) :
    Prop where
  isOpen : Open g.maxMessage chunks
  reads : w.notes.serviceReads = chunks.map .bytes
  framing_eq : framingOf chunks.flatten = .ok framing
  exchange : w.state.exchange = .collecting (.whole g.maxMessage chunks.flatten) framing
    (w.notes.movedAt + Collection.patience g.backendRead g.responseIdle framing)
  undecided : w.notes.verdicts = []

/-- The response has come to its result. -/
structure Received (g : GatewaySettings) (w : Watched) (result : Except GatewayError Bytes) :
    Prop where
  completion : Completion g.maxMessage w.notes.serviceReads result
  verdict : w.notes.verdicts = [.ofResult result]
  isDecided : w.state.exchange.isDecided = true

/-- **The invariant of a run behind the sending of its request.** -/
structure Receiving (g : GatewaySettings) (w : Watched) : Prop where
  settings : w.state.settings = g
  standing : (∃ chunks framing, StillOpen g w chunks framing) ∨ ∃ result, Received g w result

theorem receiving_begin (r : ExchangeRun) : Receiving r.settings (.begin r.requestSent) where
  settings := rfl
  standing := Or.inl ⟨[], .awaitingHeaders, .nil _, rfl, rfl, rfl, rfl⟩

theorem receiving_outside {g : GatewaySettings} (w : Watched) (r : ExchangeRun)
    (ho : ExchangeRun.Outside w.state r) (h : Receiving g w) : Receiving g ⟨r, w.notes⟩ where
  settings := ho.settings.trans h.settings
  standing := by
    rcases h.standing with ⟨chunks, framing, hs⟩ | ⟨result, hr⟩
    · refine Or.inl ⟨chunks, framing, hs.isOpen, hs.reads, hs.framing_eq, ?_, hs.undecided⟩
      exact ho.exchange.trans hs.exchange
    · refine Or.inr ⟨result, hr.completion, hr.verdict, ?_⟩
      show r.exchange.isDecided = true
      rw [ho.exchange]
      exact hr.isDecided

/-- What one more read of an open response leads to. -/
theorem StillOpen.step {g : GatewaySettings} {w : Watched} {chunks : List Bytes}
    {framing : Framing} (h : StillOpen g w chunks framing) (hg : w.state.settings = g)
    {s : ExchangeRun} (hs : w.state.step = some s) :
    Receiving g ⟨s, w.notes.after w.state s⟩ := by
  obtain ⟨ledger, hstep, hset, -, -⟩ := ExchangeRun.step_cases hs
  rw [h.exchange, hg] at hstep
  generalize hx : s.exchange = x at hstep
  generalize hw : s.wires = wires at hstep
  cases hstep with
  | collect hread =>
    rename_i reading source
    have hnoted : w.state.serviceReading = some reading :=
      (ExchangeRun.serviceReading_of_collecting h.exchange).trans (congrArg Prod.fst hread)
    have hreads : (w.notes.after w.state s).serviceReads = chunks.map .bytes ++ [reading] := by
      rw [w.notes.serviceReads_after hnoted, h.reads]
    have hverdicts : (w.notes.after w.state s).verdicts = s.exchange.verdict?.toList :=
      w.notes.verdicts_after (by rw [h.exchange]; rfl) h.undecided
    refine ⟨hset.trans hg, ?_⟩
    rcases h.isOpen.feed_cases h.framing_eq reading with
      ⟨chunk, framing', rfl, hopen, hf', hfeed⟩ | ⟨result, hc, hfeed⟩
    · -- the chunk leaves the response open, and the wait begins anew with its framing
      rw [hfeed] at hx
      refine Or.inl ⟨chunks ++ [chunk], framing', hopen, ?_, hf', hx, ?_⟩
      · rw [hreads, List.map_append, List.map_singleton]
      · rw [hverdicts, hx]
        rfl
    · rw [hfeed, Exchange.ofCollection_ofResult] at hx
      refine Or.inr ⟨result, ?_, ?_, ?_⟩
      · rw [hreads]
        exact hc
      · rw [hverdicts, hx]
        rfl
      · show s.exchange.isDecided = true
        rw [hx]
        rfl

theorem receiving_step {g : GatewaySettings} (w : Watched) (s : ExchangeRun)
    (hs : w.state.step = some s) (h : Receiving g w) :
    Receiving g ⟨s, w.notes.after w.state s⟩ := by
  rcases h.standing with ⟨chunks, framing, ho⟩ | ⟨result, hr⟩
  · exact ho.step h.settings hs
  · obtain ⟨hnotes, hdecided⟩ := w.notes.after_of_isDecided hs hr.isDecided
    obtain ⟨ledger, -, hset, -⟩ := ExchangeRun.step_cases hs
    rw [hnotes]
    exact ⟨hset.trans h.settings, Or.inr ⟨result, hr.completion, hr.verdict, hdecided⟩⟩

/-- **The invariant at every moment.** -/
theorem receiving_run (r : ExchangeRun) (labels : List ExchangeLabel) :
    Receiving r.settings ((Watched.begin r.requestSent).run labels) :=
  Watched.run_induct receiving_outside receiving_step (receiving_begin r) labels

/-- A read of an open response is one of the connection, or nothing came in time. -/
theorem StillOpen.serviceReading_iff {g : GatewaySettings} {w : Watched} {chunks : List Bytes}
    {framing : Framing} (h : StillOpen g w chunks framing) (reading : Reading) :
    w.state.serviceReading = some reading ↔
      (w.state.wires.backend.source.read exchangeChunk).1 = some reading ∨
        (w.state.wires.backend.source.read exchangeChunk).1 = none ∧ reading = .timedOut ∧
          w.notes.movedAt + Collection.patience g.backendRead g.responseIdle framing ≤
            w.state.now := by
  rw [ExchangeRun.serviceReading_of_collecting h.exchange]
  exact Source.await_eq_some_iff

/-- **Receiving implements the completion rule.** Over any reads, collecting comes to a result exactly
where the rule gives it for the first so many of them, and else what came is a response that is still
open.

So it is in every run. From the moment at which the request has been sent, whatever happens in
whatever order, an exchange goes on where what it waits for is there and takes in what there is to
read; the verdict is the result that the rule gives for what the reads of the service came to, and
there is none while the rule gives none. Until then a read is what the connection has, or comes to
nothing once nothing was there for the wait of the state: the idle time where the head declares no
length, the read timeout where head or body are awaited. -/
theorem response_completion :
    (∀ (limit : Nat) (reads : List Reading),
      (∀ result, (Collection.start limit).run reads = .ofResult result ↔
          ∃ front, front <+: reads ∧ Completion limit front result) ∧
        ((∃ front result, front <+: reads ∧ Completion limit front result) ∨
          ∃ (chunks : List Bytes) (framing : Framing), reads = chunks.map .bytes ∧
            Open limit chunks ∧ (Collection.start limit).run reads =
              .reading (.whole limit chunks.flatten) framing)) ∧
    ∀ (r : ExchangeRun) (labels : List ExchangeLabel),
      let w := (Watched.begin r.requestSent).run labels
      (w.state.step.isSome = true ↔ w.state.Ready) ∧
        (∀ reading, w.state.serviceReading = some reading →
          (w.happen .step).notes.serviceReads = w.notes.serviceReads ++ [reading]) ∧
        (∀ result, Completion r.settings.maxMessage w.notes.serviceReads result ↔
          w.notes.verdicts = [.ofResult result]) ∧
        ((∀ result, ¬ Completion r.settings.maxMessage w.notes.serviceReads result) →
          w.notes.verdicts = [] ∧
          ∃ chunks wait, w.notes.serviceReads = chunks.map .bytes ∧
            Open r.settings.maxMessage chunks ∧
            (DeclaresNone chunks.flatten → wait = r.settings.responseIdle) ∧
            (Awaits chunks.flatten → wait = r.settings.backendRead) ∧
            ∀ reading, w.state.serviceReading = some reading ↔
              (w.state.wires.backend.source.read exchangeChunk).1 = some reading ∨
                (w.state.wires.backend.source.read exchangeChunk).1 = none ∧ reading = .timedOut ∧
                  w.notes.movedAt + wait ≤ w.state.now) := by
  refine ⟨fun limit reads => ⟨fun _ => run_eq_ofResult_iff, ?_⟩, fun r labels => ?_⟩
  · rcases open_or_completion limit reads with ⟨chunks, rfl, hopen⟩ | hc
    · obtain ⟨framing, hrun, -⟩ := hopen.run_eq
      exact Or.inr ⟨chunks, framing, rfl, hopen, hrun⟩
    · exact Or.inl hc
  intro w
  refine ⟨w.state.step_isSome_iff, fun _ => Watched.serviceReads_happen, ?_⟩
  have hw : Receiving r.settings w := receiving_run r labels
  rcases hw.standing with ⟨chunks, framing, ho⟩ | ⟨result, hr⟩
  · refine ⟨fun result => ⟨fun hc => ?_, fun hv => ?_⟩, fun _ => ⟨ho.undecided, ?_⟩⟩
    · rw [ho.reads] at hc
      exact absurd hc (ho.isOpen.not_completion result)
    · rw [ho.undecided] at hv
      cases hv
    · refine ⟨chunks, _, ho.reads, ho.isOpen, fun hnone => ?_, fun hawaits => ?_,
        ho.serviceReading_iff⟩
      · have hf := ho.framing_eq
        rw [framingOf_eq_unbounded_iff.mpr hnone, Except.ok.injEq] at hf
        rw [← hf]
        rfl
      · have hne := framing_ne_unbounded ho.framing_eq hawaits
        cases framing with
        | unbounded => exact absurd rfl hne
        | awaitingHeaders | awaitingBody | complete => rfl
  · refine ⟨fun result' => ⟨fun hc => ?_, fun hv => ?_⟩, fun hnone => ?_⟩
    · rw [hc.unique hr.completion]
      exact hr.verdict
    · rw [hr.verdict, List.cons.injEq] at hv
      rw [← Verdict.ofResult_injective hv.1]
      exact hr.completion
    · exact absurd hr.completion (hnone result)

end TrafficRouter
