import TrafficRouter.Proofs.Gateway.Response

/-!
# One answer

An exchange decides once, writes the one answer of its verdict, closes, and ends. The answer counts
at the write that brings its last byte to the client, whatever becomes of the closing:

* `Undecided.step`: what leads to a verdict writes nothing to the client and counts no answer, and
  every verdict has an answer that is not empty;
* `Answering`: the invariant of every run, one case for each stage of the answer;
* `one_answer`: at every moment the client has a part of the one answer, and the count of answers
  says whether it has all of it.

NOT here: which verdict it is (`Response`, `Admission`).
-/

namespace TrafficRouter

open Http

/-! ## 1. Verdicts have answers -/

theorem Utf8.encode_cons_ne_nil (c : Char) (text : List Char) : encode (c :: text) ≠ [] := by
  unfold encode
  rw [List.flatMap_cons]
  intro h
  exact String.utf8EncodeChar_ne_nil (List.append_eq_nil_iff.mp h).1

theorem Http.LocalResponse.toBytes_ne_nil (r : LocalResponse) : r.toBytes ≠ [] := by
  intro h
  have hhead := (List.append_eq_nil_iff.mp h).1
  simp only [String.toList_append, List.append_assoc] at hhead
  exact Utf8.encode_cons_ne_nil 'H' _ hhead

theorem Verdict.answer_ofResult_ne_nil {limit : Nat} {reads : List Reading}
    {result : Except GatewayError Bytes} (h : Completion limit reads result) :
    (Verdict.ofResult result).answer ≠ [] := by
  cases result with
  | ok response => exact h.response_ne_nil
  | error e => exact LocalResponse.toBytes_ne_nil _

/-- The answer that a verdict calls for, and the status under which it counts. -/
inductive Verdict.AnsweredBy : Verdict → Bytes → Nat → Prop where
  | rejected (rejection : Rejection) :
      AnsweredBy (.rejected rejection) LocalResponse.notFound.toBytes 404
  | failed (error : GatewayError) :
      AnsweredBy (.failed error) LocalResponse.internalServerError.toBytes 500
  | forwarded {response : Bytes} {status : Nat} (h : statusCode? response = some status) :
      AnsweredBy (.forwarded response) response status
  | unknown {response : Bytes} (h : statusCode? response = none) :
      AnsweredBy (.forwarded response) response 0

theorem Verdict.answeredBy (verdict : Verdict) :
    verdict.AnsweredBy verdict.answer verdict.status := by
  cases verdict with
  | rejected rejection => exact .rejected rejection
  | failed error => exact .failed error
  | forwarded response =>
    show AnsweredBy (.forwarded response) response ((statusCode? response).getD 0)
    cases h : statusCode? response with
    | none => exact .unknown h
    | some status => exact .forwarded h

/-! ## 2. Before the verdict -/

/-- What is collected is an open response, while something is. -/
def Exchange.Sound (limit : Nat) : Exchange → Prop
  | .collecting buffer framing _ => ∃ chunks, Open limit chunks ∧
      buffer = .whole limit chunks.flatten ∧ framingOf chunks.flatten = .ok framing
  | .intake .. | .dialling .. | .sending _ | .answering .. | .closing _ | .ended _ => True

/-- The exchange has not come to a verdict. -/
structure Undecided (g : GatewaySettings) (x : Exchange) : Prop where
  isDecided : x.isDecided = false
  sound : x.Sound g.maxMessage

/-- The exchange has just come to a verdict that has an answer. -/
def Decides (x : Exchange) : Prop :=
  ∃ verdict, x = .answer verdict ∧ verdict.answer ≠ []

theorem ofIntake_undecided (g : GatewaySettings) (now : Nat) (i : Intake) :
    Undecided g (.ofIntake g now i) ∨ Decides (.ofIntake g now i) := by
  rcases Exchange.ofIntake_cases g now i with ⟨_, _, e⟩ | ⟨_, _, e⟩ | ⟨_, e⟩ <;> rw [e]
  · exact Or.inl ⟨rfl, trivial⟩
  · exact Or.inl ⟨rfl, trivial⟩
  · exact Or.inr ⟨_, rfl, LocalResponse.toBytes_ne_nil _⟩

theorem sent_undecided (g : GatewaySettings) (now : Nat) (rest : Bytes) :
    Undecided g (.sent g now rest) := by
  rcases Exchange.sent_cases g now rest with ⟨-, e⟩ | e <;> rw [e]
  · exact ⟨rfl, [], .nil _, rfl, rfl⟩
  · exact ⟨rfl, trivial⟩

/-- **What leads to a verdict** leaves the client's side as it is and counts no answer. -/
theorem Undecided.step {g : GatewaySettings} {now : Nat} {dial : Option DialAnswer}
    {x x' : Exchange} {w w' : Wires} {ledger : Ledger} (hx : Undecided g x)
    (h : Exchange.Step g now dial x w x' w' ledger) :
    w'.client.sink = w.client.sink ∧
      (∀ status, ledger.total (.httpResponses status) = 0) ∧ (Undecided g x' ∨ Decides x') := by
  cases h with
  | read h => exact ⟨rfl, fun _ => rfl, ofIntake_undecided g now _⟩
  | connected h => exact ⟨rfl, fun _ => rfl, Or.inl ⟨rfl, trivial⟩⟩
  | refused h => exact ⟨rfl, fun _ => rfl, Or.inr ⟨_, rfl, LocalResponse.toBytes_ne_nil _⟩⟩
  | unanswered h hd => exact ⟨rfl, fun _ => rfl, Or.inr ⟨_, rfl, LocalResponse.toBytes_ne_nil _⟩⟩
  | sentNothing => exact ⟨rfl, fun _ => rfl, Or.inl (sent_undecided g now _)⟩
  | sendFault h => exact ⟨rfl, fun _ => rfl, Or.inr ⟨_, rfl, LocalResponse.toBytes_ne_nil _⟩⟩
  | sent h => exact ⟨rfl, fun _ => rfl, Or.inl (sent_undecided g now _)⟩
  | collect h =>
    rename_i reading source
    obtain ⟨chunks, hopen, rfl, hf⟩ := hx.sound
    refine ⟨?_, fun _ => rfl, ?_⟩
    · unfold Exchange.keepBackend
      split <;> rfl
    · rcases hopen.feed_cases hf reading with ⟨chunk, f, -, hopen', hf', hfeed⟩ | ⟨result, hc, hfeed⟩
      · rw [hfeed]
        exact Or.inl ⟨rfl, _, hopen', rfl, hf'⟩
      · rw [hfeed, Exchange.ofCollection_ofResult]
        exact Or.inr ⟨_, rfl, Verdict.answer_ofResult_ne_nil hc⟩
  | answeredNothing | answerFault | answered | closed | closeFault => cases hx.isDecided

/-! ## 3. The invariant -/

/-- Exactly one answer has been counted, under the given status, or none. -/
def AnswerCounted (status? : Option Nat) (ledger : Ledger) : Prop :=
  ∀ status, ledger.total (.httpResponses status) = if status? = some status then 1 else 0

theorem AnswerCounted.append_of_zero {status? : Option Nat} {ledger more : Ledger}
    (h : AnswerCounted status? ledger) (hz : ∀ status, more.total (.httpResponses status) = 0) :
    AnswerCounted status? (ledger ++ more) := fun status => by
  rw [Ledger.total_append, h status, hz status, Nat.add_zero]

theorem AnswerCounted.append_answer {ledger : Ledger} (h : AnswerCounted none ledger)
    (status : Nat) : AnswerCounted (some status) (ledger ++ [(.httpResponses status, 1)]) :=
  fun status' => by
    rw [Ledger.total_append, h status', if_neg (by simp), Nat.zero_add]
    by_cases e : status = status'
    · simp [Ledger.total, e]
    · simp [Ledger.total, e]

/-- What the client has of an answer of which `rest` is still to be written, and whether its writing
was ended. -/
structure Handed (client : Duplex) (r : ExchangeRun) (verdict : Verdict) (rest : Bytes)
    (closed : Bool) : Prop where
  delivered : ∃ accepted, r.wires.client.sink.delivered = client.sink.delivered ++ accepted ∧
    accepted ++ rest = verdict.answer
  isShutdown : r.wires.client.sink.isShutdown = (closed || client.sink.isShutdown)
  whole_of_closed : closed = true → rest = []
  counted : AnswerCounted (if rest = [] then some verdict.status else none) r.ledger

/-- **The invariant of the answer**, one case for each stage of it. -/
inductive Answering (client : Duplex) (w : Watched) : Prop where
  | undecided (hx : Undecided w.state.settings w.state.exchange) (hv : w.notes.verdicts = [])
      (delivered : w.state.wires.client.sink.delivered = client.sink.delivered)
      (isShutdown : w.state.wires.client.sink.isShutdown = client.sink.isShutdown)
      (counted : AnswerCounted none w.state.ledger)
  | answering {verdict : Verdict} {rest : Bytes} (hx : w.state.exchange = .answering rest verdict)
      (hne : rest ≠ []) (hv : w.notes.verdicts = [verdict])
      (h : Handed client w.state verdict rest false)
  | closing {verdict : Verdict} (hx : w.state.exchange = .closing verdict)
      (hv : w.notes.verdicts = [verdict]) (h : Handed client w.state verdict [] false)
  | ended {verdict : Verdict} (hx : w.state.exchange = .ended (.ok verdict))
      (hv : w.notes.verdicts = [verdict]) (h : Handed client w.state verdict [] true)
  | failed {verdict : Verdict} {fault : IoFault} {rest : Bytes} {closed : Bool}
      (hx : w.state.exchange = .ended (.error fault)) (hv : w.notes.verdicts = [verdict])
      (h : Handed client w.state verdict rest closed)

/-- An exchange that has just decided has all of its answer still to write. -/
theorem answering_of_decides {client : Duplex} {w : Watched} (hx : Decides w.state.exchange)
    (hv : w.notes.verdicts = w.state.exchange.verdict?.toList)
    (delivered : w.state.wires.client.sink.delivered = client.sink.delivered)
    (isShutdown : w.state.wires.client.sink.isShutdown = client.sink.isShutdown)
    (counted : AnswerCounted none w.state.ledger) : Answering client w := by
  obtain ⟨verdict, hx, hne⟩ := hx
  rw [hx] at hv
  refine .answering hx hne hv ⟨⟨[], ?_, rfl⟩, isShutdown, Bool.noConfusion, ?_⟩
  · rw [delivered, List.append_nil]
  · rw [if_neg hne]
    exact counted

theorem Undecided.verdict?_eq {g : GatewaySettings} {x : Exchange} (h : Undecided g x) :
    x.verdict? = none := by
  have hd := h.isDecided
  cases x with
  | answering | closing | ended => cases hd
  | intake | dialling | sending | collecting => rfl

theorem answering_begin (g : GatewaySettings) (initial : Bytes) (client : Duplex) :
    Answering client (.begin (.start g initial client)) := by
  rcases ofIntake_undecided g 0 (Intake.start g.maxMessage initial) with h | h
  · refine .undecided h ?_ rfl rfl fun status => rfl
    show (Exchange.ofIntake g 0 (Intake.start g.maxMessage initial)).verdict?.toList = []
    rw [h.verdict?_eq]
    rfl
  · exact answering_of_decides h rfl rfl rfl fun status => rfl

/-! ## 4. The world and the steps keep it -/

theorem Handed.outside {client : Duplex} {r s : ExchangeRun} {verdict : Verdict} {rest : Bytes}
    {closed : Bool} (h : Handed client r verdict rest closed) (ho : ExchangeRun.Outside r s) :
    Handed client s verdict rest closed where
  delivered := by
    rw [ho.clientDelivered]
    exact h.delivered
  isShutdown := ho.clientShutdown.trans h.isShutdown
  whole_of_closed := h.whole_of_closed
  counted := by
    rw [ho.ledger]
    exact h.counted

theorem answering_outside {client : Duplex} (w : Watched) (r : ExchangeRun)
    (ho : ExchangeRun.Outside w.state r) (h : Answering client w) :
    Answering client ⟨r, w.notes⟩ := by
  cases h with
  | undecided hx hv delivered isShutdown counted =>
    refine .undecided ?_ hv (ho.clientDelivered.trans delivered)
      (ho.clientShutdown.trans isShutdown) ?_
    · show Undecided r.settings r.exchange
      rw [ho.settings, ho.exchange]
      exact hx
    · show AnswerCounted none r.ledger
      rw [ho.ledger]
      exact counted
  | answering hx hne hv h => exact .answering (ho.exchange.trans hx) hne hv (h.outside ho)
  | closing hx hv h => exact .closing (ho.exchange.trans hx) hv (h.outside ho)
  | ended hx hv h => exact .ended (ho.exchange.trans hx) hv (h.outside ho)
  | failed hx hv h => exact .failed (ho.exchange.trans hx) hv (h.outside ho)

/-- A step of an exchange that has not decided leaves it so, or decides. -/
theorem answering_step_undecided {client : Duplex} {w : Watched} {s : ExchangeRun}
    (hs : w.state.step = some s) (hx : Undecided w.state.settings w.state.exchange)
    (hv : w.notes.verdicts = [])
    (delivered : w.state.wires.client.sink.delivered = client.sink.delivered)
    (isShutdown : w.state.wires.client.sink.isShutdown = client.sink.isShutdown)
    (counted : AnswerCounted none w.state.ledger) :
    Answering client ⟨s, w.notes.after w.state s⟩ := by
  obtain ⟨ledger, hstep, hset, -, hledger⟩ := ExchangeRun.step_cases hs
  obtain ⟨hsink, hzero, hnext⟩ := hx.step hstep
  have hverdicts := w.notes.verdicts_after (s := s) hx.verdict?_eq hv
  have hdelivered : s.wires.client.sink.delivered = client.sink.delivered := by
    rw [hsink, delivered]
  have hisShutdown : s.wires.client.sink.isShutdown = client.sink.isShutdown := by
    rw [hsink, isShutdown]
  have hcounted : AnswerCounted none s.ledger := by
    rw [hledger]
    exact counted.append_of_zero hzero
  rcases hnext with hnext | hnext
  · refine .undecided ?_ ?_ hdelivered hisShutdown hcounted
    · show Undecided s.settings s.exchange
      rw [hset]
      exact hnext
    · show (w.notes.after w.state s).verdicts = []
      rw [hverdicts, hnext.verdict?_eq]
      rfl
  · exact answering_of_decides hnext hverdicts hdelivered hisShutdown hcounted

/-- A write of the answer takes a part of it to the client, or all of it and counts it, or fails and
changes nothing. -/
theorem answering_step_write {client : Duplex} {w : Watched} {s : ExchangeRun}
    {verdict : Verdict} {rest : Bytes} (hs : w.state.step = some s)
    (hx : w.state.exchange = .answering rest verdict) (hne : rest ≠ [])
    (hv : (w.notes.after w.state s).verdicts = [verdict])
    (h : Handed client w.state verdict rest false) :
    Answering client ⟨s, w.notes.after w.state s⟩ := by
  obtain ⟨ledger, hstep, -, -, hledger⟩ := ExchangeRun.step_cases hs
  have huncounted := h.counted
  rw [if_neg hne] at huncounted
  rw [hx] at hstep
  generalize hx' : s.exchange = x' at hstep
  generalize hw' : s.wires = wires at hstep
  cases hstep with
  | answeredNothing => exact absurd rfl hne
  | answerFault hp =>
    obtain ⟨hd, hc⟩ := Sink.delivered_push_error hp
    obtain ⟨accepted, ha, hrest⟩ := h.delivered
    have hhanded : Handed client s verdict rest false := by
      refine ⟨⟨accepted, ?_, hrest⟩, ?_, Bool.noConfusion, ?_⟩
      · rw [hw', ← ha]
        exact hd
      · rw [hw', ← h.isShutdown]
        exact hc
      · rw [if_neg hne, hledger]
        exact huncounted.append_of_zero fun _ => rfl
    exact .failed hx' hv hhanded
  | answered hp =>
    rename_i rest' sink
    obtain ⟨more, hd, hmore, hc⟩ := Sink.delivered_push hp
    have hdelivered : ∃ accepted,
        s.wires.client.sink.delivered = client.sink.delivered ++ accepted ∧
          accepted ++ rest' = verdict.answer := by
      obtain ⟨accepted, ha, hrest⟩ := h.delivered
      refine ⟨accepted ++ more, ?_, ?_⟩
      · rw [hw', ← List.append_assoc, ← ha]
        exact hd
      · rw [List.append_assoc, hmore, hrest]
    have hisShutdown : s.wires.client.sink.isShutdown = (false || client.sink.isShutdown) := by
      rw [hw', ← h.isShutdown]
      exact hc
    unfold Exchange.written at hx' hledger
    by_cases hr : rest' = []
    · -- the last byte is written, and the answer counts
      subst hr
      refine .closing hx' hv ⟨hdelivered, hisShutdown, Bool.noConfusion, ?_⟩
      rw [if_pos rfl, hledger]
      exact huncounted.append_answer _
    · rw [if_neg (fun e => hr (List.isEmpty_iff.mp e))] at hx' hledger
      refine .answering hx' hr hv ⟨hdelivered, hisShutdown, Bool.noConfusion, ?_⟩
      rw [if_neg hr, hledger]
      exact huncounted.append_of_zero fun _ => rfl

/-- The writing is ended behind all of the answer, whether or not that fails. -/
theorem answering_step_close {client : Duplex} {w : Watched} {s : ExchangeRun}
    {verdict : Verdict} (hs : w.state.step = some s) (hx : w.state.exchange = .closing verdict)
    (hv : (w.notes.after w.state s).verdicts = [verdict])
    (h : Handed client w.state verdict [] false) :
    Answering client ⟨s, w.notes.after w.state s⟩ := by
  obtain ⟨ledger, hstep, -, -, hledger⟩ := ExchangeRun.step_cases hs
  have hhanded (hw : s.wires =
      (w.state.wires.toClient w.state.wires.client.sink.shutdown).release) (hl : ledger = []) :
      Handed client s verdict [] true := by
    refine ⟨?_, ?_, fun _ => rfl, ?_⟩
    · rw [hw]
      exact h.delivered
    · rw [hw]
      rfl
    · rw [hledger, hl, List.append_nil]
      exact h.counted
  rw [hx] at hstep
  generalize hx' : s.exchange = x' at hstep
  generalize hw' : s.wires = wires at hstep
  cases hstep with
  | closed hsd => exact .ended hx' hv (hhanded hw' rfl)
  | closeFault hsd => exact .failed hx' hv (hhanded hw' rfl)

theorem answering_step {client : Duplex} (w : Watched) (s : ExchangeRun)
    (hs : w.state.step = some s) (h : Answering client w) :
    Answering client ⟨s, w.notes.after w.state s⟩ := by
  have hnotes (hx : w.state.exchange.isDecided = true) :
      (w.notes.after w.state s).verdicts = w.notes.verdicts := by
    rw [(w.notes.after_of_isDecided hs hx).1]
  cases h with
  | undecided hx hv delivered isShutdown counted =>
    exact answering_step_undecided hs hx hv delivered isShutdown counted
  | answering hx hne hv h =>
    exact answering_step_write hs hx hne ((hnotes (by rw [hx]; rfl)).trans hv) h
  | closing hx hv h => exact answering_step_close hs hx ((hnotes (by rw [hx]; rfl)).trans hv) h
  | ended hx hv h | failed hx hv h =>
    obtain ⟨ledger, hstep, -⟩ := ExchangeRun.step_cases hs
    rw [hx] at hstep
    cases hstep

/-- **The invariant at every moment.** -/
theorem answering_run (g : GatewaySettings) (initial : Bytes) (client : Duplex)
    (labels : List ExchangeLabel) :
    Answering client ((Watched.begin (.start g initial client)).run labels) :=
  Watched.run_induct answering_outside answering_step (answering_begin g initial client) labels

/-! ## 5. The answer at every moment -/

/-- What a client that has some of an answer has of it, and what was counted. -/
theorem Handed.summary {client : Duplex} {r : ExchangeRun} {verdict : Verdict} {rest : Bytes}
    {closed : Bool} (h : Handed client r verdict rest closed) :
    ∃ accepted, r.wires.client.sink.delivered = client.sink.delivered ++ accepted ∧
      accepted <+: verdict.answer ∧
      (r.wires.client.sink.isShutdown = true →
        client.sink.isShutdown = true ∨ accepted = verdict.answer) ∧
      (rest = [] → accepted = verdict.answer) ∧
      ∀ status, r.ledger.total (.httpResponses status) =
        if accepted = verdict.answer ∧ status = verdict.status then 1 else 0 := by
  obtain ⟨accepted, ha, hrest⟩ := h.delivered
  have hwhole : accepted = verdict.answer ↔ rest = [] := by
    rw [← hrest]
    exact List.self_eq_append_right
  refine ⟨accepted, ha, ⟨rest, hrest⟩, fun hs => ?_, hwhole.mpr, fun status => ?_⟩
  · rw [h.isShutdown, Bool.or_eq_true] at hs
    exact hs.symm.imp id fun hc => hwhole.mpr (h.whole_of_closed hc)
  · rw [h.counted status]
    by_cases hr : rest = []
    · simp [hr, hwhole.mpr hr, eq_comm]
    · simp [hr, mt hwhole.mp hr]

/-- A decided exchange has handed some of the answer of its one verdict, and all of it at a good
end. -/
theorem Answering.handed {client : Duplex} {w : Watched} (h : Answering client w) :
    Undecided w.state.settings w.state.exchange ∧ w.notes.verdicts = [] ∧
        w.state.wires.client.sink.delivered = client.sink.delivered ∧
        w.state.wires.client.sink.isShutdown = client.sink.isShutdown ∧
        AnswerCounted none w.state.ledger ∨
      ∃ verdict rest closed, w.notes.verdicts = [verdict] ∧
        Handed client w.state verdict rest closed ∧
        ∀ v, w.state.exchange = .ended (.ok v) → v = verdict ∧ rest = [] ∧ closed = true := by
  cases h with
  | undecided hx hv delivered isShutdown counted =>
    exact Or.inl ⟨hx, hv, delivered, isShutdown, counted⟩
  | answering hx hne hv h =>
    exact Or.inr ⟨_, _, _, hv, h, fun v e => by rw [hx] at e; cases e⟩
  | closing hx hv h => exact Or.inr ⟨_, _, _, hv, h, fun v e => by rw [hx] at e; cases e⟩
  | ended hx hv h =>
    refine Or.inr ⟨_, _, _, hv, h, fun v e => ?_⟩
    rw [hx] at e
    cases e
    exact ⟨rfl, rfl, rfl⟩
  | failed hx hv h => exact Or.inr ⟨_, _, _, hv, h, fun v e => by rw [hx] at e; cases e⟩

/-- **One answer.** For every first chunk, everything that client and service do and every order of
steps, at every moment: the exchange goes on where what it waits for is there, so it does not keep an
answer that it could write; and either nothing is decided, and nothing was written, closed or counted; or
one verdict is, the client has accepted a beginning of the answer that it calls for, has seen the
writing end only behind all of it, and one answer is counted, under the verdict's status, if it has
all of it, and none otherwise. The exchange ends well only with all of the answer written and the
writing ended. -/
theorem one_answer (g : GatewaySettings) (initial : Bytes) (client : Duplex)
    (labels : List ExchangeLabel) :
    let w := (Watched.begin (.start g initial client)).run labels
    let sink := w.state.wires.client.sink
    (w.state.step.isSome = true ↔ w.state.Ready) ∧
    ((w.notes.verdicts = [] ∧ sink.delivered = client.sink.delivered ∧
        sink.isShutdown = client.sink.isShutdown ∧
        (∀ status, w.state.ledger.total (.httpResponses status) = 0) ∧
        ∀ result, w.state.exchange ≠ .ended result) ∨
      ∃ verdict answer label accepted, w.notes.verdicts = [verdict] ∧
        verdict.AnsweredBy answer label ∧
        sink.delivered = client.sink.delivered ++ accepted ∧ accepted <+: answer ∧
        (sink.isShutdown = true → client.sink.isShutdown = true ∨ accepted = answer) ∧
        (∀ v, w.state.exchange = .ended (.ok v) →
          v = verdict ∧ accepted = answer ∧ sink.isShutdown = true) ∧
        ∀ status, w.state.ledger.total (.httpResponses status) =
          if accepted = answer ∧ status = label then 1 else 0) := by
  intro w sink
  refine ⟨w.state.step_isSome_iff, ?_⟩
  have hw : Answering client w := answering_run g initial client labels
  rcases hw.handed with ⟨hx, hv, delivered, isShutdown, counted⟩ |
    ⟨verdict, rest, closed, hv, h, hended⟩
  · refine Or.inl ⟨hv, delivered, isShutdown, counted, fun result e => ?_⟩
    have hd := hx.isDecided
    rw [e] at hd
    cases hd
  · obtain ⟨accepted, ha, hprefix, hclosed, hwhole, hcounted⟩ := h.summary
    refine Or.inr ⟨verdict, _, _, accepted, hv, verdict.answeredBy, ha, hprefix, hclosed, fun v e => ?_,
      hcounted⟩
    obtain ⟨rfl, hrest, rfl⟩ := hended v e
    exact ⟨rfl, hwhole hrest, h.isShutdown⟩

end TrafficRouter
