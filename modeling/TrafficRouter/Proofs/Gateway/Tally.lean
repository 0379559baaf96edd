import TrafficRouter.Proofs.Gateway.Steps
import TrafficRouter.Proofs.Metrics

/-!
# What an exchange counts

Before its verdict an exchange counts nothing. With a verdict that says that the service could not
be connected to it counts that, and once all of the answer is written it counts the answer, each
once.

* `Verdict.counts`: what is counted of a verdict;
* `Exchange.Tally`: the invariant, by how far the exchange is; `Exchange.Step.tally`: every step
  keeps it;
* `Exchange.Tally.counts`: so what an exchange has counted is nothing, or what its verdict says.

NOT here: which bytes the client has (`Answer`).
-/

namespace TrafficRouter

open Http (MessageBuffer)

/-! ## 1. Verdicts -/

/-- Whether the service could not be connected to. -/
def GatewayError.isUnreached : GatewayError → Bool
  | .connectTimeout _ | .connect .. => true
  | .send _ | .receive _ | .receiveTimeout | .incomplete _ | .message _ => false

namespace Verdict

/-- Whether it was decided that the service could not be connected to. -/
def isUnreached : Verdict → Bool
  | .failed error => error.isUnreached
  | .rejected _ | .forwarded _ => false

/-- What is counted of a verdict, with its answer written or not yet. -/
def counts (written : Bool) (verdict : Verdict) : Ledger :=
  (if verdict.isUnreached then [(.connectFailures .httpLogin, 1)] else []) ++
    if written then [(.httpResponses verdict.status, 1)] else []

variable {verdict : Verdict} {written : Bool}

theorem counts_of_isUnreached (h : verdict.isUnreached = true) :
    verdict.counts false = [(.connectFailures .httpLogin, 1)] := by
  unfold counts
  rw [h]
  rfl

theorem counts_of_reached (h : verdict.isUnreached = false) : verdict.counts false = [] := by
  unfold counts
  rw [h]
  rfl

theorem counts_written (verdict : Verdict) :
    verdict.counts true = verdict.counts false ++ [(.httpResponses verdict.status, 1)] := by
  unfold counts
  rw [if_pos rfl, if_neg Bool.false_ne_true, List.append_nil]

/-- Without a connection it is an error that is answered. -/
theorem status_of_isUnreached (h : verdict.isUnreached = true) : verdict.status = 500 := by
  cases verdict with
  | failed error => rfl
  | rejected | forwarded => cases h

end Verdict

/-! ## 2. Collecting -/

/-- **What is wrong with a response is not that the service could not be connected to.** -/
theorem Collection.reached_ofBuffer {buffer : MessageBuffer} {error : GatewayError}
    (h : ofBuffer buffer = .failed error) : error.isUnreached = false := by
  unfold ofBuffer at h
  split at h <;> cases h
  rfl

theorem Collection.reached_ofExtended {extended : Except Http.MessageError MessageBuffer}
    {error : GatewayError} (h : ofExtended extended = .failed error) :
    error.isUnreached = false := by
  cases extended with
  | error e =>
    cases h
    rfl
  | ok buffer => exact reached_ofBuffer h

theorem Collection.reached_feed {buffer : MessageBuffer} {framing : Http.Framing}
    {reading : Reading} {error : GatewayError}
    (h : (Collection.reading buffer framing).feed reading = .failed error) :
    error.isUnreached = false := by
  cases reading with
  | timedOut =>
    cases framing <;> cases h
    all_goals rfl
  | failed fault =>
    cases framing <;> cases h
    all_goals rfl
  | bytes chunk =>
    cases chunk with
    | nil =>
      cases framing <;> cases h
      all_goals rfl
    | cons b chunk =>
      cases framing <;> exact reached_ofExtended h

/-! ## 3. The invariant -/

namespace Exchange

/-- **What an exchange has counted**, by how far it is. -/
inductive Tally : Exchange → Ledger → Prop where
  | undecided {x : Exchange} (hx : x.isDecided = false) : Tally x []
  | answering {rest : Bytes} {verdict : Verdict} :
      Tally (.answering rest verdict) (verdict.counts false)
  | closing {verdict : Verdict} : Tally (.closing verdict) (verdict.counts true)
  | ended {result : Except IoFault Verdict} {verdict : Verdict} {written : Bool}
      (h : ∀ answered, result = .ok answered → answered = verdict) :
      Tally (.ended result) (verdict.counts written)

variable {g : GatewaySettings} {now : Nat} {dial : Option DialAnswer} {x x' : Exchange}
  {w w' : Wires} {ledger more : Ledger}

/-- Before the verdict nothing is counted. -/
theorem Tally.eq_nil (h : Tally x ledger) (hx : x.isDecided = false) : ledger = [] := by
  cases h with
  | undecided => rfl
  | answering | closing | ended => cases hx

/-- An exchange that has just come to its verdict has counted no answer. -/
theorem tally_answer {verdict : Verdict} (h : verdict.counts false = ledger) :
    Tally (answer verdict) ledger :=
  h ▸ .answering

theorem tally_ofIntake (g : GatewaySettings) (now : Nat) (i : Intake) :
    Tally (ofIntake g now i) [] := by
  rcases ofIntake_cases g now i with ⟨_, _, e⟩ | ⟨_, _, e⟩ | ⟨_, e⟩ <;> rw [e]
  · exact .undecided rfl
  · exact .undecided rfl
  · exact tally_answer (Verdict.counts_of_reached rfl)

theorem tally_ofCollection {c : Collection}
    (h : ∀ error, c = .failed error → error.isUnreached = false) :
    Tally (ofCollection g now c) [] := by
  cases c with
  | reading => exact .undecided rfl
  | complete => exact tally_answer (Verdict.counts_of_reached rfl)
  | failed error => exact tally_answer (Verdict.counts_of_reached (h error rfl))

theorem tally_sent (g : GatewaySettings) (now : Nat) (rest : Bytes) :
    Tally (sent g now rest) [] := by
  rcases sent_cases g now rest with ⟨-, e⟩ | e <;> rw [e]
  · exact tally_ofCollection fun _ h => Collection.reached_ofBuffer h
  · exact .undecided rfl

/-- **Every step counts what its exchange then has counted.** -/
theorem Step.tally (h : Step g now dial x w x' w' more) (hx : Tally x ledger) :
    Tally x' (ledger ++ more) := by
  cases h with
  | read =>
    rw [hx.eq_nil rfl]
    exact tally_ofIntake g now _
  | connected =>
    rw [hx.eq_nil rfl]
    exact .undecided rfl
  | refused | unanswered =>
    rw [hx.eq_nil rfl]
    exact tally_answer (Verdict.counts_of_isUnreached rfl)
  | sentNothing | sent =>
    rw [hx.eq_nil rfl]
    exact tally_sent g now _
  | sendFault =>
    rw [hx.eq_nil rfl]
    exact tally_answer (Verdict.counts_of_reached rfl)
  | collect =>
    rw [hx.eq_nil rfl]
    exact tally_ofCollection fun _ h => Collection.reached_feed h
  | answeredNothing =>
    cases hx with
    | undecided hd => cases hd
    | answering =>
      rw [← Verdict.counts_written]
      exact .closing
  | answerFault =>
    cases hx with
    | undecided hd => cases hd
    | answering =>
      rw [List.append_nil]
      exact .ended fun _ h => nomatch h
  | answered =>
    cases hx with
    | undecided hd => cases hd
    | answering =>
      unfold written
      split
      · rw [← Verdict.counts_written]
        exact .closing
      · rw [List.append_nil]
        exact .answering
  | closed =>
    cases hx with
    | undecided hd => cases hd
    | closing =>
      rw [List.append_nil]
      exact .ended fun _ h => (Except.ok.inj h).symm
  | closeFault =>
    cases hx with
    | undecided hd => cases hd
    | closing =>
      rw [List.append_nil]
      exact .ended fun _ h => nomatch h

/-- **An exchange has counted nothing, or what its verdict says.** -/
theorem Tally.counts (h : Tally x ledger) :
    x.isDecided = false ∧ ledger = [] ∨ ∃ verdict written, ledger = verdict.counts written ∧
      ∀ answered, x.verdict? = some answered → answered = verdict := by
  cases h with
  | undecided hx => exact Or.inl ⟨hx, rfl⟩
  | answering | closing => exact Or.inr ⟨_, _, rfl, fun _ h => (Option.some.inj h).symm⟩
  | @ended result verdict written h =>
    refine Or.inr ⟨verdict, written, rfl, fun answered ha => h answered ?_⟩
    cases result with
    | ok => exact congrArg Except.ok (Option.some.inj ha)
    | error => cases ha

/-- **Behind its verdict an exchange counts no failure to connect.** -/
theorem Step.total_connectFailures (h : Step g now dial x w x' w' ledger)
    (hx : x.isDecided = true) (backend : Backend) :
    ledger.total (.connectFailures backend) = 0 := by
  cases h with
  | answeredNothing => simp [Ledger.total]
  | answered =>
    unfold written
    split <;> simp [Ledger.total]
  | answerFault | closed | closeFault => rfl
  | read | connected | refused | unanswered | sentNothing | sendFault | sent | collect => cases hx

end Exchange

end TrafficRouter
