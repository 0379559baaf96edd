import TrafficRouter.Gateway.Exchange
import TrafficRouter.Proofs.Stream

/-!
# Watching an exchange

`Exchange.Step` lists what a step of an exchange can be, once and for all: what is read or written,
how the service answers the call, where the exchange goes on. `ExchangeRun.Outside` says what the
world around an exchange leaves alone between two steps.

A run that is watched (`Watched`) carries notes along: what the reads of the client and of the
service came to, how often the service was called, what was decided, and when the exchange last did
something. The notes follow from the run and change nothing in it (`state_run`).

* `step_cases`: every step is one of the list;
* `step_isSome_iff`: an exchange goes on exactly where what it waits for is there (`Ready`);
* `outside_of_label`: every label but `step` is the world's;
* `Watched.run_induct`: what holds at the start, and is kept by the world and by every step, holds
  at every moment of every run.

NOT here: any property of the runs.
-/

namespace TrafficRouter

open Http (MessageBuffer Framing)

/-! ## 1. What a step can be -/

namespace Exchange

/-- **A step of an exchange.** -/
inductive Step (g : GatewaySettings) (now : Nat) (dial : Option DialAnswer) :
    Exchange → Wires → Exchange → Wires → Ledger → Prop where
  | read {buffer : MessageBuffer} {deadline : Nat} {w : Wires} {reading : Reading}
      {source : Source}
      (h : w.client.source.await exchangeChunk now deadline = (some reading, source)) :
      Step g now dial (.intake buffer deadline) w
        (ofIntake g now ((Intake.reading buffer).feed reading)) (w.fromClient source) []
  | connected {request : Bytes} {deadline : Nat} {w : Wires} (h : dial = some .accepted) :
      Step g now dial (.dialling request deadline) w (.sending request)
        { w with backend := { w.backend with hold := .held } } []
  | refused {request : Bytes} {deadline : Nat} {w : Wires} {fault : IoFault}
      (h : dial = some (.refused fault)) :
      Step g now dial (.dialling request deadline) w (answer (.failed (.connect g.address fault)))
        w [(.connectFailures .httpLogin, 1)]
  | unanswered {request : Bytes} {deadline : Nat} {w : Wires} (h : dial = none)
      (hd : deadline ≤ now) :
      Step g now dial (.dialling request deadline) w (answer (.failed (.connectTimeout g.address)))
        w [(.connectFailures .httpLogin, 1)]
  | sentNothing {w : Wires} : Step g now dial (.sending []) w (sent g now []) w []
  | sendFault {request : Bytes} {w : Wires} {fault : IoFault} {sink : Sink}
      (h : w.backend.sink.push request = (some (.error fault), sink)) :
      Step g now dial (.sending request) w (answer (.failed (.send fault)))
        { w.toBackend sink with backend := (w.toBackend sink).backend.release } []
  | sent {request rest : Bytes} {w : Wires} {sink : Sink}
      (h : w.backend.sink.push request = (some (.ok rest), sink)) :
      Step g now dial (.sending request) w (Exchange.sent g now rest) (w.toBackend sink) []
  | collect {buffer : MessageBuffer} {framing : Framing} {deadline : Nat} {w : Wires}
      {reading : Reading} {source : Source}
      (h : w.backend.source.await exchangeChunk now deadline = (some reading, source)) :
      Step g now dial (.collecting buffer framing deadline) w
        (ofCollection g now ((Collection.reading buffer framing).feed reading))
        (keepBackend (ofCollection g now ((Collection.reading buffer framing).feed reading))
          (w.fromBackend source)) []
  | answeredNothing {verdict : Verdict} {w : Wires} :
      Step g now dial (.answering [] verdict) w (.closing verdict) w
        [(.httpResponses verdict.status, 1)]
  | answerFault {rest : Bytes} {verdict : Verdict} {w : Wires} {fault : IoFault} {sink : Sink}
      (h : w.client.sink.push rest = (some (.error fault), sink)) :
      Step g now dial (.answering rest verdict) w (.ended (.error fault)) (w.toClient sink).release
        []
  | answered {rest rest' : Bytes} {verdict : Verdict} {w : Wires} {sink : Sink}
      (h : w.client.sink.push rest = (some (.ok rest'), sink)) :
      Step g now dial (.answering rest verdict) w (written rest' verdict).1 (w.toClient sink)
        (written rest' verdict).2
  | closed {verdict : Verdict} {w : Wires} (h : w.client.sink.shutdownFault = none) :
      Step g now dial (.closing verdict) w (.ended (.ok verdict))
        (w.toClient w.client.sink.shutdown).release []
  | closeFault {verdict : Verdict} {w : Wires} {fault : IoFault}
      (h : w.client.sink.shutdownFault = some fault) :
      Step g now dial (.closing verdict) w (.ended (.error fault))
        (w.toClient w.client.sink.shutdown).release []

variable {g : GatewaySettings} {now : Nat} {dial : Option DialAnswer}

/-- **Every step is one of the list.** -/
theorem step_cases {x x' : Exchange} {w w' : Wires} {ledger : Ledger}
    (h : x.step g now dial w = some (x', w', ledger)) : Step g now dial x w x' w' ledger := by
  cases x with
  | intake buffer deadline =>
    rcases hr : w.client.source.await exchangeChunk now deadline with ⟨_ | reading, source⟩
    · simp [step, hr] at h
    · simp only [step, hr, Option.some.injEq, Prod.mk.injEq] at h
      obtain ⟨rfl, rfl, rfl⟩ := h
      exact .read hr
  | dialling request deadline =>
    rcases hd : dial with _ | _ | fault
    · simp only [step, hd] at h
      split at h
      · next hle =>
        simp only [Option.some.injEq, Prod.mk.injEq] at h
        obtain ⟨rfl, rfl, rfl⟩ := h
        exact .unanswered rfl hle
      · simp at h
    · simp only [step, hd, Option.some.injEq, Prod.mk.injEq] at h
      obtain ⟨rfl, rfl, rfl⟩ := h
      exact .connected rfl
    · simp only [step, hd, Option.some.injEq, Prod.mk.injEq] at h
      obtain ⟨rfl, rfl, rfl⟩ := h
      exact .refused rfl
  | sending request =>
    cases request with
    | nil =>
      simp only [step, Option.some.injEq, Prod.mk.injEq] at h
      obtain ⟨rfl, rfl, rfl⟩ := h
      exact .sentNothing
    | cons b request =>
      rcases hp : w.backend.sink.push (b :: request) with ⟨_ | fault | rest, sink⟩
      · simp [step, hp] at h
      · simp only [step, hp, Option.some.injEq, Prod.mk.injEq] at h
        obtain ⟨rfl, rfl, rfl⟩ := h
        exact .sendFault hp
      · simp only [step, hp, Option.some.injEq, Prod.mk.injEq] at h
        obtain ⟨rfl, rfl, rfl⟩ := h
        exact .sent hp
  | collecting buffer framing deadline =>
    rcases hr : w.backend.source.await exchangeChunk now deadline with ⟨_ | reading, source⟩
    · simp [step, hr] at h
    · simp only [step, hr, Option.some.injEq, Prod.mk.injEq] at h
      obtain ⟨rfl, rfl, rfl⟩ := h
      exact .collect hr
  | answering rest verdict =>
    cases rest with
    | nil =>
      simp only [step, written, List.isEmpty_nil, if_true, Option.some.injEq, Prod.mk.injEq] at h
      obtain ⟨rfl, rfl, rfl⟩ := h
      exact .answeredNothing
    | cons b rest =>
      rcases hp : w.client.sink.push (b :: rest) with ⟨_ | fault | rest', sink⟩
      · simp [step, hp] at h
      · simp only [step, hp, Option.some.injEq, Prod.mk.injEq] at h
        obtain ⟨rfl, rfl, rfl⟩ := h
        exact .answerFault hp
      · simp only [step, hp, Option.some.injEq, Prod.mk.injEq] at h
        obtain ⟨rfl, rfl, rfl⟩ := h
        exact .answered hp
  | closing verdict =>
    rcases hs : w.client.sink.shutdownFault with _ | fault
    · simp only [step, hs, Option.some.injEq, Prod.mk.injEq] at h
      obtain ⟨rfl, rfl, rfl⟩ := h
      exact .closed hs
    · simp only [step, hs, Option.some.injEq, Prod.mk.injEq] at h
      obtain ⟨rfl, rfl, rfl⟩ := h
      exact .closeFault hs
  | ended result => simp [step] at h

/-- What has been decided, at a stage that answers. -/
def verdict? : Exchange → Option Verdict
  | .answering _ verdict | .closing verdict | .ended (.ok verdict) => some verdict
  | .intake .. | .dialling .. | .sending _ | .collecting .. | .ended (.error _) => none

/-- Whether the service is being called. -/
def isDialling : Exchange → Bool
  | .dialling .. => true
  | .intake .. | .sending _ | .collecting .. | .answering .. | .closing _ | .ended _ => false

/-- Whether the exchange has come to its verdict. -/
def isDecided : Exchange → Bool
  | .answering .. | .closing _ | .ended _ => true
  | .intake .. | .dialling .. | .sending _ | .collecting .. => false

/-- Whether the request is still being taken in. -/
def isIntake : Exchange → Bool
  | .intake .. => true
  | .dialling .. | .sending _ | .collecting .. | .answering .. | .closing _ | .ended _ => false

/-- A request as far as it has been taken in is taken in further, or calls, or is rejected. -/
theorem ofIntake_cases (g : GatewaySettings) (now : Nat) (i : Intake) :
    (∃ buffer deadline, ofIntake g now i = .intake buffer deadline) ∨
      (∃ request deadline, ofIntake g now i = .dialling request deadline) ∨
      ∃ rejection, ofIntake g now i = answer (.rejected rejection) := by
  cases i with
  | reading buffer => exact Or.inl ⟨_, _, rfl⟩
  | rejected rejection => exact Or.inr (Or.inr ⟨_, rfl⟩)
  | complete request =>
    unfold ofIntake
    cases h : rejectionOf request with
    | none =>
      simp only [h]
      exact Or.inr (Or.inl ⟨_, _, rfl⟩)
    | some rejection =>
      simp only [h]
      exact Or.inr (Or.inr ⟨_, rfl⟩)

/-- A response as far as it has been collected is collected further, or decided, and not rejected. -/
theorem ofCollection_cases (g : GatewaySettings) (now : Nat) (c : Collection) :
    (∃ buffer framing deadline, ofCollection g now c = .collecting buffer framing deadline) ∨
      ∃ verdict, ofCollection g now c = answer verdict ∧
        ∀ rejection, verdict ≠ .rejected rejection := by
  cases c with
  | reading buffer framing => exact Or.inl ⟨_, _, _, rfl⟩
  | complete response => exact Or.inr ⟨_, rfl, fun _ => Verdict.noConfusion⟩
  | failed error => exact Or.inr ⟨_, rfl, fun _ => Verdict.noConfusion⟩

/-- A request of which `rest` is still to be sent is sent further, or all sent. -/
theorem sent_cases (g : GatewaySettings) (now : Nat) (rest : Bytes) :
    rest = [] ∧ sent g now rest = ofCollection g now (Collection.start g.maxMessage) ∨
      sent g now rest = .sending rest := by
  unfold sent
  by_cases h : rest = []
  · subst h
    exact Or.inl ⟨rfl, rfl⟩
  · rw [if_neg fun e => h (List.isEmpty_iff.mp e)]
    exact Or.inr rfl

/-- **Behind the request no call begins.** -/
theorem Step.no_call {x x' : Exchange} {w w' : Wires} {ledger : Ledger}
    (h : Step g now dial x w x' w' ledger) (hx : x.isIntake = false) :
    x'.isIntake = false ∧ x'.isDialling = false := by
  have hcollected (c : Collection) :
      (ofCollection g now c).isIntake = false ∧ (ofCollection g now c).isDialling = false := by
    rcases ofCollection_cases g now c with ⟨_, _, _, e⟩ | ⟨_, e, -⟩ <;> rw [e] <;> exact ⟨rfl, rfl⟩
  have hsent (rest : Bytes) :
      (Exchange.sent g now rest).isIntake = false ∧
        (Exchange.sent g now rest).isDialling = false := by
    rcases sent_cases g now rest with ⟨-, e⟩ | e <;> rw [e]
    · exact hcollected _
    · exact ⟨rfl, rfl⟩
  cases h with
  | read => cases hx
  | sentNothing | sent => exact hsent _
  | collect => exact hcollected _
  | answered h =>
    unfold written
    split <;> exact ⟨rfl, rfl⟩
  | connected | refused | unanswered | sendFault | answeredNothing | answerFault | closed
  | closeFault => exact ⟨rfl, rfl⟩

/-- **Behind its verdict an exchange stays.** -/
theorem Step.isDecided {x x' : Exchange} {w w' : Wires} {ledger : Ledger}
    (h : Step g now dial x w x' w' ledger) (hx : x.isDecided = true) : x'.isDecided = true := by
  cases h with
  | answered h =>
    unfold written
    split <;> rfl
  | answeredNothing | answerFault | closed | closeFault => rfl
  | read | connected | refused | unanswered | sentNothing | sendFault | sent | collect => cases hx

/-- Behind the verdict the service's connection is at most let go of. -/
theorem Step.backend_of_isDecided {x x' : Exchange} {w w' : Wires} {ledger : Ledger}
    (h : Step g now dial x w x' w' ledger) (hx : x.isDecided = true) :
    w'.backend.sink = w.backend.sink ∧ (w'.backend.hold = .absent ↔ w.backend.hold = .absent) := by
  cases h with
  | answered | answeredNothing => exact ⟨rfl, Iff.rfl⟩
  | answerFault | closed | closeFault => exact ⟨rfl, Duplex.hold_release_eq_absent _⟩
  | read | connected | refused | unanswered | sentNothing | sendFault | sent | collect => cases hx

/-- What a request comes to as it is taken in. -/
theorem ofIntake_uncalled (g : GatewaySettings) (now : Nat) (i : Intake) :
    (ofIntake g now i).isIntake = true ∨ (ofIntake g now i).isDecided = true ∨
      (ofIntake g now i).isDialling = true := by
  rcases ofIntake_cases g now i with ⟨_, _, e⟩ | ⟨_, _, e⟩ | ⟨_, e⟩ <;> rw [e]
  · exact Or.inl rfl
  · exact Or.inr (Or.inr rfl)
  · exact Or.inr (Or.inl rfl)

/-- **An exchange that has called no service** makes no connection with its next step. -/
theorem Step.of_uncalled {x x' : Exchange} {w w' : Wires} {ledger : Ledger}
    (h : Step g now dial x w x' w' ledger) (hx : x.isIntake = true ∨ x.isDecided = true) :
    (x'.isIntake = true ∨ x'.isDecided = true ∨ x'.isDialling = true) ∧
      (w'.backend.hold = .absent ↔ w.backend.hold = .absent) := by
  rcases hx with hx | hx
  · cases h with
    | read => exact ⟨ofIntake_uncalled g now _, Iff.rfl⟩
    | connected | refused | unanswered | sentNothing | sendFault | sent | collect
    | answeredNothing | answerFault | answered | closed | closeFault => cases hx
  · exact ⟨Or.inr (Or.inl (h.isDecided hx)), (h.backend_of_isDecided hx).2⟩

/-- An exchange that takes a step behind its verdict still knows it. -/
theorem Step.verdict_isSome {x x' : Exchange} {w w' : Wires} {ledger : Ledger}
    (h : Step g now dial x w x' w' ledger) (hx : x.isDecided = true) :
    x.verdict?.isSome = true := by
  cases h with
  | answered | answeredNothing | answerFault | closed | closeFault => rfl
  | read | connected | refused | unanswered | sentNothing | sendFault | sent | collect => cases hx

end Exchange

/-! ## 2. What the world leaves alone -/

namespace ExchangeRun

/-- **What happens between two steps**: the exchange itself, what it has counted and what the two
connections have accepted stay as they are. -/
structure Outside (r s : ExchangeRun) : Prop where
  settings : s.settings = r.settings
  exchange : s.exchange = r.exchange
  ledger : s.ledger = r.ledger
  clientDelivered : s.wires.client.sink.delivered = r.wires.client.sink.delivered
  clientShutdown : s.wires.client.sink.isShutdown = r.wires.client.sink.isShutdown
  backendDelivered : s.wires.backend.sink.delivered = r.wires.backend.sink.delivered
  backendHold : s.wires.backend.hold = r.wires.backend.hold

/-- **Every label but `step` is the world's.** -/
theorem outside_of_label (r : ExchangeRun) {label : ExchangeLabel} (h : label ≠ .step) :
    Outside r (r.happen label) := by
  cases label with
  | client action =>
    exact ⟨rfl, rfl, rfl, Duplex.delivered_act _ action, Duplex.isShutdown_act _ action, rfl, rfl⟩
  | backend action =>
    exact ⟨rfl, rfl, rfl, rfl, rfl, Duplex.delivered_act _ action, Duplex.hold_act _ action⟩
  | advance ms => exact ⟨rfl, rfl, rfl, rfl, rfl, rfl, rfl⟩
  | dialled answer => exact ⟨rfl, rfl, rfl, rfl, rfl, rfl, rfl⟩
  | step => exact absurd rfl h

/-- A step of a run is a step of its exchange, and adds to what has been counted. -/
theorem step_cases {r s : ExchangeRun} (h : r.step = some s) :
    ∃ ledger, Exchange.Step r.settings r.now r.dial r.exchange r.wires s.exchange s.wires ledger ∧
      s.settings = r.settings ∧ s.now = r.now ∧ s.ledger = r.ledger ++ ledger := by
  obtain ⟨⟨x, w, ledger⟩, hx, rfl⟩ := Option.map_eq_some_iff.mp h
  exact ⟨ledger, Exchange.step_cases hx, rfl, rfl, rfl⟩

/-! ## 3. Notes -/

/-- What a step would read of the client. -/
def clientReading (r : ExchangeRun) : Option Reading :=
  match r.exchange with
  | .intake _ deadline => (r.wires.client.source.await exchangeChunk r.now deadline).1
  | _ => none

/-- What a step would read of the service. -/
def serviceReading (r : ExchangeRun) : Option Reading :=
  match r.exchange with
  | .collecting _ _ deadline => (r.wires.backend.source.await exchangeChunk r.now deadline).1
  | _ => none

theorem clientReading_of_intake {r : ExchangeRun} {buffer : MessageBuffer} {deadline : Nat}
    (h : r.exchange = .intake buffer deadline) :
    r.clientReading = (r.wires.client.source.await exchangeChunk r.now deadline).1 := by
  unfold clientReading
  rw [h]

theorem serviceReading_of_collecting {r : ExchangeRun} {buffer : MessageBuffer}
    {framing : Framing} {deadline : Nat} (h : r.exchange = .collecting buffer framing deadline) :
    r.serviceReading = (r.wires.backend.source.await exchangeChunk r.now deadline).1 := by
  unfold serviceReading
  rw [h]

/-- **What an exchange waits for is there**: something to read or nothing in time, an answer to the
call or none in time, a peer that does not make it wait with its bytes. To close, it waits for
nothing, and behind its end there is nothing to wait for. -/
def Ready (r : ExchangeRun) : Prop :=
  match r.exchange with
  | .intake .. => r.clientReading ≠ none
  | .dialling _ deadline => r.dial ≠ none ∨ deadline ≤ r.now
  | .sending rest => rest = [] ∨ ¬ r.wires.backend.sink.Blocks
  | .collecting .. => r.serviceReading ≠ none
  | .answering rest _ => rest = [] ∨ ¬ r.wires.client.sink.Blocks
  | .closing _ => True
  | .ended _ => False

/-- **An exchange goes on exactly where what it waits for is there.** -/
theorem step_isSome_iff (r : ExchangeRun) : r.step.isSome = true ↔ r.Ready := by
  unfold step Ready
  rw [Option.isSome_map]
  cases hx : r.exchange with
  | intake buffer deadline =>
    rw [clientReading_of_intake hx]
    rcases ha : r.wires.client.source.await exchangeChunk r.now deadline with ⟨_ | reading, source⟩ <;>
      simp [Exchange.step, ha]
  | dialling request deadline =>
    rcases hd : r.dial with _ | _ | fault
    · by_cases hdue : deadline ≤ r.now <;> simp [Exchange.step, hdue]
    · simp [Exchange.step]
    · simp [Exchange.step]
  | sending rest =>
    cases rest with
    | nil => simp [Exchange.step]
    | cons b rest =>
      have hblocks := r.wires.backend.sink.push_eq_none_iff (b :: rest)
      rcases hp : r.wires.backend.sink.push (b :: rest) with ⟨_ | fault | left, sink⟩ <;>
        simp [Exchange.step, ← hblocks, hp]
  | collecting buffer framing deadline =>
    rw [serviceReading_of_collecting hx]
    rcases ha : r.wires.backend.source.await exchangeChunk r.now deadline with ⟨_ | reading, source⟩ <;>
      simp [Exchange.step, ha]
  | answering rest verdict =>
    cases rest with
    | nil => simp [Exchange.step]
    | cons b rest =>
      have hblocks := r.wires.client.sink.push_eq_none_iff (b :: rest)
      rcases hp : r.wires.client.sink.push (b :: rest) with ⟨_ | fault | left, sink⟩ <;>
        simp [Exchange.step, ← hblocks, hp]
  | closing verdict => simp [Exchange.step]
  | ended result => simp [Exchange.step]

theorem ready_of_clientReading {r : ExchangeRun} {reading : Reading}
    (h : r.clientReading = some reading) : r.Ready := by
  unfold Ready
  cases hx : r.exchange with
  | intake =>
    show r.clientReading ≠ none
    rw [h]
    exact Option.some_ne_none reading
  | dialling | sending | collecting | answering | closing | ended =>
    simp [clientReading, hx] at h

theorem ready_of_serviceReading {r : ExchangeRun} {reading : Reading}
    (h : r.serviceReading = some reading) : r.Ready := by
  unfold Ready
  cases hx : r.exchange with
  | collecting =>
    show r.serviceReading ≠ none
    rw [h]
    exact Option.some_ne_none reading
  | intake | dialling | sending | answering | closing | ended =>
    simp [serviceReading, hx] at h

end ExchangeRun

/-- What has been seen of an exchange. -/
structure ExchangeNotes where
  /-- What the reads of the client came to, in order. -/
  clientReads : List Reading := []
  /-- What the reads of the service came to, in order. -/
  serviceReads : List Reading := []
  /-- How often a call of the service was begun. -/
  calls : Nat := 0
  /-- What was decided, in order. -/
  verdicts : List Verdict := []
  /-- When the exchange last did something. -/
  movedAt : Nat := 0
  deriving DecidableEq, Repr

/-- The notes after a step that leads from `r` to `s`. -/
def ExchangeNotes.after (n : ExchangeNotes) (r s : ExchangeRun) : ExchangeNotes where
  clientReads := n.clientReads ++ r.clientReading.toList
  serviceReads := n.serviceReads ++ r.serviceReading.toList
  calls := if s.exchange.isDialling && !r.exchange.isDialling then n.calls + 1 else n.calls
  verdicts :=
    if r.exchange.verdict?.isNone then n.verdicts ++ s.exchange.verdict?.toList else n.verdicts
  movedAt := r.now

namespace ExchangeNotes

variable (n : ExchangeNotes) {r s : ExchangeRun} {reading : Reading}

theorem clientReads_after (h : r.clientReading = some reading) :
    (n.after r s).clientReads = n.clientReads ++ [reading] := by
  unfold after
  rw [h]
  rfl

theorem serviceReads_after (h : r.serviceReading = some reading) :
    (n.after r s).serviceReads = n.serviceReads ++ [reading] := by
  unfold after
  rw [h]
  rfl

/-- The first verdict is noted as it is come to. -/
theorem verdicts_after (hr : r.exchange.verdict? = none) (hv : n.verdicts = []) :
    (n.after r s).verdicts = s.exchange.verdict?.toList := by
  unfold after
  rw [hr, hv]
  rfl

/-- **Behind the request nothing more of it is noted**, and no call. -/
theorem after_of_no_intake (hs : r.step = some s) (h : r.exchange.isIntake = false) :
    (n.after r s).clientReads = n.clientReads ∧ (n.after r s).calls = n.calls := by
  obtain ⟨ledger, hstep, -⟩ := ExchangeRun.step_cases hs
  obtain ⟨-, hd⟩ := hstep.no_call h
  have hc : r.clientReading = none := by
    unfold ExchangeRun.clientReading
    cases hx : r.exchange with
    | intake =>
      rw [hx] at h
      cases h
    | dialling | sending | collecting | answering | closing | ended => rfl
  unfold after
  rw [hc, hd]
  exact ⟨List.append_nil _, rfl⟩

/-- **Behind the verdict nothing is noted but the time.** -/
theorem after_of_isDecided
    (hs : r.step = some s) (h : r.exchange.isDecided = true) :
    n.after r s = { n with movedAt := r.now } ∧ s.exchange.isDecided = true := by
  obtain ⟨ledger, hstep, -⟩ := ExchangeRun.step_cases hs
  have hs' := hstep.isDecided h
  have hv := hstep.verdict_isSome h
  have hd : s.exchange.isDialling = false := by
    cases hx : s.exchange with
    | dialling =>
      rw [hx] at hs'
      cases hs'
    | intake | sending | collecting | answering | closing | ended => rfl
  have hc : r.clientReading = none := by
    unfold ExchangeRun.clientReading
    cases hx : r.exchange with
    | intake =>
      rw [hx] at h
      cases h
    | dialling | sending | collecting | answering | closing | ended => rfl
  have hb : r.serviceReading = none := by
    unfold ExchangeRun.serviceReading
    cases hx : r.exchange with
    | collecting =>
      rw [hx] at h
      cases h
    | intake | dialling | sending | answering | closing | ended => rfl
  obtain ⟨verdict, hv⟩ := Option.isSome_iff_exists.mp hv
  refine ⟨?_, hs'⟩
  unfold after
  rw [hd, hc, hb, hv]
  simp

end ExchangeNotes

/-- A run with what has been seen of it. -/
structure Watched where
  state : ExchangeRun
  notes : ExchangeNotes

namespace Watched

/-- The watch begins. -/
def begin (r : ExchangeRun) : Watched where
  state := r
  notes := {
    calls := if r.exchange.isDialling then 1 else 0
    verdicts := r.exchange.verdict?.toList
    movedAt := r.now }

/-- Where a label leads; only a step that is done is noted. -/
def happen (w : Watched) : ExchangeLabel → Watched
  | .step =>
    match w.state.step with
    | some s => ⟨s, w.notes.after w.state s⟩
    | none => w
  | label => ⟨w.state.happen label, w.notes⟩

/-- The watched run after some labels. -/
def run (w : Watched) (labels : List ExchangeLabel) : Watched := labels.foldl happen w

/-- **What can be read of the client is read** with the next step. -/
theorem clientReads_happen {w : Watched} {reading : Reading}
    (h : w.state.clientReading = some reading) :
    (w.happen .step).notes.clientReads = w.notes.clientReads ++ [reading] := by
  have hready := (w.state.step_isSome_iff).mpr (ExchangeRun.ready_of_clientReading h)
  obtain ⟨s, hs⟩ := Option.isSome_iff_exists.mp hready
  unfold happen
  rw [hs]
  exact w.notes.clientReads_after h

/-- **What can be read of the service is read** with the next step. -/
theorem serviceReads_happen {w : Watched} {reading : Reading}
    (h : w.state.serviceReading = some reading) :
    (w.happen .step).notes.serviceReads = w.notes.serviceReads ++ [reading] := by
  have hready := (w.state.step_isSome_iff).mpr (ExchangeRun.ready_of_serviceReading h)
  obtain ⟨s, hs⟩ := Option.isSome_iff_exists.mp hready
  unfold happen
  rw [hs]
  exact w.notes.serviceReads_after h

theorem state_happen (w : Watched) (label : ExchangeLabel) :
    (w.happen label).state = w.state.happen label := by
  cases label with
  | step =>
    show (w.happen .step).state = w.state.step.getD w.state
    unfold happen
    cases w.state.step <;> rfl
  | client | backend | advance | dialled => rfl

/-- **Watching changes nothing.** -/
theorem state_run (w : Watched) (labels : List ExchangeLabel) :
    (w.run labels).state = w.state.run labels := by
  induction labels generalizing w with
  | nil => rfl
  | cons label labels ih =>
    show ((w.happen label).run labels).state = (w.state.happen label).run labels
    rw [ih, state_happen]

/-- **What holds at the start and is kept by the world and by every step holds at every moment.** -/
theorem run_induct {P : Watched → Prop}
    (outside : ∀ (w : Watched) (r : ExchangeRun), ExchangeRun.Outside w.state r → P w →
      P ⟨r, w.notes⟩)
    (step : ∀ (w : Watched) (s : ExchangeRun), w.state.step = some s → P w →
      P ⟨s, w.notes.after w.state s⟩)
    {w : Watched} (h : P w) (labels : List ExchangeLabel) : P (w.run labels) := by
  induction labels generalizing w with
  | nil => exact h
  | cons label labels ih =>
    refine ih (w := w.happen label) ?_
    by_cases hl : label = .step
    · subst hl
      unfold happen
      cases hs : w.state.step with
      | none => exact h
      | some s => exact step w s hs h
    · have hout := outside w _ (w.state.outside_of_label hl) h
      cases label with
      | step => exact absurd rfl hl
      | client | backend | advance | dialled => exact hout

end Watched

end TrafficRouter
