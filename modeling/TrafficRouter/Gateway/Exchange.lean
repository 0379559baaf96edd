import TrafficRouter.Gateway.Collection
import TrafficRouter.Gateway.Intake
import TrafficRouter.Host
import TrafficRouter.Metrics
import TrafficRouter.Settings.Schema
import TrafficRouter.Settle

/-!
# An HTTP exchange

One HTTP connection from its first bytes to its end: the request is taken in and, if it is for the
login page, sent to the service; the response is collected; the answer is written and the connection
closed. `Exchange.step` does one thing that may have to wait, and what follows from it at once.

There is one answer. It counts when all of it has been written, whatever becomes of the closing. A
fault of the client's connection while the answer is written or closed ends the exchange there.
-/

namespace TrafficRouter

open Http (MessageBuffer Framing)

/-- What an exchange needs to know. Times are in milliseconds. -/
structure GatewaySettings where
  address : String
  connect : Nat
  clientRead : Nat
  backendRead : Nat
  responseIdle : Nat
  maxMessage : Nat
  deriving DecidableEq, Repr

def GatewaySettings.ofSettings (s : Settings) : GatewaySettings where
  address := s.backends.http
  connect := s.timeouts.connect
  clientRead := s.timeouts.clientRead
  backendRead := s.timeouts.backendRead
  responseIdle := s.timeouts.responseIdle
  maxMessage := s.buffers.maxHttpMessage

/-- The most that one read of an exchange takes. -/
def exchangeChunk : Nat := 8192

/-- How far an exchange is. -/
inductive Exchange where
  | intake (buffer : MessageBuffer) (deadline : Nat)
  | dialling (request : Bytes) (deadline : Nat)
  | sending (rest : Bytes)
  | collecting (buffer : MessageBuffer) (framing : Framing) (deadline : Nat)
  | answering (rest : Bytes) (verdict : Verdict)
  | closing (verdict : Verdict)
  /-- The verdict was answered, or the client's connection was at fault. -/
  | ended (result : Except IoFault Verdict)
  deriving Repr

namespace Exchange

/-- The exchange with its answer still to be written. -/
def answer (verdict : Verdict) : Exchange := .answering verdict.answer verdict

/-- The exchange with the request as far as it has been taken in. A login request is complete, so
the service is called. -/
def ofIntake (g : GatewaySettings) (now : Nat) : Intake → Exchange
  | .reading buffer => .intake buffer (now + g.clientRead)
  | .rejected rejection => answer (.rejected rejection)
  | .complete request =>
    match rejectionOf request with
    | some rejection => answer (.rejected rejection)
    | none => .dialling request.bytes (now + g.connect)

/-- The exchange with the response as far as it has been collected. -/
def ofCollection (g : GatewaySettings) (now : Nat) : Collection → Exchange
  | .reading buffer framing =>
    .collecting buffer framing (now + Collection.patience g.backendRead g.responseIdle framing)
  | .complete response => answer (.forwarded response)
  | .failed error => answer (.failed error)

/-- The start, with the bytes that were read before. -/
def start (g : GatewaySettings) (now : Nat) (initial : Bytes) : Exchange :=
  ofIntake g now (Intake.start g.maxMessage initial)

/-- The wires once the service's connection is not needed any more: while a response is being
collected it is. -/
def keepBackend (x : Exchange) (w : Wires) : Wires :=
  match x with
  | .collecting .. => w
  | _ => { w with backend := w.backend.release }

/-- The exchange after a write of the answer that leaves `rest`. -/
def written (rest : Bytes) (verdict : Verdict) : Exchange × Ledger :=
  if rest.isEmpty then (.closing verdict, [(.httpResponses verdict.status, 1)])
  else (.answering rest verdict, [])

/-- The exchange after a write of the request that leaves `rest`. -/
def sent (g : GatewaySettings) (now : Nat) (rest : Bytes) : Exchange :=
  if rest.isEmpty then ofCollection g now (Collection.start g.maxMessage) else .sending rest

/-- A step of an exchange at the given time, unless it has to wait. `dial` is what the service has
answered so far to the attempt to connect. -/
def step (g : GatewaySettings) (now : Nat) (dial : Option DialAnswer) (x : Exchange) (w : Wires) :
    Option (Exchange × Wires × Ledger) :=
  match x with
  | .intake buffer deadline =>
    match w.client.source.await exchangeChunk now deadline with
    | (none, _) => none
    | (some reading, source) =>
      some (ofIntake g now ((Intake.reading buffer).feed reading), w.fromClient source, [])
  | .dialling request deadline =>
    match dial with
    | some .accepted =>
      some (.sending request, { w with backend := { w.backend with hold := .held } }, [])
    | some (.refused fault) =>
      some (answer (.failed (.connect g.address fault)), w, [(.connectFailures .httpLogin, 1)])
    | none =>
      if deadline ≤ now then
        some (answer (.failed (.connectTimeout g.address)), w, [(.connectFailures .httpLogin, 1)])
      else none
  | .sending [] => some (sent g now [], w, [])
  | .sending rest =>
    match w.backend.sink.push rest with
    | (none, _) => none
    | (some (.error fault), sink) =>
      let w := w.toBackend sink
      some (answer (.failed (.send fault)), { w with backend := w.backend.release }, [])
    | (some (.ok rest), sink) => some (sent g now rest, w.toBackend sink, [])
  | .collecting buffer framing deadline =>
    match w.backend.source.await exchangeChunk now deadline with
    | (none, _) => none
    | (some reading, source) =>
      let x := ofCollection g now ((Collection.reading buffer framing).feed reading)
      some (x, keepBackend x (w.fromBackend source), [])
  | .answering [] verdict =>
    let (x, ledger) := written [] verdict
    some (x, w, ledger)
  | .answering rest verdict =>
    match w.client.sink.push rest with
    | (none, _) => none
    | (some (.error fault), sink) => some (.ended (.error fault), (w.toClient sink).release, [])
    | (some (.ok rest), sink) =>
      let (x, ledger) := written rest verdict
      some (x, w.toClient sink, ledger)
  | .closing verdict =>
    let result := match w.client.sink.shutdownFault with
      | some fault => .error fault
      | none => .ok verdict
    some (.ended result, (w.toClient w.client.sink.shutdown).release, [])
  | .ended _ => none

/-- The bytes that an exchange has in hand. -/
def inHand : Exchange → Nat
  | .intake buffer _ | .collecting buffer _ _ => buffer.bytes.length
  | .dialling rest _ | .sending rest | .answering rest _ => rest.length
  | .closing _ | .ended _ => 0

end Exchange

/-! ## An exchange by itself -/

/-- What can happen around an exchange. -/
inductive ExchangeLabel where
  | client (action : PeerAction)
  | backend (action : PeerAction)
  /-- Time passes. -/
  | advance (ms : Nat)
  /-- The service answers the attempt to connect. -/
  | dialled (answer : DialAnswer)
  | step
  deriving DecidableEq, Repr

/-- An exchange with its connections, the time, what the service answers to an attempt to connect,
and what has been counted. -/
structure ExchangeRun where
  settings : GatewaySettings
  now : Nat := 0
  dial : Option DialAnswer := none
  exchange : Exchange
  wires : Wires := {}
  ledger : Ledger := []
  deriving Repr

namespace ExchangeRun

/-- A step of the run. -/
def step (r : ExchangeRun) : Option ExchangeRun :=
  (r.exchange.step r.settings r.now r.dial r.wires).map fun (exchange, wires, ledger) =>
    { r with exchange, wires, ledger := r.ledger ++ ledger }

/-- The start, with the bytes that were read before and the client's connection. -/
def start (settings : GatewaySettings) (initial : Bytes) (client : Duplex) : ExchangeRun where
  settings
  exchange := .start settings 0 initial
  wires := { client }

/-- Where a label leads; a step of an exchange that waits changes nothing. -/
def happen (r : ExchangeRun) : ExchangeLabel → ExchangeRun
  | .client action => { r with wires := r.wires.clientActs action }
  | .backend action => { r with wires := r.wires.backendActs action }
  | .advance ms => { r with now := r.now + ms }
  | .dialled answer => { r with dial := some answer }
  | .step => r.step.getD r

/-- The run after some labels. -/
def run (r : ExchangeRun) (labels : List ExchangeLabel) : ExchangeRun := labels.foldl happen r

/-- More steps than the bytes that are there can take, with an answer from here among them. -/
def bound (r : ExchangeRun) : Nat := 4 * (r.wires.unread + r.exchange.inHand) + 1024

/-- The run once nothing more happens. -/
def settled (r : ExchangeRun) : ExchangeRun := settle step r.bound r

end ExchangeRun

end TrafficRouter
