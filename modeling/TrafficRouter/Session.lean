import TrafficRouter.Gateway.Exchange
import TrafficRouter.Registry
import TrafficRouter.Relay

/-!
# Sessions

One client connection from its admission to its end. The first bytes are read with a limit on the
wait and classified; an HTTP connection becomes an exchange, any other is connected to its service,
which gets the first bytes before all others, and then relayed. Nothing is tried twice.

`Session.poll` does one thing that may have to wait, and what follows from it at once. It looks
first whether the session has been told to end: if so it ends there, and both its connections are
let go of as they are. Everything else that it sees is the session's own: its connections, the
clock, and the turn that it is given.
-/

namespace TrafficRouter

/-! ## 1. What a session is told -/

/-- What a session needs to know. Times are in milliseconds. -/
structure SessionSettings where
  classify : Bytes → Protocol
  backends : BackendSettings
  gateway : GatewaySettings
  sniff : Nat
  relayChunk : Nat
  initialRead : Nat
  connect : Nat

/-- The settings of a session with a classifier of its own. -/
def SessionSettings.withClassifier (classify : Bytes → Protocol) (s : Settings) :
    SessionSettings where
  classify
  backends := s.backends
  gateway := .ofSettings s
  sniff := s.buffers.sniff
  relayChunk := s.buffers.relayChunk
  initialRead := s.timeouts.initialRead
  connect := s.timeouts.connect

/-- The settings of a session. -/
def SessionSettings.ofSettings (s : Settings) : SessionSettings :=
  .withClassifier (TrafficRouter.classify s.classifier.loginLengthThreshold) s

/-- What is left open about a step: which pump has its turn, and what the service that was called
has answered so far. -/
structure Turn where
  pump : Direction
  dial : Option DialAnswer
  deriving DecidableEq, Repr

/-! ## 2. How a session ends -/

/-- How a session failed. -/
inductive DispatchError where
  | clientRead (fault : IoFault)
  | clientWrite (fault : IoFault)
  | connectTimeout (backend : Backend) (address : String)
  | connect (backend : Backend) (address : String) (fault : IoFault)
  | backendWrite (fault : IoFault)
  | relay (error : RelayError)
  deriving DecidableEq, Repr

def DispatchError.message : DispatchError → String
  | .clientRead fault => "reading from client failed: " ++ fault.text
  | .clientWrite fault => "writing to client failed: " ++ fault.text
  | .connectTimeout backend address =>
    "connecting to " ++ backend.name ++ " backend at " ++ address ++ " timed out"
  | .connect backend address fault =>
    "connecting to " ++ backend.name ++ " backend at " ++ address ++ " failed: " ++ fault.text
  | .backendWrite fault => "replaying priming bytes to backend failed: " ++ fault.text
  | .relay error => error.message

/-- How a session ended. -/
inductive SessionEnd where
  /-- The client closed before it sent anything. -/
  | noData
  /-- The client sent nothing in time. -/
  | silent
  /-- The session was told to end. -/
  | cancelled
  | answered (verdict : Verdict)
  | relayed (stats : RelayStats)
  | failed (error : DispatchError)
  deriving DecidableEq, Repr

/-! ## 3. Sessions -/

/-- How far a session is. -/
inductive SessionStage where
  /-- Admitted, and nothing done yet. -/
  | admitted
  /-- Waiting for the first bytes. -/
  | priming (deadline : Nat)
  | exchange (exchange : Exchange)
  | dialling (backend : Backend) (opening : Bytes) (deadline : Nat)
  /-- Bytes of the opening are still to be written to the service. -/
  | replaying (rest : Bytes)
  | relaying (relay : Relay)
  | ended (how : SessionEnd)
  deriving Repr

/-- What the first bytes of a session made of it. -/
structure Route where
  opening : Bytes
  protocol : Protocol
  deriving DecidableEq, Repr

/-- What a session still holds besides its connections. -/
inductive Membership where
  /-- Its entry in the registry and its slot. -/
  | registered
  /-- Its slot. -/
  | leaving
  | gone
  deriving DecidableEq, Repr

/-- A session: its id, the number of its client, its connections, how far it is, what its first
bytes were, which services it has called, what it has counted, and what it holds. -/
structure Session where
  id : SessionId
  client : Nat
  wires : Wires
  stage : SessionStage := .admitted
  route : Option Route := none
  calls : List (Backend × String) := []
  ledger : Ledger := [(.connections, 1)]
  membership : Membership := .registered
  deriving Repr

/-- The service that is being called at a stage. -/
def SessionStage.called : SessionStage → Option Backend
  | .dialling backend _ _ => some backend
  | .exchange (.dialling _ _) => some .httpLogin
  | _ => none

namespace Session

/-- Whether a session has ended. -/
def isEnded (s : Session) : Bool :=
  match s.stage with
  | .ended _ => true
  | _ => false

/-- The session at another stage. Where that begins a call, the call is noted. -/
def enter (c : SessionSettings) (s : Session) (stage : SessionStage) : Session :=
  match s.stage.called, stage.called with
  | none, some backend =>
    { s with stage, calls := s.calls ++ [(backend, c.backends.address backend)] }
  | _, _ => { s with stage }

/-- The session at its end, its connections let go of. -/
def finish (s : Session) (how : SessionEnd) : Session :=
  { s with stage := .ended how, wires := s.wires.release }

/-- The session with something counted. -/
def count (s : Session) (ledger : Ledger) : Session := { s with ledger := s.ledger ++ ledger }

/-- The session with its connections as given. -/
def on (s : Session) (wires : Wires) : Session := { s with wires }

/-- The session once its first bytes are there. -/
def dispatch (c : SessionSettings) (now : Nat) (s : Session) (opening : Bytes) : Session :=
  let protocol := c.classify opening
  let s := { s with route := some ⟨opening, protocol⟩ }.count [(.classified protocol, 1)]
  match protocol.backend with
  | .httpLogin => s.enter c (.exchange (Exchange.start c.gateway now opening))
  | backend => s.enter c (.dialling backend opening (now + c.connect))

/-- The session after a step of its exchange. -/
def exchanged (c : SessionSettings) (s : Session) : Exchange → Session
  | .ended (.ok verdict) => s.finish (.answered verdict)
  | .ended (.error fault) => s.finish (.failed (.clientWrite fault))
  | x => s.enter c (.exchange x)

/-- The session after a write of the opening that leaves `rest`. -/
def replayed (c : SessionSettings) (s : Session) (rest : Bytes) : Session :=
  s.enter c (if rest.isEmpty then .relaying {} else .replaying rest)

/-- The session after a step of its relay. -/
def relayed (c : SessionSettings) (s : Session) (r : Relay) : Session :=
  match r.result? with
  | none => s.enter c (.relaying r)
  | some (.ok stats) => s.finish (.relayed stats)
  | some (.error error) => s.finish (.failed (.relay error))

/-- A step of a session that has not been told to end, unless it has to wait. -/
def step (c : SessionSettings) (now : Nat) (t : Turn) (s : Session) : Option Session :=
  let w := s.wires
  match s.stage with
  | .admitted => some (s.enter c (.priming (now + c.initialRead)))
  | .priming deadline =>
    match w.client.source.await c.sniff now deadline with
    | (none, _) => none
    | (some reading, source) =>
      let s := s.on (w.fromClient source)
      match reading with
      | .timedOut => some (s.finish .silent)
      | .failed fault => some (s.finish (.failed (.clientRead fault)))
      | .bytes [] => some (s.finish .noData)
      | .bytes opening => some (s.dispatch c now opening)
  | .exchange x =>
    (x.step c.gateway now t.dial w).map fun (x, w, ledger) => ((s.on w).count ledger).exchanged c x
  | .dialling backend opening deadline =>
    let address := c.backends.address backend
    let failure : Ledger := [(.connectFailures backend, 1)]
    match t.dial with
    | some .accepted =>
      let held := { w with backend := { w.backend with hold := .held } }
      some ((s.on held).enter c (.replaying opening))
    | some (.refused fault) =>
      some ((s.count failure).finish (.failed (.connect backend address fault)))
    | none =>
      if deadline ≤ now then
        some ((s.count failure).finish (.failed (.connectTimeout backend address)))
      else none
  | .replaying [] => some (s.replayed c [])
  | .replaying rest =>
    match w.backend.sink.push rest with
    | (none, _) => none
    | (some (.error fault), sink) =>
      some ((s.on (w.toBackend sink)).finish (.failed (.backendWrite fault)))
    | (some (.ok rest), sink) => some ((s.on (w.toBackend sink)).replayed c rest)
  | .relaying r =>
    (r.step c.relayChunk t.pump w).map fun (r, w, ledger) => ((s.on w).count ledger).relayed c r
  | .ended _ => none

/-- A step of a session, unless it has to wait. One that has been told to end does that first. -/
def poll (c : SessionSettings) (now : Nat) (cancelled : Bool) (t : Turn) (s : Session) :
    Option Session :=
  if s.isEnded then none
  else if cancelled then some (s.finish .cancelled)
  else s.step c now t

/-- The bytes that a session has in hand. -/
def inHand (s : Session) : Nat :=
  match s.stage with
  | .exchange x => x.inHand
  | .dialling _ rest _ | .replaying rest => rest.length
  | .relaying r => RelayRun.inHand r.up + RelayRun.inHand r.down
  | .admitted | .priming _ | .ended _ => 0

/-- More steps than the bytes that are there can take, with an answer from here among them. -/
def bound (s : Session) : Nat := 4 * (s.wires.unread + s.inHand) + 1024

end Session

end TrafficRouter
