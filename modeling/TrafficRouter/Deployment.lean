import TrafficRouter.Listener
import TrafficRouter.Server

/-!
# Deployments

A server with the clients and the three services around it, on one host. Clients are numbered as
they connect, and the connections of each service as they reach it; what someone does at the outer
end of a connection is an `OuterAct`. After each step everything runs until nothing more can happen
(`Deployment.step`), so what can be seen at the outer ends (`OuterView`) is at rest.

A client connects as long as the server has not returned, and connections are made only on a host
that makes any.
-/

namespace TrafficRouter

/-! ## 1. Outer ends -/

/-- What is done at the outer end of a connection. -/
inductive OuterAct where
  | send (bytes : Bytes)
  /-- The writing side is closed. -/
  | finish
  | close
  | reset
  deriving DecidableEq, Repr

/-- What an act means to the inner end. -/
def OuterAct.peerAction : OuterAct → PeerAction
  | .send bytes => .flow bytes
  | .finish => .finish
  | .close => .leave .closed
  | .reset => .leave (.failed .connectionReset)

/-- How far the outer end of a connection is closed. -/
inductive OuterEnd where
  | opened
  /-- It writes nothing more. -/
  | finished
  | gone
  deriving DecidableEq, Repr

/-- The outer end after an act. -/
def OuterEnd.after (e : OuterEnd) : OuterAct → OuterEnd
  | .send _ => e
  | .finish => .finished
  | .close | .reset => .gone

/-- Whether an act reaches the inner end: nothing is sent on a side that was closed. -/
def OuterEnd.lets (e : OuterEnd) : OuterAct → Bool
  | .send _ | .finish => e = .opened
  | .close | .reset => e ≠ .gone

/-- What can be seen at the outer end of a connection: the bytes received, and whether the stream
has ended. An end that is gone sees no more. -/
structure OuterView where
  got : Bytes
  closed : Bool
  deriving DecidableEq, Repr

/-- The outer view of a connection, given its inner end. -/
def OuterEnd.view (e : OuterEnd) (inner : Duplex) : OuterView where
  got := inner.sink.delivered
  closed := e ≠ .gone && (inner.sink.isShutdown || inner.hold = .released)

/-! ## 2. Deployments -/

/-- A connection that a service has taken: the service, the place of the session, and the outer
end. -/
structure ServiceLine where
  backend : Backend
  place : Nat
  outer : OuterEnd := .opened
  deriving DecidableEq, Repr

/-- A server among its clients and services. -/
structure Deployment where
  host : Host
  settings : ServerSettings
  services : Backend → Readiness
  server : Server
  /-- The outer ends of the clients, by number. -/
  clients : List OuterEnd := []
  /-- The connections that services have taken, in order. -/
  lines : List ServiceLine := []

/-- What is done from outside. -/
inductive DeploymentAct where
  | connect
  /-- From now on accepting fails, or works. -/
  | starve (fails : Bool)
  | client (number : Nat) (act : OuterAct)
  /-- Something is done at a connection of a service, by its number at that service. -/
  | service (backend : Backend) (number : Nat) (act : OuterAct)
  | advance (ms : Nat)
  | shutdown
  deriving DecidableEq, Repr

/-- What comes of an act from outside. -/
inductive ActResult where
  | done
  /-- The connection was refused. -/
  | refused
  /-- There is no such connection, or its outer end is gone. -/
  | noTarget
  deriving DecidableEq, Repr

namespace Deployment

/-- A deployment at its start, if there can be one: the pool must not be too large, and each service
must be of a state that the host allows. -/
def start? (host : Host) (settings : ServerSettings) (services : Backend → Readiness) :
    Option Deployment :=
  let playable := [Backend.login, .game, .httpLogin].all fun b => host.allows (services b)
  if settings.slots ≤ maxSlots ∧ playable then
    some { host, settings, services, server := .start settings }
  else none

/-- What each service answers to an attempt to connect. -/
def answers (d : Deployment) : Server.Services := fun b => d.host.dial (d.services b)

/-- Where a client connects from. -/
def peerOf (number : Nat) : SocketAddress := { ip := .v4 127 0 0 1, port := 49152 + number % 16384 }

/-- The service that a session is connected to, or was. -/
def connectedTo (s : Session) : Option Backend :=
  if s.wires.backend.hold = .absent then none else (s.calls.getLast?).map (·.1)

/-- The connections that services have taken and that are not in the list yet. -/
def newLines (d : Deployment) : List ServiceLine :=
  ((d.server.sessions.map connectedTo).zipIdx).filterMap fun (backend, place) =>
    if d.lines.any (·.place == place) then none else backend.map fun backend => { backend, place }

/-- The deployment once nothing more can happen. -/
def settled (d : Deployment) : Deployment :=
  let d := { d with server := d.server.settled d.settings d.answers }
  { d with lines := d.lines ++ d.newLines }

/-- The deployment after labels of the server. -/
def happens (d : Deployment) (labels : List Label) : Deployment :=
  { d with server := d.server.run d.settings labels }

/-- The connection of a service with the given number, by its place in the list. -/
def lineOf (d : Deployment) (backend : Backend) (number : Nat) : Option (ServiceLine × Nat) :=
  (d.lines.zipIdx.filter (·.1.backend = backend))[number]?

/-- An act from outside, with nothing following from it yet. -/
def act (d : Deployment) : DeploymentAct → ActResult × Deployment
  | .connect =>
    if d.host.connects ∧ ¬ d.server.isReturned then
      let next := d.happens [.arrive (peerOf d.server.arrivals)]
      (.done, { next with clients := d.clients ++ [.opened] })
    else (.refused, d)
  | .starve fails => (.done, d.happens [.starve fails])
  | .client number a =>
    match d.clients[number]? with
    | none | some .gone => (.noTarget, d)
    | some e =>
      let d := if e.lets a then d.happens [.client number a.peerAction] else d
      (.done, { d with clients := d.clients.set number (e.after a) })
  | .service backend number a =>
    match d.lineOf backend number with
    | none | some ({ outer := .gone, .. }, _) => (.noTarget, d)
    | some (line, i) =>
      let d := if line.outer.lets a then d.happens [.backend line.place a.peerAction] else d
      (.done, { d with lines := d.lines.set i { line with outer := line.outer.after a } })
  | .advance ms => (.done, d.happens [.advance ms])
  | .shutdown => (.done, d.happens [.shutdown])

/-- Acts at one moment and what follows from them; the result is that of the last one. -/
def step (d : Deployment) (acts : List DeploymentAct) : ActResult × Deployment :=
  let (result, d) := acts.foldl (fun (_, d) a => d.act a) (.done, d)
  (result, d.settled)

/-! ## 3. What can be seen -/

/-- The inner end of a client's connection. -/
def clientLine (d : Deployment) (number : Nat) : Duplex :=
  match d.server.queue.find? (·.client = number) with
  | some a => a.line
  | none =>
    match d.server.sessions.find? (·.client = number) with
    | some s => s.wires.client
    | none => {}

/-- What each client sees. -/
def clientViews (d : Deployment) : List OuterView :=
  d.clients.zipIdx.map fun (e, number) => e.view (d.clientLine number)

/-- What a service sees on each of its connections. -/
def serviceViews (d : Deployment) (backend : Backend) : List OuterView :=
  (d.lines.filter (·.backend = backend)).filterMap fun line =>
    (d.server.sessions[line.place]?).map fun s => line.outer.view s.wires.backend

/-- What the first bytes of each session made of it. -/
def protocols (d : Deployment) : List (Option Protocol) :=
  d.server.sessions.map fun s => s.route.map (·.protocol)

/-- How the server returned, if it has. -/
def result? (d : Deployment) : Option (Except DrainTimeout Unit) :=
  match d.server.accept with
  | .returned result => some result
  | _ => none

end Deployment

end TrafficRouter
