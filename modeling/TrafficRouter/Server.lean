import TrafficRouter.Session

/-!
# The server

Clients that arrive are held by the system until the accept loop takes them. The loop first takes a
slot and then a client, registers the session, and lets it run; with no slot free it waits, and
after an accept that failed it pauses. Once shutdown is asked for it takes no more clients, tells
all sessions to end and waits until they have left or the time for that is up.

A session that has ended leaves the registry first and then frees its slot, each a step of its own.

What happens is a `Label`: something that the world does, a step of the accept loop, or a step of
one session. `Server.step` says where a label leads, and `Server.run` follows a list of them, in any
order; `Server.settled` is one such order, which goes on until nothing can happen.
-/

namespace TrafficRouter

/-! ## 1. The state -/

/-- How long the loop pauses after an accept that failed, in milliseconds. -/
def acceptPause : Nat := 50

/-- How far the accept loop is. -/
inductive AcceptStage where
  /-- About to take a slot. -/
  | idle
  /-- It has a slot and waits for a client. -/
  | holding
  | pausing (resumeAt : Nat)
  /-- No more clients are taken; the sessions are to end. -/
  | draining (deadline : Option Nat)
  | returned (result : Except DrainTimeout Unit)
  deriving Repr

/-- A client that the system holds: its number, its address and its connection. -/
structure Arrival where
  client : Nat
  peer : SocketAddress
  line : Duplex := {}
  deriving DecidableEq, Repr

/-- What a server needs to know. -/
structure ServerSettings where
  session : SessionSettings
  slots : Nat
  /-- The limit on the wait for sessions to end, in milliseconds. -/
  drainLimit : Option Nat

/-- The settings of a server with a classifier of its own. -/
def ServerSettings.withClassifier (classify : Bytes → Protocol) (s : Settings) :
    ServerSettings where
  session := .withClassifier classify s
  slots := s.listener.maxConnections
  drainLimit := s.timeouts.drainLimit

/-- The settings of a server. -/
def ServerSettings.ofSettings (s : Settings) : ServerSettings :=
  .withClassifier (TrafficRouter.classify s.classifier.loginLengthThreshold) s

/-- A server: the time, the clients not yet taken and how many ever arrived, the free slots, the
accept loop, whether accepting fails and whether shutdown was asked for, the registry and the id to
be given next, and all sessions that there ever were, in order of admission. -/
structure Server where
  now : Nat := 0
  queue : List Arrival := []
  arrivals : Nat := 0
  freeSlots : Nat
  accept : AcceptStage := .idle
  starved : Bool := false
  shutdown : Bool := false
  registry : Registry := {}
  nextId : SessionId := firstSessionId
  sessions : List Session := []
  deriving Repr

/-! ## 2. What happens -/

/-- What can happen. -/
inductive Label where
  /-- Time passes. -/
  | advance (ms : Nat)
  | arrive (peer : SocketAddress)
  /-- A client does something, by its number. -/
  | client (number : Nat) (action : PeerAction)
  /-- The service does something on the connection of a session, by the session's place. -/
  | backend (place : Nat) (action : PeerAction)
  /-- From now on accepting fails, or works. -/
  | starve (fails : Bool)
  | shutdown
  /-- A step of the accept loop. -/
  | accept
  /-- A step of a session, by its place. -/
  | poll (place : Nat) (turn : Turn)
  deriving DecidableEq, Repr

namespace Server

/-- The start. -/
def start (c : ServerSettings) : Server := { freeSlots := c.slots }

/-- What the server and its sessions have counted. -/
def ledger (s : Server) : Ledger := s.sessions.flatMap (·.ledger)

/-- Whether the server is at its end. -/
def isReturned (s : Server) : Bool :=
  match s.accept with
  | .returned _ => true
  | _ => false

/-- The session at a place replaced. -/
def setSession (s : Server) (place : Nat) (session : Session) : Server :=
  { s with sessions := s.sessions.set place session }

/-- A client does something, whether or not it has been taken. -/
def clientActs (s : Server) (number : Nat) (action : PeerAction) : Server :=
  { s with
    queue := s.queue.map fun a =>
      if a.client = number then { a with line := a.line.act action } else a
    sessions := s.sessions.map fun session =>
      if session.client = number then
        session.on (session.wires.clientActs action)
      else session }

/-- The service does something on the connection of a session. -/
def backendActs (s : Server) (place : Nat) (action : PeerAction) : Server :=
  match s.sessions[place]? with
  | some session =>
    s.setSession place (session.on (session.wires.backendActs action))
  | none => s

/-- A client is taken: it is registered and its session begins, with the slot that was held for
it. -/
def takeClient (s : Server) (a : Arrival) (rest : List Arrival) : Server :=
  { s with
    queue := rest
    accept := .idle
    registry := s.registry.register s.nextId a.peer
    nextId := s.nextId + 1
    sessions := s.sessions ++
      [{ id := s.nextId, client := a.client, wires := { client := a.line } }] }

/-- The end of the taking: a slot that was held is free again, all sessions are told to end, and
the wait for them begins. -/
def beginDrain (c : ServerSettings) (s : Server) : Server :=
  { s with
    freeSlots := match s.accept with
      | .holding => s.freeSlots + 1
      | _ => s.freeSlots
    accept := .draining (c.drainLimit.map (s.now + ·))
    registry := s.registry.cancelAll }

/-- A step of the accept loop, unless it has to wait. It looks first whether shutdown was asked
for. -/
def acceptStep (c : ServerSettings) (s : Server) : Option Server :=
  match s.accept with
  | .returned _ => none
  | .draining deadline =>
    (s.registry.drained s.now deadline).map fun result =>
      { s with
        accept := .returned result
        queue := s.queue.map fun a => { a with line := a.line.release } }
  | .idle =>
    if s.shutdown then some (s.beginDrain c)
    else if s.freeSlots = 0 then none
    else some { s with freeSlots := s.freeSlots - 1, accept := .holding }
  | .holding =>
    if s.shutdown then some (s.beginDrain c)
    else
      match s.queue with
      | [] => none
      | a :: rest =>
        if s.starved then
          some { s with freeSlots := s.freeSlots + 1, accept := .pausing (s.now + acceptPause) }
        else some (s.takeClient a rest)
  | .pausing resumeAt =>
    if s.shutdown then some (s.beginDrain c)
    else if resumeAt ≤ s.now then some { s with accept := .idle }
    else none

/-- The registry once a session's protocol is known. -/
def noteRoute (r : Registry) (session : Session) : Registry :=
  match session.route with
  | some route => r.setProtocol session.id route.protocol
  | none => r

/-- A step of the session at a place, unless it has to wait: one of its own, or, once it has ended,
its leaving the registry and then its freeing the slot. -/
def sessionStep (c : ServerSettings) (s : Server) (place : Nat) (t : Turn) : Option Server :=
  match s.sessions[place]? with
  | none => none
  | some session =>
    if session.isEnded then
      match session.membership with
      | .registered =>
        some { s.setSession place { session with membership := .leaving } with
          registry := s.registry.deregister session.id }
      | .leaving =>
        some { s.setSession place { session with membership := .gone } with
          freeSlots := s.freeSlots + 1 }
      | .gone => none
    else
      (session.poll c.session s.now s.registry.cancelled t).map fun next =>
        { s.setSession place next with registry := noteRoute s.registry next }

/-- Where a label leads, if it can happen. -/
def step (c : ServerSettings) (s : Server) : Label → Option Server
  | .advance ms => some { s with now := s.now + ms }
  | .arrive peer =>
    if s.isReturned then none
    else some { s with
      queue := s.queue ++ [{ client := s.arrivals, peer }], arrivals := s.arrivals + 1 }
  | .client number action => some (s.clientActs number action)
  | .backend place action => some (s.backendActs place action)
  | .starve fails => some { s with starved := fails }
  | .shutdown => some { s with shutdown := true }
  | .accept => s.acceptStep c
  | .poll place t => s.sessionStep c place t

/-- The server after some labels; one that cannot happen changes nothing. -/
def run (c : ServerSettings) (s : Server) (labels : List Label) : Server :=
  labels.foldl (fun s l => (s.step c l).getD s) s

/-! ## 3. Until nothing can happen -/

/-- What each service answers to an attempt to connect, if it answers. -/
abbrev Services := Backend → Option DialAnswer

/-- What a session hears from the service that it has called. -/
def hears (services : Services) (s : Server) (place : Nat) : Option DialAnswer :=
  ((s.sessions[place]?).bind (·.calls.getLast?)).bind (services ·.1)

/-- The steps that the server may take: one of the accept loop, and a turn of each pump for each
session. -/
def ownLabels (services : Services) (s : Server) : List Label :=
  .accept :: (List.range s.sessions.length).flatMap fun place =>
    [.poll place ⟨.clientToBackend, s.hears services place⟩,
      .poll place ⟨.backendToClient, s.hears services place⟩]

/-- Every step that the server may take, each once, if one of them can happen. -/
def round (c : ServerSettings) (services : Services) (s : Server) : Option Server :=
  let labels := s.ownLabels services
  if labels.any fun l => (s.step c l).isSome then some (s.run c labels) else none

/-- More rounds than the sessions that there are or will be can take. -/
def bound (s : Server) : Nat :=
  64 + (s.sessions.map Session.bound).foldl (· + ·) 0
    + (s.queue.map fun a => 4 * a.line.source.unread.length + 1100).foldl (· + ·) 0

/-- The server once nothing more can happen. -/
def settled (c : ServerSettings) (services : Services) (s : Server) : Server :=
  settle (round c services) s.bound s

end Server

end TrafficRouter
