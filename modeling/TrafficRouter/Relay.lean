import TrafficRouter.Metrics
import TrafficRouter.Settle
import TrafficRouter.Stream.Duplex

/-!
# The relay

Bytes go both ways between a client and a service until one of the two stops. Each way has a pump,
which reads a chunk, writes all of it, flushes, and only then counts it and reads the next. The
pumps take turns in any order (`Relay.step` is told whose turn it is); neither waits for the other.

The first pump to end, because its source closed or because reading, writing or flushing failed,
ends the relay: the other one stops where it is, both connections are closed for writing, the
service's first, and both are let go of. Failures of that closing change nothing.

Not here: what the bytes mean.
-/

namespace TrafficRouter

/-! ## 1. The connections of a direction -/

namespace Wires

/-- Where a direction reads. -/
def sourceOf (w : Wires) : Direction → Source
  | .clientToBackend => w.client.source
  | .backendToClient => w.backend.source

/-- Where a direction writes. -/
def sinkOf (w : Wires) : Direction → Sink
  | .clientToBackend => w.backend.sink
  | .backendToClient => w.client.sink

/-- The wires with another source for a direction. -/
def setSource (w : Wires) (source : Source) : Direction → Wires
  | .clientToBackend => w.fromClient source
  | .backendToClient => w.fromBackend source

/-- The wires with another sink for a direction. -/
def setSink (w : Wires) (sink : Sink) : Direction → Wires
  | .clientToBackend => w.toBackend sink
  | .backendToClient => w.toClient sink

end Wires

/-! ## 2. Pumps -/

/-- What a pump is about to do. -/
inductive PumpStage where
  | reading
  /-- Bytes of the chunk in hand are still to be written. -/
  | writing (rest : Bytes)
  | flushing
  deriving DecidableEq, Repr

/-- One way of a relay: what it is about to do, the size of the chunk in hand, and how many bytes it
has moved, in chunks written in full and flushed. -/
structure Pump where
  stage : PumpStage := .reading
  chunk : Nat := 0
  moved : Nat := 0
  deriving DecidableEq, Repr

/-- What a turn of a pump comes to. -/
inductive PumpTurn where
  /-- There is nothing to read, or no room to write. -/
  | waits
  | goesOn (pump : Pump) (wires : Wires)
  /-- The source closed, or there was a fault. -/
  | ends (fault : Option IoFault) (wires : Wires)

/-- A turn of a pump. -/
def Pump.turn (chunkSize : Nat) (d : Direction) (p : Pump) (w : Wires) : PumpTurn :=
  match p.stage with
  | .reading =>
    match (w.sourceOf d).read chunkSize with
    | (none, _) => .waits
    | (some (.bytes []), source) => .ends none (w.setSource source d)
    | (some (.bytes chunk), source) =>
      .goesOn { p with stage := .writing chunk, chunk := chunk.length } (w.setSource source d)
    | (some (.failed fault), source) => .ends (some fault) (w.setSource source d)
    | (some .timedOut, _) => .waits
  | .writing rest =>
    match (w.sinkOf d).push rest with
    | (none, _) => .waits
    | (some (.error fault), sink) => .ends (some fault) (w.setSink sink d)
    | (some (.ok []), sink) => .goesOn { p with stage := .flushing } (w.setSink sink d)
    | (some (.ok rest), sink) => .goesOn { p with stage := .writing rest } (w.setSink sink d)
  | .flushing =>
    match (w.sinkOf d).flushFault with
    | some fault => .ends (some fault) w
    | none => .goesOn { p with stage := .reading, moved := p.moved + p.chunk } w

/-! ## 3. The relay -/

/-- Which pump ended a relay, and by what fault if it was one. -/
structure RelayEnding where
  direction : Direction
  fault : Option IoFault
  deriving DecidableEq, Repr

/-- How far a relay is. -/
inductive RelayStage where
  | pumping
  | closingBackend (ending : RelayEnding)
  | closingClient (ending : RelayEnding)
  | ended (ending : RelayEnding)
  deriving DecidableEq, Repr

/-- The two pumps of a relay and how far it is. -/
structure Relay where
  up : Pump := {}
  down : Pump := {}
  stage : RelayStage := .pumping
  deriving DecidableEq, Repr

/-- How a relay failed: the pump, the fault, and the bytes moved up and down before. -/
structure RelayError where
  direction : Direction
  fault : IoFault
  transferred : Nat × Nat
  deriving DecidableEq, Repr

def RelayError.message (e : RelayError) : String :=
  "relay " ++ e.direction.name ++ " failed: " ++ e.fault.text

/-- What a relay did that a closed source ended. -/
structure RelayStats where
  clientToBackend : Nat
  backendToClient : Nat
  closedBy : Direction
  deriving DecidableEq, Repr

namespace Relay

/-- The pump of a direction. -/
def pump (r : Relay) : Direction → Pump
  | .clientToBackend => r.up
  | .backendToClient => r.down

/-- The relay with another pump for a direction. -/
def setPump (r : Relay) (p : Pump) : Direction → Relay
  | .clientToBackend => { r with up := p }
  | .backendToClient => { r with down := p }

/-- What the relay came to, once it has ended. -/
def result? (r : Relay) : Option (Except RelayError RelayStats) :=
  match r.stage with
  | .ended ⟨direction, none⟩ => some (.ok ⟨r.up.moved, r.down.moved, direction⟩)
  | .ended ⟨direction, some fault⟩ => some (.error ⟨direction, fault, r.up.moved, r.down.moved⟩)
  | _ => none

/-- A step of the relay, a turn of the given pump while both run. Its end counts what was moved. -/
def step (chunkSize : Nat) (turn : Direction) (r : Relay) (w : Wires) :
    Option (Relay × Wires × Ledger) :=
  match r.stage with
  | .pumping =>
    match (r.pump turn).turn chunkSize turn w with
    | .waits => none
    | .goesOn p w => some (r.setPump p turn, w, [])
    | .ends fault w => some ({ r with stage := .closingBackend ⟨turn, fault⟩ }, w, [])
  | .closingBackend ending =>
    some ({ r with stage := .closingClient ending }, w.toBackend w.backend.sink.shutdown, [])
  | .closingClient ending =>
    some ({ r with stage := .ended ending }, (w.toClient w.client.sink.shutdown).release,
      [(.relayBytes .clientToBackend, r.up.moved), (.relayBytes .backendToClient, r.down.moved)])
  | .ended _ => none

end Relay

/-! ## 4. A relay by itself -/

/-- What can happen around a relay. -/
inductive RelayLabel where
  | client (action : PeerAction)
  | backend (action : PeerAction)
  /-- A step, with the given pump's turn. -/
  | turn (pump : Direction)
  deriving DecidableEq, Repr

/-- A relay with its connections and what it has counted. -/
structure RelayRun where
  chunkSize : Nat := 8192
  relay : Relay := {}
  wires : Wires := {}
  ledger : Ledger := []
  deriving Repr

namespace RelayRun

/-- A step with the given pump's turn. -/
def step (turn : Direction) (r : RelayRun) : Option RelayRun :=
  (r.relay.step r.chunkSize turn r.wires).map fun (relay, wires, ledger) =>
    { r with relay, wires, ledger := r.ledger ++ ledger }

/-- A step of each pump that has one, if any has. -/
def round (r : RelayRun) : Option RelayRun :=
  match r.step .clientToBackend with
  | some s => some ((s.step .backendToClient).getD s)
  | none => r.step .backendToClient

/-- The bytes in the hands of a pump. -/
def inHand (p : Pump) : Nat :=
  match p.stage with
  | .writing rest => rest.length
  | _ => 0

/-- More steps than the bytes that are there can take. -/
def bound (r : RelayRun) : Nat :=
  4 * (r.wires.unread + inHand r.relay.up + inHand r.relay.down) + 16

/-- The run once nothing more happens. -/
def settled (r : RelayRun) : RelayRun := settle round r.bound r

/-- Where a label leads; a turn of a pump that waits changes nothing. -/
def happen (r : RelayRun) : RelayLabel → RelayRun
  | .client action => { r with wires := r.wires.clientActs action }
  | .backend action => { r with wires := r.wires.backendActs action }
  | .turn pump => (r.step pump).getD r

/-- The run after some labels. -/
def run (r : RelayRun) (labels : List RelayLabel) : RelayRun := labels.foldl happen r

end RelayRun

end TrafficRouter
