import TrafficRouter.Bytes
import TrafficRouter.Stream.Fault

/-!
# Connections

One end of a connection: a source of bytes to read and a sink for bytes to write. What the peer
does is a `PeerAction`; what this side does is `Source.read`, `Sink.write` and closing.

A source holds what has arrived and not been read, in the pieces in which it arrived; a read
returns bytes of one piece only. A sink accepts a part of what is offered, as much as its peer lets
it, and may make the writer wait; `Sink.delivered` is everything that it has accepted.

Not here: time. `Source.await` is told the clock and the deadline of the read.
-/

namespace TrafficRouter

/-! ## 1. Sources -/

/-- How a source ends once its bytes are read. -/
inductive Ending where
  | closed
  | failed (fault : IoFault)
  deriving DecidableEq, Repr

/-- What has arrived and not been read, and how the source ends if it does. -/
structure Source where
  pieces : List Bytes := []
  ending : Option Ending := none
  deriving DecidableEq, Repr

/-- What one read comes to. No bytes mean that the peer has closed. -/
inductive Reading where
  | bytes (bytes : Bytes)
  | failed (fault : IoFault)
  | timedOut
  deriving DecidableEq, Repr

namespace Source

/-- The bytes that have not been read. -/
def unread (s : Source) : Bytes := s.pieces.flatten

/-- A read of at most `max` bytes: what it returns, unless it has to wait, and the source after
it. -/
def read (max : Nat) (s : Source) : Option Reading × Source :=
  match s.pieces with
  | piece :: pieces =>
    let rest := piece.drop max
    (some (.bytes (piece.take max)),
      { s with pieces := if rest.isEmpty then pieces else rest :: pieces })
  | [] =>
    match s.ending with
    | none => (none, s)
    | some .closed => (some (.bytes []), s)
    | some (.failed fault) => (some (.failed fault), s)

/-- A read that waits no longer than to `deadline`. What is there is read, however late it is. -/
def await (max now deadline : Nat) (s : Source) : Option Reading × Source :=
  match s.read max with
  | (none, s) => (if deadline ≤ now then some .timedOut else none, s)
  | found => found

/-- A piece that arrives. No bytes are no piece. -/
def arrive (piece : Bytes) (s : Source) : Source :=
  if piece.isEmpty then s else { s with pieces := s.pieces ++ [piece] }

/-- Bytes that arrive and run into what has not been read. -/
def flow (bytes : Bytes) (s : Source) : Source :=
  match s.pieces with
  | [] => s.arrive bytes
  | pieces => { s with pieces := pieces.dropLast ++ [pieces.getLastD [] ++ bytes] }

/-- The end of the source. A failure comes before a close. -/
def finish (ending : Ending) (s : Source) : Source :=
  match s.ending, ending with
  | some (.failed _), .closed => s
  | _, _ => { s with ending := some ending }

end Source

/-! ## 2. Sinks -/

/-- What a write does at a sink that may accept nothing. -/
inductive Exhausted where
  | block
  | zero
  | fail (fault : IoFault)
  deriving DecidableEq, Repr

/-- Where written bytes go. -/
structure Sink where
  /-- The most that one write accepts. -/
  perWrite : Option Nat := none
  /-- How much more is accepted. -/
  budget : Option Nat := none
  exhausted : Exhausted := .block
  flushFault : Option IoFault := none
  shutdownFault : Option IoFault := none
  /-- What was accepted by each write, the latest first. -/
  writes : List Bytes := []
  /-- Whether the end of the writing was announced to the peer. -/
  isShutdown : Bool := false
  deriving DecidableEq, Repr

/-- What one write comes to. -/
inductive Writing where
  | accepted (count : Nat)
  | failed (fault : IoFault)
  deriving DecidableEq, Repr

namespace Sink

/-- All bytes accepted so far. -/
def delivered (s : Sink) : Bytes := s.writes.reverse.flatten

/-- How many of `offered` bytes a write accepts. -/
def room (s : Sink) (offered : Nat) : Nat :=
  min (min offered (s.perWrite.getD offered)) (s.budget.getD offered)

/-- The sink after accepting the first bytes of those offered. -/
def accept (s : Sink) (count : Nat) (bytes : Bytes) : Sink :=
  { s with budget := s.budget.map (· - count), writes := bytes.take count :: s.writes }

/-- A write: what it comes to, unless it has to wait, and the sink after it. -/
def write (bytes : Bytes) (s : Sink) : Option Writing × Sink :=
  if s.budget = some 0 then
    match s.exhausted with
    | .block => (none, s)
    | .zero => (some (.accepted 0), s)
    | .fail fault => (some (.failed fault), s)
  else
    let count := s.room bytes.length
    (some (.accepted count), s.accept count bytes)

@[simp] theorem delivered_accept (s : Sink) (count : Nat) (bytes : Bytes) :
    (s.accept count bytes).delivered = s.delivered ++ bytes.take count := by
  simp [delivered, accept]

/-- The part of a write of which the writer learns: the bytes still to be written, or why it must
stop. A sink that accepts nothing of something is at fault. -/
def push (bytes : Bytes) (s : Sink) : Option (Except IoFault Bytes) × Sink :=
  match s.write bytes with
  | (none, s) => (none, s)
  | (some (.failed fault), s) => (some (.error fault), s)
  | (some (.accepted 0), s) => (some (.error .writeZero), s)
  | (some (.accepted count), s) => (some (.ok (bytes.drop count)), s)

/-- The end of the writing is announced, whether or not that fails. -/
def shutdown (s : Sink) : Sink := { s with isShutdown := true }

end Sink

/-! ## 3. Both together -/

/-- Whether this side holds the connection. -/
inductive Hold where
  /-- Not yet: there is no connection. -/
  | absent
  | held
  | released
  deriving DecidableEq, Repr

/-- One end of a connection. -/
structure Duplex where
  source : Source := {}
  sink : Sink := {}
  hold : Hold := .held
  deriving DecidableEq, Repr

/-- What the peer of a connection does. -/
inductive PeerAction where
  /-- Sends bytes that are read by themselves. -/
  | send (bytes : Bytes)
  /-- Sends bytes that run into those before them. -/
  | flow (bytes : Bytes)
  /-- Closes its writing side. -/
  | finish
  /-- Makes reading fail, behind what was sent before. -/
  | fail (fault : IoFault)
  /-- Goes away: nothing more can be read, and writing fails. -/
  | leave (ending : Ending)
  /-- Lets so many more bytes be written to it, or any number. -/
  | allow (budget : Option Nat)
  /-- Changes the most that one write to it accepts, what a write does that may accept nothing, and
  how flushing and closing fail. -/
  | govern (perWrite : Option Nat) (exhausted : Exhausted)
      (flushFault shutdownFault : Option IoFault)
  deriving DecidableEq, Repr

namespace Duplex

/-- The connection after what the peer did. -/
def act (d : Duplex) : PeerAction → Duplex
  | .send bytes => { d with source := d.source.arrive bytes }
  | .flow bytes => { d with source := d.source.flow bytes }
  | .finish => { d with source := d.source.finish .closed }
  | .fail fault => { d with source := d.source.finish (.failed fault) }
  | .leave ending =>
    { d with
      source := d.source.finish ending
      sink := { d.sink with budget := some 0, exhausted := .fail .brokenPipe } }
  | .allow budget => { d with sink := { d.sink with budget } }
  | .govern perWrite exhausted flushFault shutdownFault =>
    { d with sink := { d.sink with perWrite, exhausted, flushFault, shutdownFault } }

/-- The connection once this side has let go of it. -/
def release (d : Duplex) : Duplex :=
  { d with hold := if d.hold = .held then .released else d.hold }

end Duplex

/-- The two connections of one session. -/
structure Wires where
  client : Duplex := {}
  backend : Duplex := { hold := .absent }
  deriving DecidableEq, Repr

namespace Wires

/-- Both connections, let go of. -/
def release (w : Wires) : Wires := ⟨w.client.release, w.backend.release⟩

/-- The wires after a write to the client. -/
def toClient (w : Wires) (sink : Sink) : Wires := { w with client := { w.client with sink } }

/-- The wires after a write to the service. -/
def toBackend (w : Wires) (sink : Sink) : Wires := { w with backend := { w.backend with sink } }

/-- The wires after a read from the client. -/
def fromClient (w : Wires) (source : Source) : Wires :=
  { w with client := { w.client with source } }

/-- The wires after a read from the service. -/
def fromBackend (w : Wires) (source : Source) : Wires :=
  { w with backend := { w.backend with source } }

/-- The wires after what the client did. -/
def clientActs (w : Wires) (action : PeerAction) : Wires := { w with client := w.client.act action }

/-- The wires after what the service did. -/
def backendActs (w : Wires) (action : PeerAction) : Wires :=
  { w with backend := w.backend.act action }

/-- How many bytes have arrived and not been read, on both connections. -/
def unread (w : Wires) : Nat := w.client.source.unread.length + w.backend.source.unread.length

end Wires

end TrafficRouter
