import TrafficRouter.Gateway.Outcome
import TrafficRouter.Stream.Duplex

/-!
# Taking in a request

The request of an HTTP connection is collected from the bytes read when it was classified and from
what the client sends after them, until its framing says that it is complete or has no end. All
that was read is kept, so what is forwarded is what came.

`Intake.run` follows a list of reads; `rejectionOf` decides about a complete request.
-/

namespace TrafficRouter

open Http (MessageBuffer)

/-- How far the taking in of a request is. -/
inductive Intake where
  | reading (buffer : MessageBuffer)
  | complete (request : MessageBuffer)
  | rejected (rejection : Rejection)
  deriving DecidableEq, Repr

namespace Intake

/-- Where a request stands with the bytes of a buffer. -/
def ofBuffer (buffer : MessageBuffer) : Intake :=
  match buffer.framing with
  | .error e => .rejected (.message e)
  | .ok (.complete _) | .ok .unbounded => .complete buffer
  | .ok .awaitingHeaders | .ok (.awaitingBody _) => .reading buffer

/-- Where a request stands after more bytes. -/
def ofExtended (extended : Except Http.MessageError MessageBuffer) : Intake :=
  match extended with
  | .error e => .rejected (.message e)
  | .ok buffer => ofBuffer buffer

/-- The start: some bytes of the request are there. -/
def start (limit : Nat) (initial : Bytes) : Intake :=
  ofExtended (MessageBuffer.ofInitial limit initial)

/-- Where a request stands after one more read. -/
def feed : Intake → Reading → Intake
  | .reading _, .timedOut => .rejected .clientTimeout
  | .reading _, .failed _ | .reading _, .bytes [] => .rejected .clientClosed
  | .reading buffer, .bytes chunk => ofExtended (buffer.extend chunk)
  | done, _ => done

/-- Where a request stands after some reads. -/
def run (intake : Intake) (reads : List Reading) : Intake := reads.foldl feed intake

end Intake

/-- Why a complete request is not forwarded, if it is not. -/
def rejectionOf (request : MessageBuffer) : Option Rejection :=
  match request.requestLine with
  | none => some .malformedRequestLine
  | some line => if line.isLogin then none else some (.noRoute line.method line.path)

end TrafficRouter
