import TrafficRouter.Gateway.Outcome
import TrafficRouter.Stream.Duplex

/-!
# Collecting a response

The response of the service ends where its declared length says. A response without one ends when
the service closes, or when it has been silent for a while; before the head is complete there is no
such rule. Bytes behind a declared end are dropped.

`Collection.run` follows a list of reads; `patience` is how long the next read may take.
-/

namespace TrafficRouter

open Http (MessageBuffer Framing)

/-- How far the collecting of a response is. -/
inductive Collection where
  | reading (buffer : MessageBuffer) (framing : Framing)
  | complete (response : Bytes)
  | failed (error : GatewayError)
  deriving DecidableEq, Repr

namespace Collection

/-- Where a response stands with the bytes of a buffer. -/
def ofBuffer (buffer : MessageBuffer) : Collection :=
  match buffer.framing with
  | .error e => .failed (.message e)
  | .ok (.complete length) => .complete (buffer.truncate length).bytes
  | .ok framing => .reading buffer framing

/-- Where a response stands after more bytes. -/
def ofExtended (extended : Except Http.MessageError MessageBuffer) : Collection :=
  match extended with
  | .error e => .failed (.message e)
  | .ok buffer => ofBuffer buffer

/-- The start: nothing has been read. -/
def start (limit : Nat) : Collection := ofBuffer { limit }

/-- Where a response stands after one more read. -/
def feed : Collection → Reading → Collection
  | .reading buffer .unbounded, .timedOut => .complete buffer.bytes
  | .reading _ _, .timedOut => .failed .receiveTimeout
  | .reading _ _, .failed fault => .failed (.receive fault)
  | .reading buffer .unbounded, .bytes [] => .complete buffer.bytes
  | .reading buffer _, .bytes [] => .failed (.incomplete buffer.bytes.length)
  | .reading buffer _, .bytes chunk => ofExtended (buffer.extend chunk)
  | done, _ => done

/-- Where a response stands after some reads. -/
def run (collection : Collection) (reads : List Reading) : Collection :=
  reads.foldl feed collection

/-- How long a read may take, given the wait for a known end and that for silence. -/
def patience (known silence : Nat) : Framing → Nat
  | .unbounded => silence
  | _ => known

end Collection

end TrafficRouter
