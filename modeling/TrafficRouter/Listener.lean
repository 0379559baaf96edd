import TrafficRouter.Host
import TrafficRouter.Settings.Schema
import TrafficRouter.Stream.Fault

/-!
# The listener

The public port with its pool of slots, one for each session that may be open at a time. The
address must be that of a socket, the host must let a socket listen there, and only then is the
pool made. A pool has at most `maxSlots` slots; to ask for more is no error that a caller could
handle, and the program stops (`Opening.aborted`).
-/

namespace TrafficRouter

/-- The public port and the size of its pool. -/
structure Listener where
  address : SocketAddress
  slots : Nat
  deriving DecidableEq, Repr

/-- What can go wrong with the public port. -/
inductive ListenerError where
  /-- The text is no address of a socket. -/
  | invalidAddress (text : String)
  | bind (fault : BindFault)
  /-- One client could not be accepted; the next one may be. -/
  | accept (fault : IoFault)
  /-- There are no slots any more. -/
  | closed
  deriving DecidableEq, Repr

def ListenerError.message : ListenerError → String
  | .invalidAddress text => "Invalid listen address '" ++ text ++ "'"
  | .bind fault => "Cannot bind public port: " ++ fault.text
  | .accept fault => "Accept failed: " ++ fault.text
  | .closed => "Session slots closed"

/-- The most slots that a pool can have. -/
def maxSlots : Nat := (Nat.pow 2 64 - 1) / 8

/-- What the opening of the public port comes to. -/
inductive Opening where
  | listening (listener : Listener)
  | failed (error : ListenerError)
  /-- The pool was to have more slots than one can have, and the program stopped. -/
  | aborted
  deriving DecidableEq, Repr

/-- The public port is opened. -/
def Listener.opening (host : Host) (s : ListenerSettings) : Opening :=
  match SocketAddress.parse? s.bindAddress with
  | none => .failed (.invalidAddress s.bindAddress)
  | some address =>
    match host.bind address with
    | .error fault => .failed (.bind fault)
    | .ok () =>
      if maxSlots < s.maxConnections then .aborted else .listening ⟨address, s.maxConnections⟩

end TrafficRouter
