import TrafficRouter.Address.Socket
import TrafficRouter.Stream.Fault

/-!
# Hosts

What the machine that a program runs on lets happen on its network: which sockets can listen
(`Host.bind`), and what comes of an attempt to connect to a service of the same machine
(`Host.dial`). Two listening sockets are in each other's way if their ports agree and an address of
one is an address of the other, where the address zero stands for all (`IpAddress.covers`).

Not here: what travels over a connection. That is in `TrafficRouter.Stream.Duplex`.
-/

namespace TrafficRouter

/-- Why a socket cannot listen. -/
inductive BindFault where
  | addressInUse
  | addressNotAvailable
  /-- Any other fault, by the text that the system has for it. -/
  | reported (text : String)
  deriving DecidableEq, Repr

def BindFault.text : BindFault → String
  | .addressInUse => "Address already in use (os error 98)"
  | .addressNotAvailable => "Cannot assign requested address (os error 99)"
  | .reported text => text

/-- Whether listening on the first address takes in the second. The zero address of version 4
takes in all of version 4, that of version 6 all there are. -/
def IpAddress.covers (a b : IpAddress) : Bool :=
  match a, b with
  | .v4 0 0 0 0, .v4 .. => true
  | .v6 [0, 0, 0, 0, 0, 0, 0, 0], _ => true
  | _, _ => a = b

/-- Whether two sockets cannot both listen. Port zero is a port that no other socket has. -/
def SocketAddress.collides (a b : SocketAddress) : Bool :=
  a.port != 0 && a.port == b.port && (a.ip.covers b.ip || b.ip.covers a.ip)

/-- A machine: the addresses that are its own, the sockets that listen already, and whether its
programs reach each other. -/
structure Host where
  owns : IpAddress → Bool := fun _ => true
  listening : List SocketAddress := []
  connects : Bool := true

/-- Whether a socket can listen at an address. -/
def Host.bind (h : Host) (a : SocketAddress) : Except BindFault Unit :=
  if !h.owns a.ip then .error .addressNotAvailable
  else if h.listening.any a.collides then .error .addressInUse
  else .ok ()

/-- The state of a service: it takes connections, nothing listens there, or its queue of
connections is full and it takes none off. -/
inductive Readiness where
  | up
  | down
  | stuck
  deriving DecidableEq, Repr

/-- What a service has answered to an attempt to connect. -/
inductive DialAnswer where
  | accepted
  | refused (fault : IoFault)
  deriving DecidableEq, Repr

/-- The fault of an attempt to connect to where nothing listens. -/
def connectionRefused : IoFault := .reported "Connection refused (os error 111)"

/-- What a service answers to an attempt to connect, if it answers. -/
def Host.dial (h : Host) : Readiness → Option DialAnswer
  | .stuck => none
  | .down => some (.refused connectionRefused)
  | .up => some (if h.connects then .accepted else .refused connectionRefused)

/-- Whether there can be a service of the given state: it takes connections to fill a queue of
them. -/
def Host.allows (h : Host) (r : Readiness) : Bool := h.connects || r != .stuck

end TrafficRouter
