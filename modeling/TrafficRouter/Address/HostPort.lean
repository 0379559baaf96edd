import TrafficRouter.Text.Numeral

/-!
# Host and port

The address of a service, `host:port`. The last colon divides it, so that a host may hold colons
of its own. Only the shape is looked at here: a host is any text but the empty one.

`override` lays a new host, a new port or both over an address; the part that is not given keeps
its text.
-/

namespace TrafficRouter.HostPort

/-- The texts before and behind the last colon. -/
def split? (address : String) : Option (String × String) :=
  match address.toList.reverse.span (· != ':') with
  | (port, _ :: host) => some (String.ofList host.reverse, String.ofList port.reverse)
  | (_, []) => none

/-- Host, colon and port. -/
def join (host port : String) : String := host ++ ":" ++ port

/-- The host of an address: what stands before the last colon, or all of it if there is none. -/
def hostOf (address : String) : String :=
  match split? address with
  | some (host, _) => host
  | none => address

/-- The port of an address: what stands behind the last colon, or nothing if there is none. -/
def portOf (address : String) : String :=
  match split? address with
  | some (_, port) => port
  | none => ""

/-- An address with the given host or port or both in place of its own. -/
def override (host : Option String) (port : Option Nat) (address : String) : String :=
  if host.isNone && port.isNone then address
  else join (host.getD (hostOf address)) ((port.map toString).getD (portOf address))

/-- What can be wrong with the address of a service. -/
inductive Problem where
  /-- No colon, or nothing before the last one. -/
  | notHostPort
  /-- The port is a numeral of value zero. -/
  | zeroPort
  /-- The port is no numeral, or one out of range. -/
  | invalidPort
  deriving DecidableEq, Repr

/-- The problem of an address, if it has one. -/
def problem? (address : String) : Option Problem :=
  match split? address with
  | none => some .notHostPort
  | some (host, port) =>
    if host.isEmpty then some .notHostPort
    else
      match Numeral.unsigned? Numeral.maxWord16 port.toList with
      | none => some .invalidPort
      | some 0 => some .zeroPort
      | some _ => none

end TrafficRouter.HostPort
