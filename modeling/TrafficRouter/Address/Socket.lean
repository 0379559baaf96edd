import TrafficRouter.Address.Ip

/-!
# Socket addresses

An address and a port: `1.2.3.4:80`, or `[::1]:80` with an optional numeric scope behind the
address, as in `[fe80::1%2]:80`. The port has any number of digits and no sign.
-/

namespace TrafficRouter

/-- Where a socket listens. The scope is that of a version 6 address, zero if none is given. -/
structure SocketAddress where
  ip : IpAddress
  scope : Nat := 0
  port : Nat
  deriving DecidableEq, Repr

namespace SocketAddress

/-- A colon and a port. -/
def readPort (text : List Char) : Option (Nat × List Char) :=
  IpAddress.readMark ':' text >>= IpAddress.readNumeral 10 none true Numeral.maxWord16

/-- An address of version 4 and a port. -/
def readV4 (text : List Char) : Option (SocketAddress × List Char) := do
  let ((a, b, c, d), text) ← IpAddress.readV4 text
  let (port, text) ← readPort text
  some ({ ip := .v4 a b c d, port }, text)

/-- A percent sign and a scope, if they are there. -/
def readScope (text : List Char) : Nat × List Char :=
  match IpAddress.readMark '%' text >>= IpAddress.readNumeral 10 none true Numeral.maxWord32 with
  | some found => found
  | none => (0, text)

/-- A bracketed address of version 6 and a port. -/
def readV6 (text : List Char) : Option (SocketAddress × List Char) := do
  let text ← IpAddress.readMark '[' text
  let (groups, text) ← IpAddress.readV6 text
  let (scope, text) := readScope text
  let text ← IpAddress.readMark ']' text
  let (port, text) ← readPort text
  some ({ ip := .v6 groups, scope, port }, text)

/-- The socket address that a text is, nothing before it and nothing behind. -/
def parse? (text : String) : Option SocketAddress :=
  match (readV4 text.toList).orElse fun _ => readV6 text.toList with
  | some (address, []) => some address
  | _ => none

/-- The text of a socket address; a scope of zero is left out. -/
def print (a : SocketAddress) : String :=
  match a.ip with
  | .v4 .. => a.ip.print ++ ":" ++ toString a.port
  | .v6 _ =>
    let scope := if a.scope = 0 then "" else "%" ++ toString a.scope
    "[" ++ a.ip.print ++ scope ++ "]:" ++ toString a.port

end SocketAddress

end TrafficRouter
