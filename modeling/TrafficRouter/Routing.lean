import TrafficRouter.Bytes

/-!
# Routing

The first bytes of a connection decide which of three services it is for. A method token makes it
an HTTP request. Otherwise the first two bytes are read as a little-endian length: a login
handshake is short, a game session is not. One byte or none decides nothing, and such a
connection goes to the game service; no connection is refused.

The length is a hint only; it is never compared with what follows.
-/

namespace TrafficRouter

/-! ## 1. Protocols and services -/

/-- What the first bytes of a connection say about it. -/
inductive Protocol where
  | http
  | login
  | game
  /-- Too few bytes to read a length. -/
  | indeterminate
  deriving DecidableEq, Repr

/-- The services behind the public port. -/
inductive Backend where
  | httpLogin
  | login
  | game
  deriving DecidableEq, Repr

def Protocol.name : Protocol → String
  | .http => "http"
  | .login => "login"
  | .game => "game"
  | .indeterminate => "indeterminate"

def Backend.name : Backend → String
  | .httpLogin => "http_login"
  | .login => "login"
  | .game => "game"

/-- The service for a protocol. -/
def Protocol.backend : Protocol → Backend
  | .http => .httpLogin
  | .login => .login
  | .game | .indeterminate => .game

/-! ## 2. Classification -/

/-- The tokens that begin an HTTP request, each with the space behind the method. -/
def methodTokens : List Bytes :=
  [ascii ['G', 'E', 'T', ' '], ascii ['P', 'O', 'S', 'T', ' '], ascii ['P', 'U', 'T', ' '],
    ascii ['D', 'E', 'L', 'E', 'T', 'E', ' '], ascii ['H', 'E', 'A', 'D', ' '],
    ascii ['O', 'P', 'T', 'I', 'O', 'N', 'S', ' ']]

/-- Whether the bytes begin with a method token. -/
def isHttpRequest (bytes : Bytes) : Bool := methodTokens.any (·.isPrefixOf bytes)

/-- The first two bytes as a number, the low byte first. -/
def lengthHeader : Bytes → Option Nat
  | low :: high :: _ => some (low.toNat + 256 * high.toNat)
  | _ => none

/-- The protocol of a connection with the given first bytes; a length below `threshold` is that
of a login handshake. -/
def classify (threshold : Nat) (bytes : Bytes) : Protocol :=
  if isHttpRequest bytes then .http
  else
    match lengthHeader bytes with
    | none => .indeterminate
    | some length => if length < threshold then .login else .game

end TrafficRouter
