import TrafficRouter.Address.Socket
import TrafficRouter.Routing

/-!
# The registry of sessions

Which sessions are open. The registry keeps an entry for each, publishes how many there are, and
knows whether all of them have been told to end. The entries and the published count are changed one
after the other, so that each of `insert`, `raise`, `remove` and `lower` is a step of its own that
others may come between; `register` and `deregister` are the two pairs.

Ids come from a count that all registries share and that only grows, so no two sessions ever have
the same one.

A `Drain` waits until no session is open, for as long as it is told to.
-/

namespace TrafficRouter

/-- The name of a session. -/
abbrev SessionId := Nat

/-- The first id given out. -/
def firstSessionId : SessionId := 1

/-- What the registry knows of a session. The protocol is not known before the first bytes. -/
structure RegistryEntry where
  id : SessionId
  peer : SocketAddress
  protocol : Option Protocol := none
  deriving DecidableEq, Repr

/-- The open sessions in the order in which they were registered, how many are published as open,
and whether all have been told to end. -/
structure Registry where
  entries : List RegistryEntry := []
  live : Nat := 0
  cancelled : Bool := false
  deriving DecidableEq, Repr

namespace Registry

/-- Whether a session has an entry. -/
def has (r : Registry) (id : SessionId) : Bool := r.entries.any (·.id == id)

/-- The first half of a registration: the entry. -/
def insert (r : Registry) (id : SessionId) (peer : SocketAddress) : Registry :=
  { r with entries := r.entries ++ [{ id, peer }] }

/-- The second half of a registration: the count. -/
def raise (r : Registry) : Registry := { r with live := r.live + 1 }

/-- A session enters. -/
def register (r : Registry) (id : SessionId) (peer : SocketAddress) : Registry :=
  (r.insert id peer).raise

/-- The first half of a departure: the entry. -/
def remove (r : Registry) (id : SessionId) : Registry :=
  { r with entries := r.entries.filter (·.id != id) }

/-- The second half of a departure: the count. -/
def lower (r : Registry) : Registry := { r with live := r.live - 1 }

/-- A session leaves. One that has no entry changes nothing. -/
def deregister (r : Registry) (id : SessionId) : Registry :=
  if r.has id then (r.remove id).lower else r

/-- The protocol of a session is known. One that has no entry changes nothing. -/
def setProtocol (r : Registry) (id : SessionId) (protocol : Protocol) : Registry :=
  { r with
    entries := r.entries.map fun e =>
      if e.id = id then { e with protocol := some protocol } else e }

/-- The open sessions, oldest first: in the order in which they got their entries. -/
def snapshot (r : Registry) : List RegistryEntry := r.entries

/-- All sessions are told to end, those to come among them. -/
def cancelAll (r : Registry) : Registry := { r with cancelled := true }

end Registry

/-! ## Waiting for the sessions to end -/

/-- So many sessions were still open when the time was up. -/
structure DrainTimeout where
  remaining : Nat
  deriving DecidableEq, Repr

def DrainTimeout.message (t : DrainTimeout) : String :=
  toString t.remaining ++ " sessions still open after drain deadline"

/-- What a wait comes to at a given time, unless it goes on: it ends well when no session is open,
however late that is noticed, and otherwise when its deadline, if it has one, is reached. -/
def Registry.drained (r : Registry) (now : Nat) (deadline : Option Nat) :
    Option (Except DrainTimeout Unit) :=
  if r.live = 0 then some (.ok ())
  else if deadline.any (· ≤ now) then some (.error ⟨r.live⟩)
  else none

end TrafficRouter
