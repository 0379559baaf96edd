import TrafficRouter.Metrics
import TrafficRouter.Registry

/-!
# A roster

A registry at work: guards of the sessions that were registered, the slots that they hold, the
waits that were begun, and the clock. A session is registered with a slot and gives both up when its
guard is dropped. A wait looks at the registry when it begins and each time its task is polled, and
ends with the first look that lets it; what came and went between two looks it does not see.

`Roster.run` follows a list of what is done, the polls among it, in any order; `Roster.settled` polls
each wait once. An operation on a guard or a wait that there is not changes nothing, and neither does
a registration without a free slot.
-/

namespace TrafficRouter

/-- What a registered session holds: its id, and its own token, which it shares with no other. -/
structure SessionGuard where
  id : SessionId
  ownCancelled : Bool := false
  dropped : Bool := false
  deriving DecidableEq, Repr

/-- A wait for the sessions to end. -/
structure Drain where
  deadline : Option Nat
  result : Option (Except DrainTimeout Unit) := none
  deriving Repr

/-- What can be done with a roster. Guards are known by their places. -/
inductive RosterAct where
  | register (peer : SocketAddress)
  | drop (i : Nat)
  | setProtocol (i : Nat) (protocol : Protocol)
  | setUnknown (protocol : Protocol)
  | cancelAll
  | cancelSession (i : Nat)
  | wait (limit : Option Nat)
  | shutdown (limit : Option Nat)
  /-- Time passes. -/
  | advance (ms : Nat)
  /-- The task of a wait is polled, by the place of the wait. -/
  | poll (n : Nat)
  deriving DecidableEq, Repr

/-- A wait that looks at a registry, and ends if that lets it. -/
def Drain.look (d : Drain) (r : Registry) (now : Nat) : Drain :=
  { d with result := d.result.or (r.drained now d.deadline) }

/-- A registry with its guards, in order of registration, the free slots, the id to be given next,
the waits in order, and the time in milliseconds. -/
structure Roster where
  freeSlots : Nat
  registry : Registry := {}
  nextId : SessionId := firstSessionId
  guards : List SessionGuard := []
  drains : List Drain := []
  now : Nat := 0
  deriving Repr

namespace Roster

/-- A session is registered under the next id, if a slot is free. -/
def register (r : Roster) (peer : SocketAddress) : Option Roster :=
  if r.freeSlots = 0 then none
  else some { r with
    freeSlots := r.freeSlots - 1
    registry := r.registry.register r.nextId peer
    nextId := r.nextId + 1
    guards := r.guards ++ [{ id := r.nextId }] }

/-- A guard is dropped: the session leaves, and then its slot is free. -/
def drop (r : Roster) (i : Nat) : Roster :=
  match r.guards[i]? with
  | some g =>
    if g.dropped then r
    else { r with
      registry := r.registry.deregister g.id
      freeSlots := r.freeSlots + 1
      guards := r.guards.set i { g with dropped := true } }
  | none => r

/-- The protocol of a guard's session is known. -/
def setProtocol (r : Roster) (i : Nat) (protocol : Protocol) : Roster :=
  match r.guards[i]? with
  | some g => if g.dropped then r else { r with registry := r.registry.setProtocol g.id protocol }
  | none => r

/-- A protocol is set for an id that no session has; the id is used up. -/
def setUnknown (r : Roster) (protocol : Protocol) : Roster :=
  { r with registry := r.registry.setProtocol r.nextId protocol, nextId := r.nextId + 1 }

/-- All sessions are told to end. -/
def cancelAll (r : Roster) : Roster := { r with registry := r.registry.cancelAll }

/-- One session is told to end. -/
def cancelSession (r : Roster) (i : Nat) : Roster :=
  match r.guards[i]? with
  | some g => { r with guards := r.guards.set i { g with ownCancelled := true } }
  | none => r

/-- A wait begins with a look, with a limit in milliseconds or none. -/
def wait (r : Roster) (limit : Option Nat) : Roster :=
  { r with drains := r.drains ++
      [({ deadline := limit.map (r.now + ·) } : Drain).look r.registry r.now] }

/-- All sessions are told to end, and a wait begins. -/
def shutdown (r : Roster) (limit : Option Nat) : Roster := r.cancelAll.wait limit

/-- Time passes. -/
def advance (r : Roster) (ms : Nat) : Roster := { r with now := r.now + ms }

/-- The task of a wait is polled. -/
def poll (r : Roster) (n : Nat) : Roster :=
  { r with drains := r.drains.modify n (·.look r.registry r.now) }

/-- The roster after something was done. -/
def act (r : Roster) : RosterAct → Roster
  | .register peer => (r.register peer).getD r
  | .drop i => r.drop i
  | .setProtocol i protocol => r.setProtocol i protocol
  | .setUnknown protocol => r.setUnknown protocol
  | .cancelAll => r.cancelAll
  | .cancelSession i => r.cancelSession i
  | .wait limit => r.wait limit
  | .shutdown limit => r.shutdown limit
  | .advance ms => r.advance ms
  | .poll n => r.poll n

/-- The roster after all of it. -/
def run (r : Roster) (acts : List RosterAct) : Roster := acts.foldl act r

/-- The roster once each wait has been polled. -/
def settled (r : Roster) : Roster := r.run ((List.range r.drains.length).map .poll)

/-- What was counted: each registration. -/
def ledger (r : Roster) : Ledger := r.guards.map fun _ => (.connections, 1)

/-- Whether the token of a guard is cancelled, by its own or with all others. -/
def isCancelled (r : Roster) (g : SessionGuard) : Bool := g.ownCancelled || r.registry.cancelled

end Roster

end TrafficRouter
