import TrafficRouter.Listener
import TrafficRouter.Server

/-!
# Start and end of the router

The address for metrics is looked at first, if metrics are on; then the public port is opened, and
the server begins. It goes on until it is asked to stop, and then waits for its sessions.
-/

namespace TrafficRouter

/-- Why the router does not start, or does not end well. -/
inductive StartupError where
  | listen (address : String) (source : ListenerError)
  /-- The text is no address of a socket. -/
  | metricsAddress (text : String)
  | drain (timeout : DrainTimeout)
  deriving DecidableEq, Repr

def StartupError.message : StartupError → String
  | .listen address source => "cannot listen on " ++ address ++ ": " ++ source.message
  | .metricsAddress text => "invalid metrics address " ++ text
  | .drain timeout => timeout.message

/-- What a start comes to. -/
inductive Startup where
  | serving (listener : Listener) (server : Server)
  | failed (error : StartupError)
  /-- The program stopped while the public port was being opened. -/
  | aborted
  deriving Repr

namespace Startup

/-- The metrics address that cannot be used, if metrics are on. -/
def badMetricsAddress (s : ObservabilitySettings) : Option String :=
  if s.metricsEnabled && (SocketAddress.parse? s.metricsAddress).isNone then some s.metricsAddress
  else none

/-- The router is started on a host. -/
def ofSettings (host : Host) (s : Settings) : Startup :=
  match badMetricsAddress s.observability with
  | some text => .failed (.metricsAddress text)
  | none =>
    match Listener.opening host s.listener with
    | .aborted => .aborted
    | .failed error => .failed (.listen s.listener.bindAddress error)
    | .listening listener => .serving listener (.start (.ofSettings s))

/-- What a server comes to that is asked to stop and has nothing more to do, once it is at its
end. -/
def stop (c : ServerSettings) (server : Server) : Option (Except StartupError Unit) :=
  match ((server.run c [.shutdown]).settled c fun _ => none).accept with
  | .returned (.ok ()) => some (.ok ())
  | .returned (.error timeout) => some (.error (.drain timeout))
  | _ => none

end Startup

end TrafficRouter
