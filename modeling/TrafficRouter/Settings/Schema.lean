import TrafficRouter.Routing

/-!
# Settings

What can be set, section by section, with the value that each setting has where nothing is said.
Times are in milliseconds, the drain limit in seconds, sizes in bytes.
-/

namespace TrafficRouter

/-- The public port and how many sessions it admits at a time. -/
structure ListenerSettings where
  bindAddress : String := "0.0.0.0:7170"
  maxConnections : Nat := 10000
  deriving DecidableEq, Repr

/-- Where the three services are, each as `host:port`. -/
structure BackendSettings where
  login : String := "127.0.0.1:7171"
  game : String := "127.0.0.1:7172"
  http : String := "127.0.0.1:8090"
  deriving DecidableEq, Repr

/-- From which length on a binary connection is a game session. -/
structure ClassifierSettings where
  loginLengthThreshold : Nat := 150
  deriving DecidableEq, Repr

/-- How long each wait may last. -/
structure TimeoutSettings where
  /-- The wait for the first bytes of a connection. -/
  initialRead : Nat := 5000
  /-- The wait for a service to accept. -/
  connect : Nat := 5000
  /-- Each wait for more of a request. -/
  clientRead : Nat := 5000
  /-- Each wait for more of a response whose end is known or whose head is not complete. -/
  backendRead : Nat := 10000
  /-- The silence that ends a response without a declared length. -/
  responseIdle : Nat := 100
  /-- The wait for sessions to end at shutdown, in seconds; zero is no limit. -/
  shutdownDrain : Nat := 30
  deriving DecidableEq, Repr

/-- How much is read or kept at a time. -/
structure BufferSettings where
  /-- The most that is read before a connection is classified. -/
  sniff : Nat := 1024
  /-- The most that a relay moves at a time. -/
  relayChunk : Nat := 8192
  /-- The longest HTTP message that is kept. -/
  maxHttpMessage : Nat := 1048576
  deriving DecidableEq, Repr

/-- What is logged and counted for others to see. -/
structure ObservabilitySettings where
  logLevel : String := "info"
  metricsEnabled : Bool := false
  metricsAddress : String := "0.0.0.0:9090"
  deriving DecidableEq, Repr

/-- All settings. -/
structure Settings where
  listener : ListenerSettings := {}
  backends : BackendSettings := {}
  classifier : ClassifierSettings := {}
  timeouts : TimeoutSettings := {}
  buffers : BufferSettings := {}
  observability : ObservabilitySettings := {}
  deriving DecidableEq, Repr

/-- The limit on the wait for sessions to end, in milliseconds, if there is one. -/
def TimeoutSettings.drainLimit (t : TimeoutSettings) : Option Nat :=
  if t.shutdownDrain = 0 then none else some (t.shutdownDrain * 1000)

/-- Where a service is. -/
def BackendSettings.address (b : BackendSettings) : Backend → String
  | .httpLogin => b.http
  | .login => b.login
  | .game => b.game

end TrafficRouter
