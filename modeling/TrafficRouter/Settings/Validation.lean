import TrafficRouter.Settings.Schema
import TrafficRouter.Address.HostPort
import TrafficRouter.Address.Socket

/-!
# Validation

Settings that can be read may still make no sense. Each rule looks at one field, a few of them with
another field beside it, and names the problem it finds; `Settings.violations` lists the problems of
all rules, in the order of the rules, so that a user sees them together.

The order is that of the sections: listener, services, classifier, timeouts, buffers, metrics.
-/

namespace TrafficRouter

/-- The fields that a rule can find fault with. -/
inductive Field where
  | bindAddress
  | maxConnections
  | login
  | game
  | http
  | loginLengthThreshold
  | initialRead
  | connect
  | clientRead
  | backendRead
  | responseIdle
  | sniff
  | relayChunk
  | maxHttpMessage
  | metricsAddress
  deriving DecidableEq, Repr

/-- The path of a field in a settings file. -/
def Field.path : Field → String
  | .bindAddress => "listener.bind_address"
  | .maxConnections => "listener.max_connections"
  | .login => "backends.login"
  | .game => "backends.game"
  | .http => "backends.http"
  | .loginLengthThreshold => "classifier.login_length_threshold"
  | .initialRead => "timeouts.initial_read_ms"
  | .connect => "timeouts.connect_ms"
  | .clientRead => "timeouts.client_read_ms"
  | .backendRead => "timeouts.backend_read_ms"
  | .responseIdle => "timeouts.response_idle_ms"
  | .sniff => "buffers.sniff_bytes"
  | .relayChunk => "buffers.relay_chunk_bytes"
  | .maxHttpMessage => "buffers.max_http_message_bytes"
  | .metricsAddress => "observability.metrics_address"

/-- What a rule can find. -/
inductive Problem where
  /-- The text is no address of a socket. -/
  | notSocketAddress (text : String)
  /-- Not one session would be admitted. -/
  | noSessions
  /-- The text is no address of a service. -/
  | service (text : String) (problem : HostPort.Problem)
  /-- No length is below the threshold. -/
  | noLogin
  /-- The value is zero. -/
  | zero
  /-- The length of a binary message does not fit. -/
  | belowLengthHeader
  /-- The first bytes of a request may not fit. -/
  | belowSniff
  deriving DecidableEq, Repr

def Problem.message : Problem → String
  | .notSocketAddress text => "'" ++ text ++ "' is not a socket address"
  | .noSessions => "must be at least 1"
  | .service text .notHostPort => "'" ++ text ++ "' is not host:port"
  | .service _ .zeroPort => "port must not be 0"
  | .service text .invalidPort => "invalid port in '" ++ text ++ "'"
  | .noLogin => "must be greater than 0 or no connection can reach the login backend"
  | .zero => "must be greater than 0"
  | .belowLengthHeader => "must be at least 2 to read the length header"
  | .belowSniff => "must not be smaller than buffers.sniff_bytes"

/-- A problem and where it is. -/
structure Violation where
  field : Field
  problem : Problem
  deriving DecidableEq, Repr

def Violation.message (v : Violation) : String := v.field.path ++ ": " ++ v.problem.message

/-! ## The rules -/

/-- The address of a socket must be one. -/
def socketRule (text : String) : Option Problem :=
  if (SocketAddress.parse? text).isSome then none else some (.notSocketAddress text)

/-- The address of a service must have the shape of one. -/
def serviceRule (text : String) : Option Problem :=
  (HostPort.problem? text).map (.service text)

/-- A value must not be below a bound. -/
def leastRule (bound value : Nat) (problem : Problem) : Option Problem :=
  if value < bound then some problem else none

/-- A field and what is wrong with it. -/
structure Rule where
  field : Field
  check : Settings → Option Problem

/-- All rules, in the order in which problems are listed. -/
def rules : List Rule :=
  [⟨.bindAddress, fun s => socketRule s.listener.bindAddress⟩,
    ⟨.maxConnections, fun s => leastRule 1 s.listener.maxConnections .noSessions⟩,
    ⟨.login, fun s => serviceRule s.backends.login⟩,
    ⟨.game, fun s => serviceRule s.backends.game⟩,
    ⟨.http, fun s => serviceRule s.backends.http⟩,
    ⟨.loginLengthThreshold, fun s => leastRule 1 s.classifier.loginLengthThreshold .noLogin⟩,
    ⟨.initialRead, fun s => leastRule 1 s.timeouts.initialRead .zero⟩,
    ⟨.connect, fun s => leastRule 1 s.timeouts.connect .zero⟩,
    ⟨.clientRead, fun s => leastRule 1 s.timeouts.clientRead .zero⟩,
    ⟨.backendRead, fun s => leastRule 1 s.timeouts.backendRead .zero⟩,
    ⟨.responseIdle, fun s => leastRule 1 s.timeouts.responseIdle .zero⟩,
    ⟨.sniff, fun s => leastRule 2 s.buffers.sniff .belowLengthHeader⟩,
    ⟨.relayChunk, fun s => leastRule 1 s.buffers.relayChunk .zero⟩,
    ⟨.maxHttpMessage, fun s => leastRule s.buffers.sniff s.buffers.maxHttpMessage .belowSniff⟩,
    ⟨.metricsAddress, fun s =>
      if s.observability.metricsEnabled then socketRule s.observability.metricsAddress else none⟩]

/-- What a rule finds in some settings. -/
def Rule.violation? (s : Settings) (r : Rule) : Option Violation :=
  (r.check s).map fun problem => ⟨r.field, problem⟩

namespace Settings

/-- Every problem of the settings. -/
def violations (s : Settings) : List Violation := rules.filterMap (Rule.violation? s)

/-- The settings, if they have no problem, and all problems otherwise. -/
def validate (s : Settings) : Except (List Violation) Settings :=
  if s.violations.isEmpty then .ok s else .error s.violations

end Settings

end TrafficRouter
