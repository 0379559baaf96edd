import TrafficRouter.CommandLine
import TrafficRouter.Logging
import TrafficRouter.Startup

/-!
# The program

One call of the program, from its arguments to its exit: what it logs, what it prints, and how it
ends (`Program.run`). A call that starts the router keeps it running until the system asks it to
stop. An error that ends the program is printed in full, with the names of its parts
(`ProgramError.detail`).
-/

namespace TrafficRouter

/-! ## 1. What is logged -/

/-- A message of the program. -/
inductive Message where
  | configurationLoaded (bindAddress : String) (maxConnections threshold : Nat)
  | backendsConfigured (backends : BackendSettings)
  | accepting
  | signalReceived
  | shutdownRequested
  | sessionsClosed
  | listenerClosed
  | shutdownComplete
  deriving DecidableEq, Repr

def Message.text : Message → String
  | .configurationLoaded .. => "Configuration loaded"
  | .backendsConfigured _ => "Backends configured"
  | .accepting => "Proxy accepting connections"
  | .signalReceived => "Received shutdown signal"
  | .shutdownRequested => "Shutdown requested, no longer accepting connections"
  | .sessionsClosed => "All client sessions closed"
  | .listenerClosed => "Listener closed"
  | .shutdownComplete => "Shutdown complete"

/-- The named values that a message carries. -/
def Message.fields : Message → List (String × String)
  | .configurationLoaded bindAddress maxConnections threshold =>
    [("bind_address", bindAddress), ("max_connections", toString maxConnections),
      ("login_threshold", toString threshold)]
  | .backendsConfigured b => [("login", b.login), ("game", b.game), ("http", b.http)]
  | _ => []

/-! ## 2. How the program fails -/

/-- Why the program ends with an error. -/
inductive ProgramError where
  | load (error : LoadError)
  | startup (error : StartupError)
  deriving DecidableEq, Repr

/-- A name with named parts. -/
def record (name : String) (parts : List (String × String)) : String :=
  name ++ " \x7b " ++ ", ".intercalate (parts.map fun p => p.1 ++ ": " ++ p.2) ++ " \x7d"

/-- A fault of the system with its number, kind and text. -/
def systemFault (code : Nat) (kind text : String) : String :=
  record "Os" [("code", toString code), ("kind", kind), ("message", Text.quote text)]

/-- A fault without a number. -/
def otherFault (kind text : String) : String :=
  record "Custom" [("kind", kind), ("error", Text.quote text)]

def FileFault.detail : FileFault → String
  | .notFound => systemFault 2 "NotFound" "No such file or directory"
  | .isDirectory => systemFault 21 "IsADirectory" "Is a directory"
  | .notUtf8 =>
    record "Error" [("kind", "InvalidData"), ("message", Text.quote FileFault.notUtf8.text)]
  | .other text => otherFault "Other" text

def Violation.detail (v : Violation) : String :=
  record "ValidationError"
    [("field", Text.quote v.field.path), ("message", Text.quote v.problem.message)]

def LoadError.detail : LoadError → String
  | .file fault => "Io(" ++ fault.detail ++ ")"
  | .malformed => "Parse"
  | .invalid violations =>
    "Validation([" ++ ", ".intercalate (violations.map Violation.detail) ++ "])"

def BindFault.detail : BindFault → String
  | .addressInUse => systemFault 98 "AddrInUse" "Address already in use"
  | .addressNotAvailable => systemFault 99 "AddrNotAvailable" "Cannot assign requested address"
  | .reported text => otherFault "Other" text

def ListenerError.detail : ListenerError → String
  | .invalidAddress text => "InvalidAddress(" ++ Text.quote text ++ ")"
  | .bind fault => "Bind(" ++ fault.detail ++ ")"
  | .accept fault => "Accept(" ++ otherFault "Other" fault.text ++ ")"
  | .closed => "Closed"

def StartupError.detail : StartupError → String
  | .listen address source =>
    record "Listen" [("address", Text.quote address), ("source", source.detail)]
  | .metricsAddress text => "MetricsAddress(" ++ Text.quote text ++ ")"
  | .drain timeout =>
    "Drain(" ++ record "DrainTimeout" [("remaining", toString timeout.remaining)] ++ ")"

/-- The full text of an error. -/
def ProgramError.detail : ProgramError → String
  | .load error => error.detail
  | .startup error => error.detail

/-! ## 3. A call -/

/-- How the program ends. -/
inductive Exit where
  | success
  | failure (error : ProgramError)
  | badArguments (error : ArgumentError)
  /-- The program stopped where it could not go on. -/
  | aborted
  deriving DecidableEq, Repr

/-- The number with which the program ends. -/
def Exit.code : Exit → Nat
  | .success => 0
  | .failure _ => 1
  | .badArguments _ => 2
  | .aborted => 101

/-- The line that says why the program ends, if there is one. -/
def Exit.complaint : Exit → Option String
  | .failure error => some ("Error: " ++ error.detail)
  | .badArguments error => some ("error: " ++ error.message)
  | .success | .aborted => none

/-- What a call shows: the messages that it logs, what else it prints, and how it ends. -/
structure Report where
  exit : Exit
  log : List Message := []
  output : String := ""
  deriving DecidableEq, Repr

namespace Program

def versionText : String := "crystal-proxy 0.1.0\n"

def helpText : String :=
  "\n".intercalate
    ["Single-port login/game traffic router",
      "",
      "Usage: crystal-proxy [OPTIONS]",
      "",
      "Options:",
      "  -c, --config <CONFIG>          TOML configuration file",
      "      --proxy-port <PROXY_PORT>  Public port to listen on (all interfaces)",
      "      --login-host <LOGIN_HOST>  ",
      "      --login-port <LOGIN_PORT>  ",
      "      --game-host <GAME_HOST>    ",
      "      --game-port <GAME_PORT>    ",
      "      --http-host <HTTP_HOST>    Web server handling /login.php",
      "      --http-port <HTTP_PORT>    ",
      "  -v, --verbose                  Debug logging for the proxy",
      "  -h, --help                     Print help",
      "  -V, --version                  Print version",
      ""]

/-- What the router logs and how it ends once it serves and is asked to stop, with no client there.
-/
def serve (s : Settings) (server : Server) : List Message × Exit :=
  let asked : List Message :=
    [.backendsConfigured s.backends, .accepting, .signalReceived, .shutdownRequested]
  match Startup.stop (.ofSettings s) server with
  | some (.error error) => (asked ++ [.listenerClosed], .failure (.startup error))
  | _ => (asked ++ [.sessionsClosed, .listenerClosed, .shutdownComplete], .success)

/-- What is logged under some settings and how the program ends. -/
def start (host : Host) (s : Settings) : List Message × Exit :=
  let loaded := Message.configurationLoaded s.listener.bindAddress s.listener.maxConnections
    s.classifier.loginLengthThreshold
  match Startup.ofSettings host s with
  | .failed error => ([loaded], .failure (.startup error))
  | .aborted => ([loaded], .aborted)
  | .serving _ server =>
    let (log, exit) := serve s server
    (loaded :: log, exit)

/-- A call on a host, with what each path leads to and the arguments. -/
def run (host : Host) (files : String → FileEntry) (arguments : List String) : Report :=
  match CommandLine.ofArguments arguments with
  | .error .help => { exit := .success, output := helpText }
  | .error .version => { exit := .success, output := versionText }
  | .error (.error error) => { exit := .badArguments error }
  | .ok line =>
    match line.resolve files with
    | .error error => { exit := .failure (.load error) }
    | .ok s =>
      let (log, exit) := start host s
      let shown := Logging.showsOrdinary s.observability.logLevel line.verbose
      { exit, log := if shown then log else [] }

end Program

end TrafficRouter
