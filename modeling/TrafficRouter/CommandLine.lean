import TrafficRouter.Settings.Load

/-!
# The command line

Arguments are read from left to right, and the first one that is wrong, or that asks for help or
for the version, decides what becomes of the call (`CommandLine.ofArguments`). A flag that takes a
value takes it from behind an equals sign or from the next argument, which must not look like a flag
itself; no flag that sets something is given twice; there are no other arguments.

What the flags set is laid over the settings of the file, and those lie over what the schema says
(`CommandLine.overlay`). Only the result must make sense (`CommandLine.resolve`), so a flag may
repair a file.
-/

namespace TrafficRouter

/-! ## 1. What the flags set -/

/-- The parts of a service's address that flags replace. -/
structure AddressFlags where
  host : Option String := none
  port : Option Nat := none
  deriving DecidableEq, Repr

/-- What a command line sets. -/
structure CommandLine where
  config : Option String := none
  proxyPort : Option Nat := none
  login : AddressFlags := {}
  game : AddressFlags := {}
  http : AddressFlags := {}
  verbose : Bool := false
  deriving DecidableEq, Repr

/-- An address with the parts replaced that flags name. -/
def AddressFlags.apply (f : AddressFlags) (address : String) : String :=
  HostPort.override f.host f.port address

namespace CommandLine

/-- The address to listen at, on all interfaces if a port is given. -/
def bindAddress (c : CommandLine) (unset : String) : String :=
  match c.proxyPort with
  | some port => "0.0.0.0:" ++ toString port
  | none => unset

/-- The settings with what the flags set. -/
def overlay (c : CommandLine) (s : Settings) : Settings :=
  { s with
    listener := { s.listener with bindAddress := c.bindAddress s.listener.bindAddress }
    backends :=
      { login := c.login.apply s.backends.login
        game := c.game.apply s.backends.game
        http := c.http.apply s.backends.http } }

/-- The settings of a call, if they make sense: those of its file, or those of the schema, under
the flags. `files` says what a path leads to. -/
def resolve (c : CommandLine) (files : String → FileEntry) : Except LoadError Settings :=
  match c.config with
  | none => (c.overlay {}).check
  | some path => Settings.read (files path) >>= fun s => (c.overlay s).check

end CommandLine

/-! ## 2. Flags -/

/-- A flag that takes a value. -/
inductive ValueFlag where
  | config
  | proxyPort
  | host (backend : Backend)
  | port (backend : Backend)
  deriving DecidableEq, Repr

/-- The name of a service in a flag. -/
def Backend.flagName : Backend → String
  | .httpLogin => "http"
  | .login => "login"
  | .game => "game"

def ValueFlag.name : ValueFlag → String
  | .config => "config"
  | .proxyPort => "proxy-port"
  | .host backend => backend.flagName ++ "-host"
  | .port backend => backend.flagName ++ "-port"

/-- All flags that take a value. -/
def valueFlags : List ValueFlag :=
  [.config, .proxyPort, .host .login, .port .login, .host .game, .port .game, .host .httpLogin,
    .port .httpLogin]

/-- What is wrong with an argument. -/
inductive ArgumentError where
  | unexpected (argument : String)
  | valueMissing (flag : ValueFlag)
  | badValue (flag : ValueFlag) (value : String)
  | repeated (flag : String)
  deriving DecidableEq, Repr

def ArgumentError.message : ArgumentError → String
  | .unexpected argument => "unexpected argument '" ++ argument ++ "'"
  | .valueMissing flag => "a value is required for '--" ++ flag.name ++ "'"
  | .badValue flag value => "invalid value '" ++ value ++ "' for '--" ++ flag.name ++ "'"
  | .repeated flag => "the argument '--" ++ flag ++ "' cannot be used multiple times"

/-- Why reading the arguments stops early. -/
inductive Interruption where
  | help
  | version
  | error (error : ArgumentError)
  deriving DecidableEq, Repr

namespace CommandLine

/-- The value of a port flag. -/
def port? (value : List Char) : Option Nat :=
  match Numeral.signed? value with
  | some n => if 0 ≤ n ∧ n.toNat ≤ Numeral.maxWord16 then some n.toNat else none
  | none => none

/-- A value that is given once. -/
def once {α : Type} (flag : ValueFlag) (old : Option α) (value : α) :
    Except ArgumentError (Option α) :=
  if old.isSome then .error (.repeated flag.name) else .ok (some value)

/-- The flags of a service. -/
def addressFlags (c : CommandLine) : Backend → AddressFlags
  | .httpLogin => c.http
  | .login => c.login
  | .game => c.game

/-- The command line with other flags of a service. -/
def setAddressFlags (c : CommandLine) (f : AddressFlags) : Backend → CommandLine
  | .httpLogin => { c with http := f }
  | .login => { c with login := f }
  | .game => { c with game := f }

/-- A flag with its value. A file has a name; a host may be empty. -/
def set (c : CommandLine) (flag : ValueFlag) (value : List Char) :
    Except ArgumentError CommandLine :=
  let text := String.ofList value
  let number : Except ArgumentError Nat :=
    match port? value with
    | some n => .ok n
    | none => .error (.badValue flag text)
  match flag with
  | .config => do
    if value.isEmpty then throw (.badValue flag text)
    let config ← once flag c.config text
    return { c with config }
  | .proxyPort => do
    let proxyPort ← once flag c.proxyPort (← number)
    return { c with proxyPort }
  | .host backend => do
    let f := c.addressFlags backend
    let host ← once flag f.host text
    return c.setAddressFlags { f with host } backend
  | .port backend => do
    let f := c.addressFlags backend
    let port ← once flag f.port (← number)
    return c.setAddressFlags { f with port } backend

/-- The flag for more messages. -/
def setVerbose (c : CommandLine) : Except ArgumentError CommandLine :=
  if c.verbose then .error (.repeated "verbose") else .ok { c with verbose := true }

/-! ## 3. Arguments -/

/-- The command line as far as it has been read, the flag whose value is the next argument, and
whether flags are over. -/
structure Scan where
  line : CommandLine := {}
  pending : Option ValueFlag := none
  flagsOver : Bool := false
  deriving DecidableEq, Repr

namespace Scan

/-- The scan after something was set. -/
def setting (s : Scan) (set : Except ArgumentError CommandLine) : Except Interruption Scan :=
  match set with
  | .ok line => .ok { s with line, pending := none }
  | .error e => .error (.error e)

/-- A long flag, with what stands behind its equals sign. -/
def long (s : Scan) (name : List Char) (value : Option (List Char)) (argument : String) :
    Except Interruption Scan :=
  let name := String.ofList name
  match valueFlags.find? (·.name == name), value with
  | some flag, some value => s.setting (s.line.set flag value)
  | some flag, none => .ok { s with pending := some flag }
  | none, some _ => .error (.error (.unexpected argument))
  | none, none =>
    if name = "verbose" then s.setting s.line.setVerbose
    else if name = "help" then .error .help
    else if name = "version" then .error .version
    else .error (.error (.unexpected argument))

/-- The letters of an argument with one dash. One that takes a value takes the rest, if there is
any, without an equals sign in front. -/
def short (s : Scan) (argument : String) : List Char → Except Interruption Scan
  | [] => .ok s
  | 'v' :: rest =>
    match s.setting s.line.setVerbose with
    | .ok s => s.short argument rest
    | .error e => .error e
  | 'h' :: _ => .error .help
  | 'V' :: _ => .error .version
  | ['c'] => .ok { s with pending := some .config }
  | 'c' :: '=' :: value | 'c' :: value => s.setting (s.line.set .config value)
  | _ => .error (.error (.unexpected argument))

/-- One argument. -/
def step (s : Scan) (argument : String) : Except Interruption Scan :=
  if s.flagsOver then .error (.error (.unexpected argument))
  else
    match argument.toList, s.pending with
    | '-' :: _ :: _, some flag => .error (.error (.valueMissing flag))
    | ['-', '-'], none => .ok { s with flagsOver := true }
    | '-' :: '-' :: text, none =>
      match text.span (· != '=') with
      | (name, _ :: value) => s.long name (some value) argument
      | (name, []) => s.long name none argument
    | '-' :: letter :: letters, none => s.short argument (letter :: letters)
    | value, some flag => s.setting (s.line.set flag value)
    | _, none => .error (.error (.unexpected argument))

end Scan

/-- The command line that the arguments form. -/
def ofArguments (arguments : List String) : Except Interruption CommandLine := do
  let s ← arguments.foldlM Scan.step {}
  match s.pending with
  | some flag => throw (.error (.valueMissing flag))
  | none => return s.line

end CommandLine

end TrafficRouter
