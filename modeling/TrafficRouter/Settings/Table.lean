import TrafficRouter.Settings.Schema
import TrafficRouter.Toml.Value

/-!
# Settings from a table

Each section of the settings is a table, and each field a key of it. A key that is missing leaves
the value that the field has where nothing is said, and a key that is not known is passed over. A
value must be of the field's own kind and within its range; nothing is converted.

A section may also be an array: its elements are the fields in the order in which the schema
declares them, a short one leaves the others as they are. A date-time in the place of a section says
nothing about any field.
-/

namespace TrafficRouter

open Toml (Value Entries)

/-! ## 1. Fields -/

/-- The value of a field of a section, by its key or by its place. -/
def sectionField (s : Value) (key : String) (place : Nat) : Option Value :=
  match s with
  | .table _ entries => Entries.get? key entries
  | .array elements => elements[place]?
  | _ => none

/-- Whether a value can stand for a section. -/
def isSection : Value → Bool
  | .table .. | .array _ | .datetime => true
  | _ => false

/-- A text field: its value, or the given one where nothing is said. -/
def textField (unset : String) : Option Value → Option String
  | none => some unset
  | some (.string text) => some text
  | some _ => none

/-- A field of whole numbers up to `max`. -/
def numberField (max unset : Nat) : Option Value → Option Nat
  | none => some unset
  | some (.integer n) => if 0 ≤ n ∧ n.toNat ≤ max then some n.toNat else none
  | some _ => none

/-- A field that is true or false. -/
def flagField (unset : Bool) : Option Value → Option Bool
  | none => some unset
  | some (.boolean b) => some b
  | some _ => none

/-- A section: read from its value, or as it is where nothing is said. -/
def sectionOr {α : Type} (unset : α) (read : Value → Option α) : Option Value → Option α
  | none => some unset
  | some s => if isSection s then read s else none

/-- The greatest value of a size, a count or a time. -/
def maxSize : Nat := Nat.pow 2 64 - 1

/-- The greatest value of a length threshold. -/
def maxThreshold : Nat := Nat.pow 2 16 - 1

/-! ## 2. Sections -/

def ListenerSettings.ofSection (s : Value) : Option ListenerSettings := do
  let unset : ListenerSettings := {}
  let bindAddress ← textField unset.bindAddress (sectionField s "bind_address" 0)
  let maxConnections ← numberField maxSize unset.maxConnections (sectionField s "max_connections" 1)
  some { bindAddress, maxConnections }

def BackendSettings.ofSection (s : Value) : Option BackendSettings := do
  let unset : BackendSettings := {}
  let login ← textField unset.login (sectionField s "login" 0)
  let game ← textField unset.game (sectionField s "game" 1)
  let http ← textField unset.http (sectionField s "http" 2)
  some { login, game, http }

def ClassifierSettings.ofSection (s : Value) : Option ClassifierSettings := do
  let unset : ClassifierSettings := {}
  let loginLengthThreshold ←
    numberField maxThreshold unset.loginLengthThreshold (sectionField s "login_length_threshold" 0)
  some { loginLengthThreshold }

def TimeoutSettings.ofSection (s : Value) : Option TimeoutSettings := do
  let unset : TimeoutSettings := {}
  let initialRead ← numberField maxSize unset.initialRead (sectionField s "initial_read_ms" 0)
  let connect ← numberField maxSize unset.connect (sectionField s "connect_ms" 1)
  let clientRead ← numberField maxSize unset.clientRead (sectionField s "client_read_ms" 2)
  let backendRead ← numberField maxSize unset.backendRead (sectionField s "backend_read_ms" 3)
  let responseIdle ← numberField maxSize unset.responseIdle (sectionField s "response_idle_ms" 4)
  let shutdownDrain ←
    numberField maxSize unset.shutdownDrain (sectionField s "shutdown_drain_secs" 5)
  some { initialRead, connect, clientRead, backendRead, responseIdle, shutdownDrain }

def BufferSettings.ofSection (s : Value) : Option BufferSettings := do
  let unset : BufferSettings := {}
  let sniff ← numberField maxSize unset.sniff (sectionField s "sniff_bytes" 0)
  let relayChunk ← numberField maxSize unset.relayChunk (sectionField s "relay_chunk_bytes" 1)
  let maxHttpMessage ←
    numberField maxSize unset.maxHttpMessage (sectionField s "max_http_message_bytes" 2)
  some { sniff, relayChunk, maxHttpMessage }

def ObservabilitySettings.ofSection (s : Value) : Option ObservabilitySettings := do
  let unset : ObservabilitySettings := {}
  let logLevel ← textField unset.logLevel (sectionField s "log_level" 0)
  let metricsEnabled ← flagField unset.metricsEnabled (sectionField s "metrics_enabled" 1)
  let metricsAddress ← textField unset.metricsAddress (sectionField s "metrics_address" 2)
  some { logLevel, metricsEnabled, metricsAddress }

/-- The settings that a table gives, if every value in it fits its field. -/
def Settings.ofTable (entries : Entries) : Option Settings := do
  let listener ← sectionOr {} ListenerSettings.ofSection (entries.get? "listener")
  let backends ← sectionOr {} BackendSettings.ofSection (entries.get? "backends")
  let classifier ← sectionOr {} ClassifierSettings.ofSection (entries.get? "classifier")
  let timeouts ← sectionOr {} TimeoutSettings.ofSection (entries.get? "timeouts")
  let buffers ← sectionOr {} BufferSettings.ofSection (entries.get? "buffers")
  let observability ← sectionOr {} ObservabilitySettings.ofSection (entries.get? "observability")
  some { listener, backends, classifier, timeouts, buffers, observability }

end TrafficRouter
