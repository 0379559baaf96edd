import Mathlib.Data.List.Nodup
import TrafficRouter.Settings.Table

/-!
# The parts of the settings

Each thing that can be set, as a value of its own (`Setting`), with the place that it has in a
document, the values that it takes there, and what settings say of it (`Settings.get`).

NOT here: what is read from a document (`Reading`), and which values make sense (`Rules`).
-/

namespace TrafficRouter

/-! ## 1. What can be set -/

/-- The sections of the settings. -/
inductive Section where
  | listener
  | backends
  | classifier
  | timeouts
  | buffers
  | observability
  deriving DecidableEq, Repr

/-- What can be set. -/
inductive Setting where
  | bindAddress
  | maxConnections
  | service (backend : Backend)
  | loginLengthThreshold
  | initialRead
  | connect
  | clientRead
  | backendRead
  | responseIdle
  | shutdownDrain
  | sniff
  | relayChunk
  | maxHttpMessage
  | logLevel
  | metricsEnabled
  | metricsAddress
  deriving DecidableEq, Repr

/-- A value that is set. -/
inductive Datum where
  | text (text : String)
  | number (number : Nat)
  | flag (flag : Bool)
  deriving DecidableEq, Repr

/-- What settings say. -/
def Settings.get (s : Settings) : Setting → Datum
  | .bindAddress => .text s.listener.bindAddress
  | .maxConnections => .number s.listener.maxConnections
  | .service backend => .text (s.backends.address backend)
  | .loginLengthThreshold => .number s.classifier.loginLengthThreshold
  | .initialRead => .number s.timeouts.initialRead
  | .connect => .number s.timeouts.connect
  | .clientRead => .number s.timeouts.clientRead
  | .backendRead => .number s.timeouts.backendRead
  | .responseIdle => .number s.timeouts.responseIdle
  | .shutdownDrain => .number s.timeouts.shutdownDrain
  | .sniff => .number s.buffers.sniff
  | .relayChunk => .number s.buffers.relayChunk
  | .maxHttpMessage => .number s.buffers.maxHttpMessage
  | .logLevel => .text s.observability.logLevel
  | .metricsEnabled => .flag s.observability.metricsEnabled
  | .metricsAddress => .text s.observability.metricsAddress

/-! ## 2. Where it stands in a document -/

/-- The key of a section. -/
def Section.key : Section → String
  | .listener => "listener"
  | .backends => "backends"
  | .classifier => "classifier"
  | .timeouts => "timeouts"
  | .buffers => "buffers"
  | .observability => "observability"

/-- The kinds of values. -/
inductive Kind where
  | text
  | number (max : Nat)
  | flag
  deriving DecidableEq, Repr

/-- What a value of a document comes to, if it is one of the kind and within its range. Nothing is
converted. -/
def Kind.ofValue : Kind → Toml.Value → Option Datum
  | .text, .string t => some (.text t)
  | .number max, .integer n =>
    if 0 ≤ n ∧ n.toNat ≤ max then some (.number n.toNat) else none
  | .flag, .boolean b => some (.flag b)
  | _, _ => none

namespace Setting

/-- The section that holds a setting. -/
def parent : Setting → Section
  | .bindAddress | .maxConnections => .listener
  | .service _ => .backends
  | .loginLengthThreshold => .classifier
  | .initialRead | .connect | .clientRead | .backendRead | .responseIdle | .shutdownDrain =>
    .timeouts
  | .sniff | .relayChunk | .maxHttpMessage => .buffers
  | .logLevel | .metricsEnabled | .metricsAddress => .observability

/-- The key of a setting in its section. -/
def key : Setting → String
  | .bindAddress => "bind_address"
  | .maxConnections => "max_connections"
  | .service .login => "login"
  | .service .game => "game"
  | .service .httpLogin => "http"
  | .loginLengthThreshold => "login_length_threshold"
  | .initialRead => "initial_read_ms"
  | .connect => "connect_ms"
  | .clientRead => "client_read_ms"
  | .backendRead => "backend_read_ms"
  | .responseIdle => "response_idle_ms"
  | .shutdownDrain => "shutdown_drain_secs"
  | .sniff => "sniff_bytes"
  | .relayChunk => "relay_chunk_bytes"
  | .maxHttpMessage => "max_http_message_bytes"
  | .logLevel => "log_level"
  | .metricsEnabled => "metrics_enabled"
  | .metricsAddress => "metrics_address"

/-- The place of a setting in a section without keys. -/
def place : Setting → Nat
  | .bindAddress | .service .login | .loginLengthThreshold | .initialRead | .sniff | .logLevel => 0
  | .maxConnections | .service .game | .connect | .relayChunk | .metricsEnabled => 1
  | .service .httpLogin | .clientRead | .maxHttpMessage | .metricsAddress => 2
  | .backendRead => 3
  | .responseIdle => 4
  | .shutdownDrain => 5

/-- What kind of value a setting has. -/
def kind : Setting → Kind
  | .bindAddress | .service _ | .logLevel | .metricsAddress => .text
  | .loginLengthThreshold => .number maxThreshold
  | .maxConnections | .initialRead | .connect | .clientRead | .backendRead | .responseIdle
  | .shutdownDrain | .sniff | .relayChunk | .maxHttpMessage => .number maxSize
  | .metricsEnabled => .flag

/-- The value that a setting has where nothing is said. -/
def unset (k : Setting) : Datum := ({} : Settings).get k

end Setting

/-- The settings of a section, in the order of their places. -/
def Section.settings : Section → List Setting
  | .listener => [.bindAddress, .maxConnections]
  | .backends => [.service .login, .service .game, .service .httpLogin]
  | .classifier => [.loginLengthThreshold]
  | .timeouts =>
    [.initialRead, .connect, .clientRead, .backendRead, .responseIdle, .shutdownDrain]
  | .buffers => [.sniff, .relayChunk, .maxHttpMessage]
  | .observability => [.logLevel, .metricsEnabled, .metricsAddress]

theorem Section.mem_settings (k : Setting) : k ∈ k.parent.settings := by
  cases k with
  | service backend => cases backend <;> decide
  | _ => decide

theorem Section.parent_of_mem_settings (sec : Section) : ∀ k ∈ sec.settings, k.parent = sec := by
  cases sec <;> decide

/-- A setting stands at its place. -/
theorem Section.getElem?_settings_place (k : Setting) : k.parent.settings[k.place]? = some k := by
  cases k with
  | service backend => cases backend <;> rfl
  | _ => rfl

/-- A section has each of its keys for one setting. -/
theorem Section.nodup_settings_keys (sec : Section) : (sec.settings.map Setting.key).Nodup := by
  cases sec <;> decide

theorem Section.forall_iff {p : Section → Prop} :
    (∀ sec, p sec) ↔
      p .listener ∧ p .backends ∧ p .classifier ∧ p .timeouts ∧ p .buffers ∧ p .observability :=
  ⟨fun h => ⟨h _, h _, h _, h _, h _, h _⟩,
    fun ⟨_, _, _, _, _, _⟩ sec => by cases sec <;> assumption⟩

theorem Section.key_injective : Function.Injective Section.key := by
  intro sec sec' h
  cases sec <;> cases sec' <;> first | rfl | exact absurd h (by decide)

/-- A setting is found by its section and its key. -/
theorem Setting.eq_of_key {k k' : Setting} (hparent : k.parent = k'.parent)
    (hkey : k.key = k'.key) : k = k' :=
  List.inj_on_of_nodup_map k'.parent.nodup_settings_keys (hparent ▸ Section.mem_settings k)
    (Section.mem_settings k') hkey

end TrafficRouter
