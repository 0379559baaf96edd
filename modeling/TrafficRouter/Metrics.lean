import TrafficRouter.Routing

/-!
# Metrics

What is counted. A ledger is a list of entries, and a counter stands at the sum of its entries
(`Ledger.total`); writing two ledgers one behind the other adds their totals.
-/

namespace TrafficRouter

/-- The two ways through a relay. -/
inductive Direction where
  | clientToBackend
  | backendToClient
  deriving DecidableEq, Repr

def Direction.name : Direction → String
  | .clientToBackend => "client_to_backend"
  | .backendToClient => "backend_to_client"

/-- What is counted. -/
inductive Counter where
  /-- Sessions registered. -/
  | connections
  /-- Sessions classified, by protocol. -/
  | classified (protocol : Protocol)
  /-- Answers delivered to HTTP clients, by status; zero if the status is not known. -/
  | httpResponses (status : Nat)
  /-- Connections to a service that failed or came too late. -/
  | connectFailures (backend : Backend)
  /-- Bytes moved by relays that ended by themselves. -/
  | relayBytes (direction : Direction)
  deriving DecidableEq, Repr

/-- The name of a counter with its label. -/
def Counter.name : Counter → String
  | .connections => "proxy_connections_total"
  | .classified p => "proxy_classified_total\x7bprotocol=" ++ p.name ++ "\x7d"
  | .httpResponses status => "proxy_http_responses_total\x7bstatus=" ++ toString status ++ "\x7d"
  | .connectFailures b =>
    "proxy_backend_connect_failures_total\x7bbackend=" ++ b.name ++ "\x7d"
  | .relayBytes d => "proxy_relay_bytes_total\x7bdirection=" ++ d.name ++ "\x7d"

/-- Increments in the order in which they happened. -/
abbrev Ledger := List (Counter × Nat)

namespace Ledger

/-- Where a counter stands. -/
def total (counter : Counter) : Ledger → Nat
  | [] => 0
  | entry :: l => (if entry.1 = counter then entry.2 else 0) + total counter l

@[simp] theorem total_nil (counter : Counter) : total counter [] = 0 := rfl

@[simp] theorem total_append (counter : Counter) (l k : Ledger) :
    total counter (l ++ k) = total counter l + total counter k := by
  induction l with
  | nil => exact (Nat.zero_add _).symm
  | cons entry l ih =>
    show _ + total counter (l ++ k) = _ + total counter l + total counter k
    rw [ih, Nat.add_assoc]

/-- The counters that a ledger mentions, each once. -/
def counters (l : Ledger) : List Counter := (l.map (·.1)).eraseDups

end Ledger

end TrafficRouter
