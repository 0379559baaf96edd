import TrafficRouter.Proofs.Relay.Steps

/-!
# What happens in a relay

A relay that is traced tells what happens on its connections, in order (`RelayEvent`): bytes arrive, a
chunk is read, a part of it is accepted, it is flushed; a source turns out to be closed or something
fails; a sink is closed for writing. What a pump does is told by what its read, its write or its
flush came to, and not by what the pump made of it.

* `RelayTrace.arrived`, `chunks`, `written`, `flushes`: what a trace says of one direction;
* `RelayRun.trace_induct`: what holds at the start and is kept by both peers and by every step holds at
  every moment of every run.

NOT here: any property of the runs.
-/

namespace TrafficRouter

/-! ## 1. Events -/

/-- What happens on the connections of a relay, by the direction that it belongs to. -/
inductive RelayEvent where
  /-- The peer has sent bytes that are to go this way. -/
  | arrived (d : Direction) (bytes : Bytes)
  /-- A chunk is read. -/
  | read (d : Direction) (chunk : Bytes)
  /-- So many bytes of the chunk are accepted at once. -/
  | wrote (d : Direction) (bytes : Bytes)
  | flushed (d : Direction)
  /-- A read finds the source closed. -/
  | closed (d : Direction)
  /-- A read, a write or a flush fails. -/
  | failed (d : Direction) (fault : IoFault)
  /-- The sink of the direction is closed for writing. -/
  | shutdown (d : Direction)
  deriving DecidableEq, Repr

namespace RelayEvent

def direction : RelayEvent → Direction
  | .arrived d _ | .read d _ | .wrote d _ | .flushed d | .closed d | .failed d _ | .shutdown d => d

/-- Whether the event is one of a relay that goes on. -/
def goesOn : RelayEvent → Bool
  | .arrived .. | .read .. | .wrote .. | .flushed _ => true
  | .closed _ | .failed .. | .shutdown _ => false

/-- Whether the event is of the relay's own doing. -/
def isDone : RelayEvent → Bool
  | .arrived .. => false
  | .read .. | .wrote .. | .flushed _ | .closed _ | .failed .. | .shutdown _ => true

end RelayEvent

/-- Events in the order in which they happened. -/
abbrev RelayTrace := List RelayEvent

namespace RelayTrace

/-- The bytes that arrived to go one way. -/
def arrived (d : Direction) (trace : RelayTrace) : Bytes :=
  trace.flatMap fun
    | .arrived d' bytes => if d' = d then bytes else []
    | _ => []

/-- The chunks that were read to go one way. -/
def chunks (d : Direction) (trace : RelayTrace) : List Bytes :=
  trace.flatMap fun
    | .read d' chunk => if d' = d then [chunk] else []
    | _ => []

/-- The bytes that were accepted one way. -/
def written (d : Direction) (trace : RelayTrace) : Bytes :=
  trace.flatMap fun
    | .wrote d' bytes => if d' = d then bytes else []
    | _ => []

/-- How many chunks were flushed one way. -/
def flushes (d : Direction) (trace : RelayTrace) : Nat := trace.count (.flushed d)

/-- What the relay has done. -/
def done (trace : RelayTrace) : RelayTrace := trace.filter (·.isDone)

variable (d : Direction) (t u : RelayTrace)

@[simp] theorem arrived_append : (t ++ u).arrived d = t.arrived d ++ u.arrived d :=
  List.flatMap_append

@[simp] theorem chunks_append : (t ++ u).chunks d = t.chunks d ++ u.chunks d :=
  List.flatMap_append

@[simp] theorem written_append : (t ++ u).written d = t.written d ++ u.written d :=
  List.flatMap_append

@[simp] theorem flushes_append : (t ++ u).flushes d = t.flushes d + u.flushes d :=
  List.count_append

@[simp] theorem done_append : (t ++ u).done = t.done ++ u.done := List.filter_append t u

/-- What an event adds to what is told of one direction. -/
structure Adds (d : Direction) (e : RelayEvent) (bytes : Bytes) (read : List Bytes)
    (accepted : Bytes) (flushed : Nat) : Prop where
  arrived : (t ++ [e]).arrived d = t.arrived d ++ bytes
  chunks : (t ++ [e]).chunks d = t.chunks d ++ read
  written : (t ++ [e]).written d = t.written d ++ accepted
  flushes : (t ++ [e]).flushes d = t.flushes d + flushed

theorem adds_read (chunk : Bytes) : t.Adds d (.read d chunk) [] [chunk] [] 0 := by
  constructor <;> simp [arrived, chunks, written, flushes]

theorem adds_wrote (bytes : Bytes) : t.Adds d (.wrote d bytes) [] [] bytes 0 := by
  constructor <;> simp [arrived, chunks, written, flushes]

theorem adds_flushed : t.Adds d (.flushed d) [] [] [] 1 := by
  constructor <;> simp [arrived, chunks, written, flushes]

/-- What happens in one direction is nothing to the other. -/
theorem adds_of_direction_ne {e : RelayEvent} {d : Direction} (h : e.direction ≠ d) :
    t.Adds d e [] [] [] 0 := by
  cases e with
  | arrived d' _ | read d' _ | wrote d' _ | flushed d' | closed d' | failed d' _ | shutdown d' =>
    have hne : d' ≠ d := h
    constructor <;> simp [RelayTrace.arrived, RelayTrace.chunks, RelayTrace.written,
      RelayTrace.flushes, hne]

/-- What ends something moves no bytes. -/
theorem adds_of_not_goesOn {e : RelayEvent} (h : e.goesOn = false) (d : Direction) :
    t.Adds d e [] [] [] 0 := by
  cases e with
  | closed | failed | shutdown =>
    constructor <;> simp [RelayTrace.arrived, RelayTrace.chunks, RelayTrace.written,
      RelayTrace.flushes]
  | arrived | read | wrote | flushed => cases h

end RelayTrace

/-! ## 2. What a step makes happen -/

/-- What is told of a read. -/
def Reading.relayEvent? (d : Direction) : Reading → Option RelayEvent
  | .bytes [] => some (.closed d)
  | .bytes chunk => some (.read d chunk)
  | .failed fault => some (.failed d fault)
  | .timedOut => none

/-- What is told of a write, by the bytes that were to be written and those that still are. -/
def RelayEvent.ofWrite (d : Direction) (bytes : Bytes) : Except IoFault Bytes → RelayEvent
  | .ok rest => .wrote d (bytes.take (bytes.length - rest.length))
  | .error fault => .failed d fault

/-- What is told of a flush. -/
def RelayEvent.ofFlush (d : Direction) : Option IoFault → RelayEvent
  | none => .flushed d
  | some fault => .failed d fault

/-- What a turn of a pump makes happen, unless it waits. -/
def Pump.event? (chunkSize : Nat) (d : Direction) (p : Pump) (w : Wires) : Option RelayEvent :=
  match p.stage with
  | .reading => ((w.sourceOf d).read chunkSize).1.bind (·.relayEvent? d)
  | .writing rest => ((w.sinkOf d).push rest).1.map (.ofWrite d rest)
  | .flushing => some (.ofFlush d (w.sinkOf d).flushFault)

/-- What a step of a relay makes happen, unless it waits. -/
def Relay.event? (chunkSize : Nat) (turn : Direction) (r : Relay) (w : Wires) : Option RelayEvent :=
  match r.stage with
  | .pumping => (r.pump turn).event? chunkSize turn w
  | .closingBackend _ => some (.shutdown .clientToBackend)
  | .closingClient _ => some (.shutdown .backendToClient)
  | .ended _ => none

namespace Pump

variable {chunkSize : Nat} {d : Direction} {p : Pump} {w : Wires}

theorem event?_of_reading (h : p.stage = .reading) :
    p.event? chunkSize d w = ((w.sourceOf d).read chunkSize).1.bind (·.relayEvent? d) := by
  unfold event?
  rw [h]

theorem event?_of_writing {rest : Bytes} (h : p.stage = .writing rest) :
    p.event? chunkSize d w = ((w.sinkOf d).push rest).1.map (.ofWrite d rest) := by
  unfold event?
  rw [h]

theorem event?_of_flushing (h : p.stage = .flushing) :
    p.event? chunkSize d w = some (.ofFlush d (w.sinkOf d).flushFault) := by
  unfold event?
  rw [h]

/-- The part of a write that was accepted. -/
theorem ofWrite_accepted (d : Direction) (accepted rest : Bytes) :
    RelayEvent.ofWrite d (accepted ++ rest) (.ok rest) = .wrote d accepted := by
  show RelayEvent.wrote d _ = _
  rw [List.length_append, Nat.add_sub_cancel, List.take_left]

/-- A pump that waits makes nothing happen. -/
theorem event?_of_waits (h : p.turn chunkSize d w = .waits) : p.event? chunkSize d w = none := by
  unfold turn at h
  cases hp : p.stage with
  | reading =>
    rw [event?_of_reading hp]
    simp only [hp] at h
    rcases hr : (w.sourceOf d).read chunkSize with ⟨_ | ⟨_ | ⟨b, chunk⟩⟩ | fault | _, source⟩
    · rfl
    · simp [hr] at h
    · simp [hr] at h
    · simp [hr] at h
    · rfl
  | writing rest =>
    rw [event?_of_writing hp]
    simp only [hp] at h
    rcases hr : (w.sinkOf d).push rest with ⟨_ | fault | ⟨_ | ⟨b, rest'⟩⟩, sink⟩
    · rfl
    · simp [hr] at h
    · simp [hr] at h
    · simp [hr] at h
  | flushing =>
    simp only [hp] at h
    cases hf : (w.sinkOf d).flushFault <;> simp [hf] at h

end Pump

/-- How a relay that has ended tells of it. -/
def RelayEnding.event (e : RelayEnding) : RelayEvent :=
  match e.fault with
  | none => .closed e.direction
  | some fault => .failed e.direction fault

namespace Pump

variable {chunkSize : Nat} {d : Direction} {p p' : Pump} {w w' : Wires}

/-- **A pump that ends tells why.** -/
theorem Turn.event?_of_ends {fault : Option IoFault} (h : Turn chunkSize d p w (.ends fault w')) :
    p.event? chunkSize d w = some (RelayEnding.event ⟨d, fault⟩) := by
  cases h with
  | closed hp h | readFault hp h => rw [event?_of_reading hp, h]; rfl
  | writeFault hp h => rw [event?_of_writing hp, h]; rfl
  | flushFault hp h => rw [event?_of_flushing hp, h]; rfl

/-- **A pump that goes on tells of its own direction**, and of no end. -/
theorem Turn.event?_of_goesOn (h : Turn chunkSize d p w (.goesOn p' w')) :
    ∃ e, p.event? chunkSize d w = some e ∧ e.direction = d ∧ e.goesOn = true := by
  cases h with
  | reads hp hne h =>
    obtain ⟨b, chunk, rfl⟩ := List.exists_cons_of_ne_nil hne
    rw [event?_of_reading hp, h]
    exact ⟨_, rfl, rfl, rfl⟩
  | written hp h | writes hp hne h =>
    rw [event?_of_writing hp, h]
    exact ⟨_, rfl, rfl, rfl⟩
  | flushed hp h =>
    rw [event?_of_flushing hp, h]
    exact ⟨_, rfl, rfl, rfl⟩

end Pump

namespace Relay

variable {chunkSize : Nat} {turn : Direction} {r : Relay} {w : Wires}

theorem event?_of_pumping (h : r.stage = .pumping) :
    r.event? chunkSize turn w = (r.pump turn).event? chunkSize turn w := by
  unfold event?
  rw [h]

theorem event?_of_closingBackend {ending : RelayEnding} (h : r.stage = .closingBackend ending) :
    r.event? chunkSize turn w = some (.shutdown .clientToBackend) := by
  unfold event?
  rw [h]

theorem event?_of_closingClient {ending : RelayEnding} (h : r.stage = .closingClient ending) :
    r.event? chunkSize turn w = some (.shutdown .backendToClient) := by
  unfold event?
  rw [h]

end Relay

/-- A relay that waits makes nothing happen. -/
theorem Relay.event?_of_step_none {chunkSize : Nat} {turn : Direction} {r : Relay} {w : Wires}
    (h : r.step chunkSize turn w = none) : r.event? chunkSize turn w = none := by
  unfold step at h
  unfold event?
  cases hs : r.stage with
  | pumping =>
    simp only [hs] at h ⊢
    cases ht : (r.pump turn).turn chunkSize turn w with
    | waits => exact Pump.event?_of_waits ht
    | goesOn | ends => simp [ht] at h
  | closingBackend | closingClient => simp [hs] at h
  | ended => rfl

/-! ## 3. Traces -/

/-- What is told of bytes that a peer sends. -/
def RelayTrace.ofSent (d : Direction) (bytes : Bytes) : RelayTrace :=
  if bytes.isEmpty then [] else [.arrived d bytes]

namespace RelayTrace

/-- What a peer sends has arrived, and that is all. -/
theorem of_ofSent (d d' : Direction) (bytes : Bytes) :
    (ofSent d bytes).arrived d' = (if d = d' then bytes else []) ∧
      (ofSent d bytes).chunks d' = [] ∧ (ofSent d bytes).written d' = [] ∧
      (ofSent d bytes).flushes d' = 0 ∧ (ofSent d bytes).done = [] ∧
      ∀ e ∈ ofSent d bytes, e.goesOn = true := by
  unfold ofSent
  cases bytes with
  | nil => exact ⟨(ite_self _).symm, rfl, rfl, rfl, rfl, fun e he => by cases he⟩
  | cons b bytes =>
    refine ⟨by simp [arrived], rfl, rfl, rfl, rfl, fun e he => ?_⟩
    rw [List.mem_singleton.mp he]
    rfl

end RelayTrace

namespace RelayRun

/-- What a label makes happen. -/
def events (r : RelayRun) : RelayLabel → RelayTrace
  | .client action => .ofSent .clientToBackend action.sent
  | .backend action => .ofSent .backendToClient action.sent
  | .turn pump => (r.relay.event? r.chunkSize pump r.wires).toList

/-- What happens in a run. -/
def trace (r : RelayRun) : List RelayLabel → RelayTrace
  | [] => []
  | label :: labels => r.events label ++ (r.happen label).trace labels

variable (r : RelayRun)

/-- A step of a run is a step of its relay, and adds to what has been counted. -/
theorem step_cases {r s : RelayRun} {turn : Direction} (h : r.step turn = some s) :
    ∃ ledger, Relay.Step r.chunkSize turn r.relay r.wires s.relay s.wires ledger ∧
      s.chunkSize = r.chunkSize ∧ s.ledger = r.ledger ++ ledger := by
  obtain ⟨⟨relay, wires, ledger⟩, hr, rfl⟩ := Option.map_eq_some_iff.mp h
  exact ⟨ledger, Relay.step_cases hr, rfl, rfl⟩

/-- A run in which a peer did something: the relay itself and what it has counted stay. -/
structure Outside (d : Direction) (bytes : Bytes) (r s : RelayRun) : Prop where
  chunkSize : s.chunkSize = r.chunkSize
  relay : s.relay = r.relay
  ledger : s.ledger = r.ledger
  delivered : ∀ d', (s.wires.sinkOf d').delivered = (r.wires.sinkOf d').delivered
  isShutdown : ∀ d', (s.wires.sinkOf d').isShutdown = (r.wires.sinkOf d').isShutdown
  unread : ∀ d', (s.wires.sourceOf d').unread =
    (r.wires.sourceOf d').unread ++ if d = d' then bytes else []
  solid : ∀ d', (r.wires.sourceOf d').Solid → (s.wires.sourceOf d').Solid

theorem outside_client (action : PeerAction) :
    Outside .clientToBackend action.sent r (r.happen (.client action)) where
  chunkSize := rfl
  relay := rfl
  ledger := rfl
  delivered d' := by
    cases d' with
    | clientToBackend => rfl
    | backendToClient => exact Duplex.delivered_act _ action
  isShutdown d' := by
    cases d' with
    | clientToBackend => rfl
    | backendToClient => exact Duplex.isShutdown_act _ action
  unread d' := by
    cases d' with
    | clientToBackend => exact Duplex.unread_act _ action
    | backendToClient => exact (List.append_nil _).symm
  solid d' h := by
    cases d' with
    | clientToBackend => exact Duplex.solid_act _ action h
    | backendToClient => exact h

theorem outside_backend (action : PeerAction) :
    Outside .backendToClient action.sent r (r.happen (.backend action)) where
  chunkSize := rfl
  relay := rfl
  ledger := rfl
  delivered d' := by
    cases d' with
    | clientToBackend => exact Duplex.delivered_act _ action
    | backendToClient => rfl
  isShutdown d' := by
    cases d' with
    | clientToBackend => exact Duplex.isShutdown_act _ action
    | backendToClient => rfl
  unread d' := by
    cases d' with
    | clientToBackend => exact (List.append_nil _).symm
    | backendToClient => exact Duplex.unread_act _ action
  solid d' h := by
    cases d' with
    | clientToBackend => exact h
    | backendToClient => exact Duplex.solid_act _ action h

/-- **What holds at the start and is kept by both peers and by every step holds at every moment.** -/
theorem trace_induct {P : RelayTrace → RelayRun → Prop}
    (outside : ∀ (t : RelayTrace) (r s : RelayRun) (d : Direction) (bytes : Bytes),
      Outside d bytes r s → P t r → P (t ++ .ofSent d bytes) s)
    (step : ∀ (t : RelayTrace) (r s : RelayRun) (turn : Direction), r.step turn = some s → P t r →
      P (t ++ (r.relay.event? r.chunkSize turn r.wires).toList) s)
    {r : RelayRun} (h : P [] r) (labels : List RelayLabel) : P (r.trace labels) (r.run labels) := by
  suffices hgen : ∀ t r, P t r → P (t ++ r.trace labels) (r.run labels) from hgen [] r h
  clear h r
  induction labels with
  | nil =>
    intro t r h
    exact (List.append_nil t).symm ▸ h
  | cons label labels ih =>
    intro t r h
    show P (t ++ (r.events label ++ (r.happen label).trace labels)) ((r.happen label).run labels)
    rw [← List.append_assoc]
    refine ih _ _ ?_
    cases label with
    | client action => exact outside t r _ _ _ (outside_client r action) h
    | backend action => exact outside t r _ _ _ (outside_backend r action) h
    | turn pump =>
      show P (t ++ (r.relay.event? _ pump _).toList) ((r.step pump).getD r)
      cases hs : r.step pump with
      | some s => exact step t r s pump hs h
      | none =>
        rw [Relay.event?_of_step_none (Option.map_eq_none_iff.mp hs)]
        exact (List.append_nil t).symm ▸ h

end RelayRun

end TrafficRouter
