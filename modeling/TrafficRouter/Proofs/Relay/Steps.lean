import TrafficRouter.Proofs.Stream
import TrafficRouter.Relay

/-!
# What a relay carries

`Pump.Turn` lists what a turn of a pump can be and `Relay.Step` what a step of a relay can be. From
these lists: a direction is never short of a byte and never has one twice or in another order.

* `Pump.turn_cases`, `Relay.step_cases`: every turn and every step is one of the list;
* `Pump.Turn.other`: a pump touches no connection of the other direction;
* `Relay.Step.content`: the bytes accepted, in hand and not read of each direction stay what they
  are, in order.

NOT here: when a relay ends and what it reports.
-/

namespace TrafficRouter

/-! ## 1. The connections of a direction -/

namespace Wires

variable (w : Wires) (source : Source) (sink : Sink)

@[simp] theorem sourceOf_setSource_self (d : Direction) :
    (w.setSource source d).sourceOf d = source := by
  cases d <;> rfl

theorem sourceOf_setSource_of_ne {d d' : Direction} (h : d' ≠ d) :
    (w.setSource source d).sourceOf d' = w.sourceOf d' := by
  cases d <;> cases d' <;> first | rfl | exact absurd rfl h

@[simp] theorem sinkOf_setSource (d d' : Direction) :
    (w.setSource source d).sinkOf d' = w.sinkOf d' := by
  cases d <;> cases d' <;> rfl

@[simp] theorem sinkOf_setSink_self (d : Direction) : (w.setSink sink d).sinkOf d = sink := by
  cases d <;> rfl

theorem sinkOf_setSink_of_ne {d d' : Direction} (h : d' ≠ d) :
    (w.setSink sink d).sinkOf d' = w.sinkOf d' := by
  cases d <;> cases d' <;> first | rfl | exact absurd rfl h

@[simp] theorem sourceOf_setSink (d d' : Direction) :
    (w.setSink sink d).sourceOf d' = w.sourceOf d' := by
  cases d <;> cases d' <;> rfl

@[simp] theorem hold_setSource (d : Direction) :
    (w.setSource source d).backend.hold = w.backend.hold := by
  cases d <;> rfl

@[simp] theorem hold_setSink (d : Direction) :
    (w.setSink sink d).backend.hold = w.backend.hold := by
  cases d <;> rfl

@[simp] theorem sourceOf_release (d : Direction) : w.release.sourceOf d = w.sourceOf d := by
  cases d <;> rfl

@[simp] theorem sinkOf_release (d : Direction) : w.release.sinkOf d = w.sinkOf d := by
  cases d <;> rfl

/-- The bytes of a direction: those accepted, those in hand, those not read. -/
def content (hand : Bytes) (d : Direction) : Bytes :=
  (w.sinkOf d).delivered ++ hand ++ (w.sourceOf d).unread

/-- Content depends on its own direction's connections only. -/
theorem content_congr {w w' : Wires} {d : Direction} (hand : Bytes)
    (hsource : w'.sourceOf d = w.sourceOf d) (hsink : w'.sinkOf d = w.sinkOf d) :
    w'.content hand d = w.content hand d := by
  unfold content
  rw [hsource, hsink]

/-- What is accepted is a part of the content, from the beginning. -/
theorem delivered_prefix_content (hand : Bytes) (d : Direction) :
    (w.sinkOf d).delivered <+: w.content hand d :=
  ⟨hand ++ (w.sourceOf d).unread, (List.append_assoc ..).symm⟩

/-- **A read takes into the hand what it takes from the source.** -/
theorem content_read {max : Nat} {d : Direction} {reading : Reading}
    (h : (w.sourceOf d).read max = (some reading, source)) :
    (w.setSource source d).content reading.content d = w.content [] d := by
  unfold content
  rw [sinkOf_setSource, sourceOf_setSource_self, List.append_assoc, Source.unread_read h,
    List.append_nil]

/-- **A write takes out of the hand what it gives the sink.** -/
theorem content_push {d : Direction} {rest rest' : Bytes}
    (h : (w.sinkOf d).push rest = (some (.ok rest'), sink)) :
    (w.setSink sink d).content rest' d = w.content rest d := by
  obtain ⟨accepted, hd, hrest, -⟩ := Sink.delivered_push h
  unfold content
  rw [sinkOf_setSink_self, sourceOf_setSink, hd, ← hrest, List.append_assoc (w.sinkOf d).delivered]

/-- A write that fails leaves everything where it is. -/
theorem content_push_error {d : Direction} {rest : Bytes} {fault : IoFault} (hand : Bytes)
    (h : (w.sinkOf d).push rest = (some (.error fault), sink)) :
    (w.setSink sink d).content hand d = w.content hand d := by
  unfold content
  rw [sinkOf_setSink_self, sourceOf_setSink, (Sink.delivered_push_error h).1]

end Wires

/-! ## 2. Pumps -/

/-- Where a turn leaves the connections. -/
def PumpTurn.wires? : PumpTurn → Option Wires
  | .waits => none
  | .goesOn _ w | .ends _ w => some w

namespace Pump

/-- The bytes of the chunk in hand that are still to be written. -/
def rest (p : Pump) : Bytes :=
  match p.stage with
  | .writing rest => rest
  | .reading | .flushing => []

theorem rest_of_reading {p : Pump} (h : p.stage = .reading) : p.rest = [] := by
  unfold rest
  rw [h]

theorem rest_of_writing {p : Pump} {bytes : Bytes} (h : p.stage = .writing bytes) :
    p.rest = bytes := by
  unfold rest
  rw [h]

theorem rest_of_flushing {p : Pump} (h : p.stage = .flushing) : p.rest = [] := by
  unfold rest
  rw [h]

/-- **A turn of a pump** that does not wait. -/
inductive Turn (chunkSize : Nat) (d : Direction) (p : Pump) (w : Wires) : PumpTurn → Prop where
  | reads {chunk : Bytes} {source : Source} (hp : p.stage = .reading) (hne : chunk ≠ [])
      (h : (w.sourceOf d).read chunkSize = (some (.bytes chunk), source)) :
      Turn chunkSize d p w
        (.goesOn { p with stage := .writing chunk, chunk := chunk.length } (w.setSource source d))
  | closed {source : Source} (hp : p.stage = .reading)
      (h : (w.sourceOf d).read chunkSize = (some (.bytes []), source)) :
      Turn chunkSize d p w (.ends none (w.setSource source d))
  | readFault {fault : IoFault} {source : Source} (hp : p.stage = .reading)
      (h : (w.sourceOf d).read chunkSize = (some (.failed fault), source)) :
      Turn chunkSize d p w (.ends (some fault) (w.setSource source d))
  | written {rest : Bytes} {sink : Sink} (hp : p.stage = .writing rest)
      (h : (w.sinkOf d).push rest = (some (.ok []), sink)) :
      Turn chunkSize d p w (.goesOn { p with stage := .flushing } (w.setSink sink d))
  | writes {rest rest' : Bytes} {sink : Sink} (hp : p.stage = .writing rest) (hne : rest' ≠ [])
      (h : (w.sinkOf d).push rest = (some (.ok rest'), sink)) :
      Turn chunkSize d p w (.goesOn { p with stage := .writing rest' } (w.setSink sink d))
  | writeFault {rest : Bytes} {fault : IoFault} {sink : Sink} (hp : p.stage = .writing rest)
      (h : (w.sinkOf d).push rest = (some (.error fault), sink)) :
      Turn chunkSize d p w (.ends (some fault) (w.setSink sink d))
  | flushed (hp : p.stage = .flushing) (h : (w.sinkOf d).flushFault = none) :
      Turn chunkSize d p w (.goesOn { p with stage := .reading, moved := p.moved + p.chunk } w)
  | flushFault {fault : IoFault} (hp : p.stage = .flushing)
      (h : (w.sinkOf d).flushFault = some fault) : Turn chunkSize d p w (.ends (some fault) w)

variable {chunkSize : Nat} {d : Direction} {p p' : Pump} {w w' : Wires} {fault : Option IoFault}

/-- **Every turn that does not wait is one of the list.** -/
theorem turn_cases (h : p.turn chunkSize d w ≠ .waits) :
    Turn chunkSize d p w (p.turn chunkSize d w) := by
  unfold turn at h ⊢
  cases hp : p.stage with
  | reading =>
    simp only [hp] at h ⊢
    rcases hr : (w.sourceOf d).read chunkSize with ⟨_ | ⟨_ | ⟨b, chunk⟩⟩ | fault | _, source⟩
    · simp [hr] at h
    · exact .closed hp hr
    · exact .reads hp (List.cons_ne_nil b chunk) hr
    · exact .readFault hp hr
    · simp [hr] at h
  | writing rest =>
    simp only [hp] at h ⊢
    rcases hr : (w.sinkOf d).push rest with ⟨_ | fault | ⟨_ | ⟨b, rest'⟩⟩, sink⟩
    · simp [hr] at h
    · exact .writeFault hp hr
    · exact .written hp hr
    · exact .writes hp (List.cons_ne_nil b rest') hr
  | flushing =>
    simp only [hp] at h ⊢
    cases hf : (w.sinkOf d).flushFault with
    | none => exact .flushed hp hf
    | some fault => exact .flushFault hp hf

/-- **What a pump moves stays in its direction.** -/
theorem Turn.content_goesOn (h : Turn chunkSize d p w (.goesOn p' w')) :
    w'.content p'.rest d = w.content p.rest d := by
  cases h with
  | reads hp hne h =>
    rw [rest_of_reading hp]
    exact w.content_read _ h
  | written hp h =>
    rw [rest_of_writing hp]
    exact w.content_push _ h
  | writes hp hne h =>
    rw [rest_of_writing hp]
    exact w.content_push _ h
  | flushed hp h => rw [rest_of_flushing hp, rest_of_reading rfl]

/-- A pump that ends keeps what it has in hand. -/
theorem Turn.content_ends (h : Turn chunkSize d p w (.ends fault w')) :
    w'.content p.rest d = w.content p.rest d := by
  cases h with
  | closed hp h =>
    rw [rest_of_reading hp]
    exact w.content_read _ h
  | readFault hp h =>
    rw [rest_of_reading hp]
    exact w.content_read _ h
  | writeFault hp h => exact w.content_push_error _ _ h
  | flushFault hp h => rfl

/-- **A pump touches no connection of the other direction**, and makes none. -/
theorem Turn.other {t : PumpTurn} (h : Turn chunkSize d p w t) (hw : t.wires? = some w') :
    (∀ d', d' ≠ d → w'.sourceOf d' = w.sourceOf d' ∧ w'.sinkOf d' = w.sinkOf d') ∧
      w'.backend.hold = w.backend.hold := by
  cases h with
  | reads | closed | readFault =>
    cases hw
    exact ⟨fun d' hd => ⟨Wires.sourceOf_setSource_of_ne _ _ hd, Wires.sinkOf_setSource _ _ _ _⟩,
      Wires.hold_setSource _ _ _⟩
  | written | writes | writeFault =>
    cases hw
    exact ⟨fun d' hd => ⟨Wires.sourceOf_setSink _ _ _ _, Wires.sinkOf_setSink_of_ne _ _ hd⟩,
      Wires.hold_setSink _ _ _⟩
  | flushed | flushFault =>
    cases hw
    exact ⟨fun _ _ => ⟨rfl, rfl⟩, rfl⟩

end Pump

/-! ## 3. Relays -/

namespace Relay

/-- **A step of a relay**, with the turn of the given pump. -/
inductive Step (chunkSize : Nat) (turn : Direction) (r : Relay) (w : Wires) :
    Relay → Wires → Ledger → Prop where
  | goesOn {p : Pump} {w' : Wires} (hs : r.stage = .pumping)
      (h : Pump.Turn chunkSize turn (r.pump turn) w (.goesOn p w')) :
      Step chunkSize turn r w (r.setPump p turn) w' []
  | ends {fault : Option IoFault} {w' : Wires} (hs : r.stage = .pumping)
      (h : Pump.Turn chunkSize turn (r.pump turn) w (.ends fault w')) :
      Step chunkSize turn r w { r with stage := .closingBackend ⟨turn, fault⟩ } w' []
  | closesBackend {ending : RelayEnding} (hs : r.stage = .closingBackend ending) :
      Step chunkSize turn r w { r with stage := .closingClient ending }
        (w.toBackend w.backend.sink.shutdown) []
  | closesClient {ending : RelayEnding} (hs : r.stage = .closingClient ending) :
      Step chunkSize turn r w { r with stage := .ended ending }
        (w.toClient w.client.sink.shutdown).release
        [(.relayBytes .clientToBackend, r.up.moved), (.relayBytes .backendToClient, r.down.moved)]

variable {chunkSize : Nat} {turn : Direction} {r r' : Relay} {w w' : Wires} {ledger : Ledger}

/-- **Every step is one of the list.** -/
theorem step_cases (h : r.step chunkSize turn w = some (r', w', ledger)) :
    Step chunkSize turn r w r' w' ledger := by
  cases hs : r.stage with
  | pumping =>
    simp only [step, hs] at h
    cases ht : (r.pump turn).turn chunkSize turn w with
    | waits => simp [ht] at h
    | goesOn p w'' =>
      simp only [ht, Option.some.injEq, Prod.mk.injEq] at h
      obtain ⟨rfl, rfl, rfl⟩ := h
      exact .goesOn hs (ht ▸ Pump.turn_cases (by rw [ht]; exact PumpTurn.noConfusion))
    | ends fault w'' =>
      simp only [ht, Option.some.injEq, Prod.mk.injEq] at h
      obtain ⟨rfl, rfl, rfl⟩ := h
      exact .ends hs (ht ▸ Pump.turn_cases (by rw [ht]; exact PumpTurn.noConfusion))
  | closingBackend ending =>
    simp only [step, hs, Option.some.injEq, Prod.mk.injEq] at h
    obtain ⟨rfl, rfl, rfl⟩ := h
    exact .closesBackend hs
  | closingClient ending =>
    simp only [step, hs, Option.some.injEq, Prod.mk.injEq] at h
    obtain ⟨rfl, rfl, rfl⟩ := h
    exact .closesClient hs
  | ended ending => simp [step, hs] at h

@[simp] theorem pump_setPump_self (r : Relay) (p : Pump) (d : Direction) :
    (r.setPump p d).pump d = p := by
  cases d <;> rfl

theorem pump_setPump_of_ne (r : Relay) (p : Pump) {d d' : Direction} (h : d' ≠ d) :
    (r.setPump p d).pump d' = r.pump d' := by
  cases d <;> cases d' <;> first | rfl | exact absurd rfl h

/-- **What a step is to one direction**: a turn of its pump, which goes on or ends, or nothing. -/
theorem Step.direction_cases (h : Step chunkSize turn r w r' w' ledger) (d : Direction) :
    r.stage = .pumping ∧ Pump.Turn chunkSize d (r.pump d) w (.goesOn (r'.pump d) w') ∨
      r'.pump d = r.pump d ∧
        ((∃ fault, r.stage = .pumping ∧ Pump.Turn chunkSize d (r.pump d) w (.ends fault w')) ∨
          w'.sourceOf d = w.sourceOf d ∧ (w'.sinkOf d).delivered = (w.sinkOf d).delivered) := by
  cases h with
  | goesOn hs h =>
    by_cases hd : d = turn
    · subst hd
      rw [pump_setPump_self]
      exact Or.inl ⟨hs, h⟩
    · obtain ⟨hother, -⟩ := h.other rfl
      exact Or.inr ⟨pump_setPump_of_ne r _ hd, Or.inr
        ⟨(hother d hd).1, congrArg Sink.delivered (hother d hd).2⟩⟩
  | ends hs h =>
    refine Or.inr ⟨by cases d <;> rfl, ?_⟩
    by_cases hd : d = turn
    · subst hd
      exact Or.inl ⟨_, hs, h⟩
    · obtain ⟨hother, -⟩ := h.other rfl
      exact Or.inr ⟨(hother d hd).1, congrArg Sink.delivered (hother d hd).2⟩
  | closesBackend | closesClient => cases d <;> exact Or.inr ⟨rfl, Or.inr ⟨rfl, rfl⟩⟩

/-- **A step keeps the bytes of each direction**, in order: those accepted, those in hand, those not
read. -/
theorem Step.content (h : Step chunkSize turn r w r' w' ledger) (d : Direction) :
    w'.content (r'.pump d).rest d = w.content (r.pump d).rest d := by
  rcases h.direction_cases d with ⟨-, ht⟩ | ⟨hp, ⟨fault, -, ht⟩ | ⟨hsource, hdelivered⟩⟩
  · exact ht.content_goesOn
  · rw [hp]
    exact ht.content_ends
  · unfold Wires.content
    rw [hp, hsource, hdelivered]

/-- No step makes the service's connection. -/
theorem Step.hold_eq_absent (h : Step chunkSize turn r w r' w' ledger) :
    w'.backend.hold = .absent ↔ w.backend.hold = .absent := by
  cases h with
  | goesOn hs h | ends hs h => rw [(h.other rfl).2]
  | closesBackend hs => exact Iff.rfl
  | closesClient hs => exact Duplex.hold_release_eq_absent _

end Relay

end TrafficRouter
