import TrafficRouter.Proofs.Relay.Trace

/-!
# Chunks on their way

Of each direction of a relay, at every moment of every run (`Lane`): what has arrived is, in order, the
chunks that were read and what is not read yet; the chunks that were read are what the sink has
accepted and what the pump has in hand; and all chunks but the one in hand are accepted in full,
flushed and counted.

* `Lane.goesOn`, `Lane.ends`, `Lane.other`: what a turn of the direction's own pump keeps, and a turn
  of the other;
* `lanes_run`: the invariant at every moment.

NOT here: how the relay ends.
-/

namespace TrafficRouter

/-! ## 1. The invariant -/

/-- **How far a pump is with the chunks that it has read.** All of them are flushed and counted, or all
but the last, of which a part is accepted and the rest in hand. -/
inductive Pump.InHand (chunks : List Bytes) (flushes : Nat) (p : Pump) : Prop where
  | nothing (hs : p.stage = .reading) (hf : flushes = chunks.length)
      (hm : p.moved = chunks.flatten.length)
  | chunk {flushed : List Bytes} {chunk part : Bytes} (hs : p.stage ≠ .reading)
      (hc : chunks = flushed ++ [chunk]) (hp : chunk = part ++ p.rest)
      (hf : flushes = flushed.length) (hm : p.moved = flushed.flatten.length)
      (hl : p.chunk = chunk.length)

/-- **One direction of a relay**, as a trace tells of it. -/
structure Lane (chunkSize : Nat) (t : RelayTrace) (d : Direction) (p : Pump) (w : Wires) : Prop where
  arrived : (t.chunks d).flatten ++ (w.sourceOf d).unread = t.arrived d
  accepted : (w.sinkOf d).delivered ++ p.rest = (t.chunks d).flatten
  written : t.written d = (w.sinkOf d).delivered
  sized : ∀ chunk ∈ t.chunks d, chunk ≠ [] ∧ chunk.length ≤ chunkSize
  inHand : p.InHand (t.chunks d) (t.flushes d)
  solid : (w.sourceOf d).Solid

variable {chunkSize : Nat} {t : RelayTrace} {d : Direction} {p p' : Pump} {w w' : Wires}

/-- What a pump has in hand depends on what it is about to do and on its counts. -/
theorem Pump.InHand.eq_nothing {chunks : List Bytes} {flushes : Nat} (h : p.InHand chunks flushes)
    (hs : p.stage = .reading) : flushes = chunks.length ∧ p.moved = chunks.flatten.length := by
  cases h with
  | nothing _ hf hm => exact ⟨hf, hm⟩
  | chunk hs' => exact absurd hs hs'

/-! ## 2. A turn of the direction's own pump -/

/-- **A chunk is read** behind all that were read before. -/
theorem Lane.reads (h : Lane chunkSize t d p w) (hs : p.stage = .reading) {chunk : Bytes}
    {source : Source} (hne : chunk ≠ [])
    (hr : (w.sourceOf d).read chunkSize = (some (.bytes chunk), source)) :
    Lane chunkSize (t ++ [.read d chunk]) d
      { p with stage := .writing chunk, chunk := chunk.length } (w.setSource source d) := by
  obtain ⟨hf, hm⟩ := h.inHand.eq_nothing hs
  have hunread : chunk ++ source.unread = (w.sourceOf d).unread := Source.unread_read hr
  have haccepted : (w.sinkOf d).delivered = (t.chunks d).flatten := by
    rw [← h.accepted, Pump.rest_of_reading hs, List.append_nil]
  have hadds := t.adds_read d chunk
  refine ⟨?_, ?_, ?_, ?_, ?_, ?_⟩
  · rw [hadds.chunks, hadds.arrived, Wires.sourceOf_setSource_self, ← h.arrived, ← hunread]
    simp
  · rw [hadds.chunks, Wires.sinkOf_setSource, haccepted]
    simp [Pump.rest]
  · rw [hadds.written, Wires.sinkOf_setSource, List.append_nil]
    exact h.written
  · rw [hadds.chunks]
    intro c hc
    rcases List.mem_append.mp hc with hc | hc
    · exact h.sized c hc
    · rw [List.mem_singleton.mp hc]
      exact ⟨hne, Source.length_read_le hr⟩
  · rw [hadds.chunks, hadds.flushes]
    exact .chunk PumpStage.noConfusion rfl (List.nil_append chunk).symm hf hm rfl
  · rw [Wires.sourceOf_setSource_self]
    exact h.solid.read hr

/-- **A part of the chunk in hand is accepted.** -/
theorem Lane.writes (h : Lane chunkSize t d p w) {rest rest' : Bytes} {sink : Sink}
    (hs : p.stage = .writing rest) (hw : (w.sinkOf d).push rest = (some (.ok rest'), sink))
    (hstage : p'.stage ≠ .reading) (hrest : p'.rest = rest') (hmoved : p'.moved = p.moved)
    (hchunk : p'.chunk = p.chunk) :
    Lane chunkSize (t ++ [.ofWrite d rest (.ok rest')]) d p' (w.setSink sink d) := by
  obtain ⟨accepted, hd, hsplit, -⟩ := Sink.delivered_push hw
  have hprest : p.rest = accepted ++ rest' := (Pump.rest_of_writing hs).trans hsplit.symm
  have hevent : RelayEvent.ofWrite d rest (.ok rest') = .wrote d accepted := by
    rw [← hsplit]
    exact Pump.ofWrite_accepted d accepted rest'
  have hadds := t.adds_wrote d accepted
  rw [hevent]
  refine ⟨?_, ?_, ?_, ?_, ?_, ?_⟩
  · rw [hadds.chunks, hadds.arrived, Wires.sourceOf_setSink, List.append_nil, List.append_nil]
    exact h.arrived
  · rw [hadds.chunks, Wires.sinkOf_setSink_self, hd, hrest, List.append_nil, ← h.accepted, hprest,
      List.append_assoc]
  · rw [hadds.written, Wires.sinkOf_setSink_self, hd, h.written]
  · rw [hadds.chunks, List.append_nil]
    exact h.sized
  · rw [hadds.chunks, hadds.flushes, List.append_nil]
    cases h.inHand with
    | nothing hs' =>
      rw [hs] at hs'
      cases hs'
    | @chunk flushed chunk part _ hc hp hf hm hl =>
      have hp' : chunk = part ++ accepted ++ p'.rest := by
        rw [hp, hprest, hrest, List.append_assoc]
      exact .chunk hstage hc hp' hf (hmoved.trans hm) (hchunk.trans hl)
  · rw [Wires.sourceOf_setSink]
    exact h.solid

/-- **A chunk is flushed**, and counted with all of its bytes. -/
theorem Lane.flushes (h : Lane chunkSize t d p w) (hs : p.stage = .flushing) :
    Lane chunkSize (t ++ [.flushed d]) d
      { p with stage := .reading, moved := p.moved + p.chunk } w := by
  have hrest : p.rest = [] := Pump.rest_of_flushing hs
  have hadds := t.adds_flushed d
  refine ⟨?_, ?_, ?_, ?_, ?_, h.solid⟩
  · rw [hadds.chunks, hadds.arrived, List.append_nil, List.append_nil]
    exact h.arrived
  · rw [hadds.chunks, List.append_nil, ← h.accepted, hrest]
    rfl
  · rw [hadds.written, List.append_nil]
    exact h.written
  · rw [hadds.chunks, List.append_nil]
    exact h.sized
  · rw [hadds.chunks, hadds.flushes, List.append_nil]
    cases h.inHand with
    | nothing hs' =>
      rw [hs] at hs'
      cases hs'
    | chunk _ hc hp hf hm hl =>
      refine .nothing rfl ?_ ?_
      · rw [hc, hf, List.length_append]
        rfl
      · show p.moved + p.chunk = _
        rw [hc, hm, hl]
        simp

/-- **A turn of the direction's own pump** that goes on. -/
theorem Lane.goesOn (h : Lane chunkSize t d p w)
    (ht : Pump.Turn chunkSize d p w (.goesOn p' w')) :
    Lane chunkSize (t ++ (p.event? chunkSize d w).toList) d p' w' := by
  cases ht with
  | reads hp hne hr =>
    obtain ⟨b, chunk, rfl⟩ := List.exists_cons_of_ne_nil hne
    rw [Pump.event?_of_reading hp, hr]
    exact h.reads hp hne hr
  | written hp hw =>
    rw [Pump.event?_of_writing hp, hw]
    exact h.writes hp hw PumpStage.noConfusion rfl rfl rfl
  | writes hp hne hw =>
    rw [Pump.event?_of_writing hp, hw]
    exact h.writes hp hw PumpStage.noConfusion rfl rfl rfl
  | flushed hp hf =>
    rw [Pump.event?_of_flushing hp, hf]
    exact h.flushes hp

/-! ## 3. What else happens -/

/-- An event that moves no bytes of the direction, where its connections keep theirs. -/
theorem Lane.keep (h : Lane chunkSize t d p w) {e : RelayEvent}
    (he : t.Adds d e [] [] [] 0)
    (hunread : (w'.sourceOf d).unread = (w.sourceOf d).unread)
    (hdelivered : (w'.sinkOf d).delivered = (w.sinkOf d).delivered)
    (hsolid : (w'.sourceOf d).Solid) : Lane chunkSize (t ++ [e]) d p w' := by
  have hchunks := he.chunks.trans (List.append_nil _)
  refine ⟨?_, ?_, ?_, ?_, ?_, hsolid⟩
  · rw [hchunks, he.arrived, List.append_nil, hunread]
    exact h.arrived
  · rw [hchunks, hdelivered]
    exact h.accepted
  · rw [he.written, List.append_nil, hdelivered]
    exact h.written
  · rw [hchunks]
    exact h.sized
  · rw [hchunks, he.flushes]
    exact h.inHand

/-- A pump that ends writes nothing with it. -/
theorem Pump.Turn.delivered_ends {fault : Option IoFault}
    (ht : Pump.Turn chunkSize d p w (.ends fault w')) :
    (w'.sinkOf d).delivered = (w.sinkOf d).delivered := by
  cases ht with
  | closed hp hr | readFault hp hr => rw [Wires.sinkOf_setSource]
  | writeFault hp hw => rw [Wires.sinkOf_setSink_self, (Sink.delivered_push_error hw).1]
  | flushFault hp hf => rfl

/-- **A pump that ends** keeps what it has in hand. -/
theorem Lane.ends (h : Lane chunkSize t d p w) {fault : Option IoFault}
    (ht : Pump.Turn chunkSize d p w (.ends fault w')) :
    Lane chunkSize (t ++ [RelayEnding.event ⟨d, fault⟩]) d p w' := by
  have he : (RelayEnding.event ⟨d, fault⟩).goesOn = false := by cases fault <;> rfl
  refine h.keep (t.adds_of_not_goesOn he d) ?_ ht.delivered_ends ?_
  · cases ht with
    | closed hp hr | readFault hp hr =>
      rw [Wires.sourceOf_setSource_self, ← Source.unread_read hr]
      rfl
    | writeFault hp hw => rw [Wires.sourceOf_setSink]
    | flushFault hp hf => rfl
  · cases ht with
    | closed hp hr | readFault hp hr =>
      rw [Wires.sourceOf_setSource_self]
      exact h.solid.read hr
    | writeFault hp hw =>
      rw [Wires.sourceOf_setSink]
      exact h.solid
    | flushFault hp hf => exact h.solid

/-- **What happens in the other direction** moves nothing in this one. -/
theorem Lane.other (h : Lane chunkSize t d p w) {e : RelayEvent} (he : e.direction ≠ d)
    (hsource : w'.sourceOf d = w.sourceOf d) (hsink : w'.sinkOf d = w.sinkOf d) :
    Lane chunkSize (t ++ [e]) d p w' := by
  refine h.keep (t.adds_of_direction_ne he) ?_ ?_ ?_
  · rw [hsource]
  · rw [hsink]
  · rw [hsource]
    exact h.solid

/-- **What a peer sends** comes behind all that has arrived. -/
theorem Lane.outside {r s : RelayRun} {from_ : Direction} {bytes : Bytes}
    (h : Lane chunkSize t d p r.wires) (ho : RelayRun.Outside from_ bytes r s) :
    Lane chunkSize (t ++ .ofSent from_ bytes) d p s.wires := by
  obtain ⟨harrived, hchunks, hwritten, hflushes, -⟩ := RelayTrace.of_ofSent from_ d bytes
  have hchunks' : (t ++ .ofSent from_ bytes).chunks d = t.chunks d := by
    rw [RelayTrace.chunks_append, hchunks, List.append_nil]
  refine ⟨?_, ?_, ?_, ?_, ?_, ho.solid d h.solid⟩
  · rw [hchunks', RelayTrace.arrived_append, harrived, ho.unread, ← List.append_assoc, h.arrived]
  · rw [hchunks', ho.delivered]
    exact h.accepted
  · rw [RelayTrace.written_append, hwritten, List.append_nil, ho.delivered]
    exact h.written
  · rw [hchunks']
    exact h.sized
  · rw [hchunks', RelayTrace.flushes_append, hflushes]
    exact h.inHand

/-! ## 4. Every moment -/

/-- A relay with the given chunk size between two connections that nothing has passed. -/
def RelayRun.fresh (chunkSize : Nat) : RelayRun where
  chunkSize
  wires := { backend := {} }

/-- **A step of the relay** keeps both lanes. -/
theorem Lane.step {turn : Direction} {r r' : Relay} {ledger : Ledger}
    (h : ∀ d, Lane chunkSize t d (r.pump d) w)
    (hstep : Relay.Step chunkSize turn r w r' w' ledger) :
    ∀ d, Lane chunkSize (t ++ (r.event? chunkSize turn w).toList) d (r'.pump d) w' := by
  intro d
  cases hstep with
  | goesOn hs ht =>
    rename_i p'
    rw [Relay.event?_of_pumping hs]
    by_cases hd : d = turn
    · subst hd
      rw [Relay.pump_setPump_self]
      exact (h d).goesOn ht
    · obtain ⟨e, he, hdir, -⟩ := ht.event?_of_goesOn
      obtain ⟨hother, -⟩ := ht.other rfl
      rw [he, Relay.pump_setPump_of_ne r _ hd]
      exact (h d).other (fun e' => hd (e'.symm.trans hdir)) (hother d hd).1 (hother d hd).2
  | ends hs ht =>
    rename_i fault
    have hdir : (RelayEnding.event ⟨turn, fault⟩).direction = turn := by cases fault <;> rfl
    rw [Relay.event?_of_pumping hs, ht.event?_of_ends]
    by_cases hd : d = turn
    · subst hd
      exact (h d).ends ht
    · obtain ⟨hother, -⟩ := ht.other rfl
      exact (h d).other (fun e' => hd (e'.symm.trans hdir)) (hother d hd).1 (hother d hd).2
  | closesBackend hs =>
    rw [Relay.event?_of_closingBackend hs]
    refine (h d).keep (t.adds_of_not_goesOn rfl d) ?_ ?_ ?_
    · cases d <;> rfl
    · cases d <;> rfl
    · have hsolid := (h d).solid
      cases d <;> exact hsolid
  | closesClient hs =>
    rw [Relay.event?_of_closingClient hs]
    refine (h d).keep (t.adds_of_not_goesOn rfl d) ?_ ?_ ?_
    · cases d <;> rfl
    · cases d <;> rfl
    · have hsolid := (h d).solid
      cases d <;> exact hsolid

/-- **Both lanes of a relay** with chunks of at most a given size. -/
structure Lanes (chunkSize : Nat) (t : RelayTrace) (r : RelayRun) : Prop where
  size : r.chunkSize = chunkSize
  lane : ∀ d, Lane chunkSize t d (r.relay.pump d) r.wires

namespace Lanes

variable {r s : RelayRun}

theorem fresh (chunkSize : Nat) : Lanes chunkSize [] (.fresh chunkSize) := by
  refine ⟨rfl, fun d => ?_⟩
  have hsized : ∀ chunk ∈ RelayTrace.chunks d [], chunk ≠ [] ∧ chunk.length ≤ chunkSize :=
    fun _ hc => absurd hc List.not_mem_nil
  have hsolid : ((RelayRun.fresh chunkSize).wires.sourceOf d).Solid := by
    cases d <;> exact fun _ hp => absurd hp List.not_mem_nil
  cases d <;> exact ⟨rfl, rfl, rfl, hsized, .nothing rfl rfl rfl, hsolid⟩

/-- What a peer sends arrives in its lane. -/
theorem outside {d : Direction} {bytes : Bytes} (h : Lanes chunkSize t r)
    (ho : RelayRun.Outside d bytes r s) : Lanes chunkSize (t ++ .ofSent d bytes) s := by
  refine ⟨ho.chunkSize.trans h.size, fun d' => ?_⟩
  rw [ho.relay]
  exact (h.lane d').outside ho

/-- A step of the relay keeps both lanes. -/
theorem step {turn : Direction} (h : Lanes chunkSize t r) (hs : r.step turn = some s) :
    Lanes chunkSize (t ++ (r.relay.event? r.chunkSize turn r.wires).toList) s := by
  obtain ⟨ledger, hstep, hsize, -⟩ := RelayRun.step_cases hs
  rw [h.size] at hstep ⊢
  exact ⟨hsize.trans h.size, Lane.step h.lane hstep⟩

end Lanes

/-- **Both lanes at every moment of every run.** -/
theorem RelayRun.lanes_run (chunkSize : Nat) (labels : List RelayLabel) :
    Lanes chunkSize ((fresh chunkSize).trace labels) ((fresh chunkSize).run labels) :=
  trace_induct (fun _ _ _ _ _ ho h => h.outside ho) (fun _ _ _ _ hs h => h.step hs)
    (.fresh chunkSize) labels

end TrafficRouter
