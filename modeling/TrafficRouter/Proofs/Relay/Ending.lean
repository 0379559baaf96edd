import TrafficRouter.Proofs.Relay.Independence
import TrafficRouter.Proofs.Words

/-!
# How a relay ends

The trace of a relay that has ended is what it did while both pumps ran, then the end of one pump, and
then, but for what still arrives, the closing of the service's sink and that of the client's
(`Course`). What the relay reports of a direction is what was flushed in it (`Lane.moved_eq`); less
than a chunk more was accepted. Kept in words of 64 bits the counts are the same while no more bytes
than such a word can count were accepted (`Lane.moved_inWords`).

* `Course.step`, `course_run`: the invariant;
* `Relay.result?_cases`: the result of a relay is how its pump ended, with both counts;
* `Ended`, `ended_of_result`: all that is known of a relay that has a result.

NOT here: relays in sessions.
-/

namespace TrafficRouter

/-! ## 1. The invariant -/

/-- The directions whose sinks have been closed for writing. -/
def RelayStage.closings : RelayStage → List Direction
  | .pumping | .closingBackend _ => []
  | .closingClient _ => [.clientToBackend]
  | .ended _ => [.clientToBackend, .backendToClient]

/-- What a relay has counted. -/
def Relay.counted (r : Relay) : Ledger :=
  match r.stage with
  | .ended _ => [(.relayBytes .clientToBackend, r.up.moved), (.relayBytes .backendToClient, r.down.moved)]
  | .pumping | .closingBackend _ | .closingClient _ => []

/-- **A step counts what the relay behind it has counted**: both counts with the end, and else nothing. -/
theorem Relay.Step.ledger_eq {chunkSize : Nat} {turn : Direction} {r r' : Relay} {w w' : Wires}
    {ledger : Ledger} (h : Relay.Step chunkSize turn r w r' w' ledger) :
    ledger = r'.counted ∧ r.counted = [] := by
  unfold counted
  cases h with
  | goesOn hs h =>
    rw [hs]
    cases turn <;> exact ⟨by simp only [setPump, hs], rfl⟩
  | ends hs h | closesBackend hs | closesClient hs =>
    rw [hs]
    exact ⟨rfl, rfl⟩

/-- **The course of a relay**, as a trace tells of it. -/
structure Course (chunkSize : Nat) (t : RelayTrace) (r : RelayRun) : Prop where
  going : r.relay.stage.ending? = none → ∀ e ∈ t, e.goesOn = true
  ended : ∀ ending, r.relay.stage.ending? = some ending →
    ∃ before after : RelayTrace, t = before ++ ending.event :: after ∧ (∀ e ∈ before, e.goesOn = true) ∧
      after.done = r.relay.stage.closings.map .shutdown ∧
      (ending.fault = none → (r.relay.pump ending.direction).stage = .reading ∧
        (1 ≤ chunkSize →
          (r.wires.sinkOf ending.direction).delivered = before.arrived ending.direction))
  isShutdown : ∀ d, (r.wires.sinkOf d).isShutdown = r.relay.stage.closings.contains d
  ledger : r.ledger = r.relay.counted

namespace Pump

variable {chunkSize : Nat} {d : Direction} {p : Pump} {w w' : Wires} {turn : PumpTurn}

/-- No pump closes a sink. -/
theorem Turn.isShutdown (h : Turn chunkSize d p w turn) (hw : turn.wires? = some w')
    (d' : Direction) : (w'.sinkOf d').isShutdown = (w.sinkOf d').isShutdown := by
  by_cases hd : d' = d
  · subst hd
    cases h with
    | reads | closed | readFault =>
      cases hw
      rw [Wires.sinkOf_setSource]
    | written hp hpush | writes hp hne hpush =>
      cases hw
      obtain ⟨-, -, -, hsame⟩ := Sink.delivered_push hpush
      rw [Wires.sinkOf_setSink_self, hsame]
    | writeFault hp hpush =>
      cases hw
      rw [Wires.sinkOf_setSink_self, (Sink.delivered_push_error hpush).2]
    | flushed | flushFault =>
      cases hw
      rfl
  · rw [((h.other hw).1 d' hd).2]

theorem Turn.reading_of_closed (h : Turn chunkSize d p w (.ends none w')) :
    p.stage = .reading := by
  cases h with
  | closed hp hr => exact hp

/-- **A pump that finds its source closed has moved all that has arrived.** -/
theorem Turn.all_delivered {t : RelayTrace} (h : Turn chunkSize d p w (.ends none w'))
    (hlane : Lane chunkSize t d p w) (hsize : 1 ≤ chunkSize) :
    (w'.sinkOf d).delivered = t.arrived d := by
  cases h with
  | closed hp hr =>
    obtain ⟨hunread, -⟩ := hlane.solid.read_nil hsize hr
    have hdelivered := hlane.accepted
    rw [rest_of_reading hp, List.append_nil] at hdelivered
    rw [Wires.sinkOf_setSource, hdelivered, ← hlane.arrived, hunread, List.append_nil]

end Pump

/-! ## 2. What keeps it -/

namespace Course

variable {chunkSize : Nat} {t : RelayTrace} {r s : RelayRun}

/-- **What a peer sends changes nothing of the course.** -/
theorem outside {d : Direction} {bytes : Bytes} (h : Course chunkSize t r)
    (ho : RelayRun.Outside d bytes r s) : Course chunkSize (t ++ .ofSent d bytes) s := by
  obtain ⟨-, -, -, -, hdone, hgoesOn⟩ := RelayTrace.of_ofSent d d bytes
  refine ⟨fun he => ?_, fun ending he => ?_, fun d' => ?_, ?_⟩
  · rw [ho.relay] at he
    intro e hmem
    rcases List.mem_append.mp hmem with hmem | hmem
    · exact h.going he e hmem
    · exact hgoesOn e hmem
  · rw [ho.relay] at he ⊢
    obtain ⟨before, after, ht, hbefore, hafter, hclosed⟩ := h.ended ending he
    refine ⟨before, after ++ .ofSent d bytes, ?_, hbefore, ?_, fun hfault => ?_⟩
    · rw [ht, List.append_assoc]
      rfl
    · rw [RelayTrace.done_append, hdone, List.append_nil]
      exact hafter
    · rw [ho.delivered]
      exact hclosed hfault
  · rw [ho.isShutdown, ho.relay]
    exact h.isShutdown d'
  · rw [ho.ledger, ho.relay]
    exact h.ledger

/-- A relay that goes on. -/
theorem goesOn (h : Course chunkSize t r) {e : RelayEvent} (he : e.goesOn = true)
    (hr : r.relay.stage = .pumping) (hs : s.relay.stage = .pumping)
    (hshutdown : ∀ d, (s.wires.sinkOf d).isShutdown = (r.wires.sinkOf d).isShutdown)
    (hledger : s.ledger = s.relay.counted) : Course chunkSize (t ++ [e]) s := by
  refine ⟨fun _ e' hmem => ?_, fun ending hending => ?_, fun d => ?_, hledger⟩
  · rcases List.mem_append.mp hmem with hmem | hmem
    · exact h.going (by rw [hr]; rfl) e' hmem
    · rw [List.mem_singleton.mp hmem]
      exact he
  · rw [hs] at hending
    cases hending
  · rw [hshutdown, h.isShutdown, hr, hs]

/-- A relay whose pump ends. -/
theorem ends (h : Course chunkSize t r) {ending : RelayEnding} (hr : r.relay.stage = .pumping)
    (hs : s.relay.stage = .closingBackend ending)
    (hclosed : ending.fault = none → (s.relay.pump ending.direction).stage = .reading ∧
      (1 ≤ chunkSize →
        (s.wires.sinkOf ending.direction).delivered = t.arrived ending.direction))
    (hshutdown : ∀ d, (s.wires.sinkOf d).isShutdown = (r.wires.sinkOf d).isShutdown)
    (hledger : s.ledger = s.relay.counted) : Course chunkSize (t ++ [ending.event]) s := by
  refine ⟨fun he => ?_, fun ending' he => ?_, fun d => ?_, hledger⟩
  · rw [hs] at he
    cases he
  · rw [hs] at he ⊢
    cases he
    exact ⟨t, [], rfl, h.going (by rw [hr]; rfl), rfl, hclosed⟩
  · rw [hshutdown, h.isShutdown, hr, hs]
    rfl

/-- A relay whose pump has ended and that closes one more sink. -/
theorem close (h : Course chunkSize t r) {d : Direction} {ending : RelayEnding}
    (hr : r.relay.stage.ending? = some ending) (hs : s.relay.stage.ending? = some ending)
    (hclosings : s.relay.stage.closings = r.relay.stage.closings ++ [d])
    (hpump : s.relay.pump = r.relay.pump)
    (hdelivered : ∀ d', (s.wires.sinkOf d').delivered = (r.wires.sinkOf d').delivered)
    (hshutdown : ∀ d', (s.wires.sinkOf d').isShutdown = ((r.wires.sinkOf d').isShutdown || d' == d))
    (hledger : s.ledger = s.relay.counted) : Course chunkSize (t ++ [.shutdown d]) s := by
  refine ⟨fun he => ?_, fun ending' he => ?_, fun d' => ?_, hledger⟩
  · rw [hs] at he
    cases he
  · rw [hs] at he
    cases he
    obtain ⟨before, after, ht, hbefore, hafter, hclosed⟩ := h.ended ending hr
    refine ⟨before, after ++ [.shutdown d], ?_, hbefore, ?_, fun hfault => ?_⟩
    · rw [ht, List.append_assoc]
      rfl
    · rw [RelayTrace.done_append, hafter, hclosings, List.map_append]
      rfl
    · rw [hdelivered, hpump]
      exact hclosed hfault
  · rw [hshutdown, h.isShutdown, hclosings, List.contains_eq_any_beq, List.contains_eq_any_beq,
      List.any_append]
    simp

/-- **A step of the relay keeps the course.** -/
theorem step {turn : Direction} (h : Course chunkSize t r) (hlanes : Lanes chunkSize t r)
    (hs : r.step turn = some s) :
    Course chunkSize (t ++ (r.relay.event? r.chunkSize turn r.wires).toList) s := by
  obtain ⟨ledger, hstep, -, hledger⟩ := RelayRun.step_cases hs
  have hcounted : s.ledger = s.relay.counted := by
    obtain ⟨hnew, hold⟩ := hstep.ledger_eq
    rw [hledger, h.ledger, hnew, hold]
    rfl
  rw [hlanes.size] at hstep ⊢
  generalize hrelay : s.relay = relay at hstep
  generalize hwires : s.wires = wires at hstep
  cases hstep with
  | goesOn hst ht =>
    have hstage : s.relay.stage = .pumping := by
      rw [hrelay]
      cases turn <;> exact hst
    obtain ⟨e, he, -, hgoesOn⟩ := ht.event?_of_goesOn
    rw [Relay.event?_of_pumping hst, he]
    refine h.goesOn hgoesOn hst hstage (fun d => ?_) hcounted
    rw [hwires, ht.isShutdown rfl]
  | ends hst ht =>
    rename_i fault
    rw [Relay.event?_of_pumping hst, ht.event?_of_ends]
    refine h.ends hst (by rw [hrelay]) (fun hfault => ?_) (fun d => ?_) hcounted
    · cases hfault
      have hpump : s.relay.pump turn = r.relay.pump turn := by
        rw [hrelay]
        cases turn <;> rfl
      rw [hpump, hwires]
      exact ⟨ht.reading_of_closed, ht.all_delivered (hlanes.lane turn)⟩
    · rw [hwires, ht.isShutdown rfl]
  | closesBackend hst =>
    rw [Relay.event?_of_closingBackend hst]
    refine h.close (by rw [hst]; rfl) (by rw [hrelay]; rfl) (by rw [hrelay, hst]; rfl)
      (by rw [hrelay]; rfl) (fun d => ?_) (fun d => ?_) hcounted
    · rw [hwires]
      cases d <;> rfl
    · rw [hwires]
      cases d <;> simp [Wires.sinkOf, Wires.toBackend, Sink.shutdown]
  | closesClient hst =>
    rw [Relay.event?_of_closingClient hst]
    refine h.close (by rw [hst]; rfl) (by rw [hrelay]; rfl) (by rw [hrelay, hst]; rfl)
      (by rw [hrelay]; rfl) (fun d => ?_) (fun d => ?_) hcounted
    · rw [hwires]
      cases d <;> rfl
    · rw [hwires]
      cases d <;> simp [Wires.sinkOf, Wires.toClient, Wires.release, Duplex.release, Sink.shutdown]

end Course

/-- **Lanes and course at every moment of every run.** -/
theorem RelayRun.course_run (chunkSize : Nat) (labels : List RelayLabel) :
    Course chunkSize ((fresh chunkSize).trace labels) ((fresh chunkSize).run labels) := by
  have hstart : Course chunkSize [] (fresh chunkSize) := by
    refine ⟨fun _ e he => ?_, fun ending he => ?_, fun d => ?_, rfl⟩
    · cases he
    · cases he
    · cases d <;> rfl
  have hrun : Course chunkSize ((fresh chunkSize).trace labels) ((fresh chunkSize).run labels) ∧
      Lanes chunkSize ((fresh chunkSize).trace labels) ((fresh chunkSize).run labels) := by
    refine trace_induct (P := fun t r => Course chunkSize t r ∧ Lanes chunkSize t r) ?_ ?_
      ⟨hstart, .fresh chunkSize⟩ labels
    · rintro t r s d bytes ho ⟨hcourse, hlanes⟩
      exact ⟨hcourse.outside ho, hlanes.outside ho⟩
    · rintro t r s turn hs ⟨hcourse, hlanes⟩
      exact ⟨hcourse.step hlanes hs, hlanes.step hs⟩
  exact hrun.1

/-! ## 3. What a relay reports -/

/-- The chunks that were written in full and flushed one way. -/
def RelayTrace.flushed (d : Direction) (t : RelayTrace) : List Bytes :=
  (t.chunks d).take (t.flushes d)

/-- **What a pump has moved is what was flushed**, and no more than a chunk less than what was
accepted. -/
theorem Lane.moved_eq {chunkSize : Nat} {t : RelayTrace} {d : Direction} {p : Pump} {w : Wires}
    (h : Lane chunkSize t d p w) :
    p.moved = (t.flushed d).flatten.length ∧ (t.flushed d).flatten <+: (w.sinkOf d).delivered ∧
      p.moved ≤ (w.sinkOf d).delivered.length ∧
      (w.sinkOf d).delivered.length ≤ p.moved + chunkSize := by
  have haccepted := h.accepted
  cases h.inHand with
  | nothing hs hf hm =>
    have hflushed : t.flushed d = t.chunks d := by
      unfold RelayTrace.flushed
      rw [hf, List.take_length]
    rw [Pump.rest_of_reading hs, List.append_nil] at haccepted
    rw [hflushed, haccepted, hm]
    exact ⟨rfl, List.prefix_rfl, Nat.le_refl _, Nat.le_add_right _ _⟩
  | @chunk flushed chunk part hs hc hp hf hm hl =>
    have hflushed : t.flushed d = flushed := by
      unfold RelayTrace.flushed
      rw [hc, hf, List.take_left]
    have hdelivered : (w.sinkOf d).delivered = flushed.flatten ++ part := by
      have hsplit : (w.sinkOf d).delivered ++ p.rest = flushed.flatten ++ part ++ p.rest := by
        rw [haccepted, hc, hp]
        simp
      exact List.append_cancel_right hsplit
    have hpart : part.length ≤ chunkSize := by
      have hmem : chunk ∈ t.chunks d := by
        rw [hc]
        exact List.mem_append_right _ (List.mem_singleton_self chunk)
      have hlength := (h.sized chunk hmem).2
      rw [hp, List.length_append] at hlength
      omega
    rw [hflushed, hdelivered, hm, List.length_append]
    exact ⟨rfl, List.prefix_append _ _, Nat.le_add_right _ _, Nat.add_le_add_left hpart _⟩

/-- **A pump that counts in words of 64 bits has moved as much**, chunk by flushed chunk, if what was
accepted can be counted so. -/
theorem Lane.moved_inWords {chunkSize : Nat} {t : RelayTrace} {d : Direction} {p : Pump} {w : Wires}
    (h : Lane chunkSize t d p w) (hfits : (w.sinkOf d).delivered.length ≤ Numeral.maxWord64) :
    total64? ((t.flushed d).map List.length) = some p.moved := by
  obtain ⟨hmoved, -, hle, -⟩ := h.moved_eq
  rw [List.length_flatten] at hmoved
  rw [hmoved] at hle ⊢
  exact total64?_eq_some (Nat.le_trans hle hfits)

/-- What a relay that a closed source ended says of a direction. -/
def RelayStats.moved (s : RelayStats) : Direction → Nat
  | .clientToBackend => s.clientToBackend
  | .backendToClient => s.backendToClient

/-- What a relay that failed says of a direction. -/
def RelayError.moved (e : RelayError) : Direction → Nat
  | .clientToBackend => e.transferred.1
  | .backendToClient => e.transferred.2

/-- What the result of a relay says of a direction. -/
def RelayEnding.reported : Except RelayError RelayStats → Direction → Nat
  | .ok stats => stats.moved
  | .error error => error.moved

/-- How a result says that the relay ended. -/
def RelayEnding.ofResult : Except RelayError RelayStats → RelayEnding
  | .ok stats => ⟨stats.closedBy, none⟩
  | .error error => ⟨error.direction, some error.fault⟩

/-- **A relay has a result once it has ended**: how its pump ended, with both counts. -/
theorem Relay.result?_cases {r : Relay} {result : Except RelayError RelayStats}
    (h : r.result? = some result) :
    r.stage = .ended (.ofResult result) ∧
      ∀ d, RelayEnding.reported result d = (r.pump d).moved := by
  unfold result? at h
  cases hs : r.stage with
  | pumping | closingBackend | closingClient => simp [hs] at h
  | ended ending =>
    obtain ⟨direction, fault⟩ := ending
    cases fault with
    | none =>
      simp only [hs, Option.some.injEq] at h
      subst h
      exact ⟨rfl, fun d => by cases d <;> rfl⟩
    | some fault =>
      simp only [hs, Option.some.injEq] at h
      subst h
      exact ⟨rfl, fun d => by cases d <;> rfl⟩

theorem Relay.ending?_of_result {r : Relay} {result : Except RelayError RelayStats}
    (h : r.result? = some result) : r.stage.ending? = some (.ofResult result) := by
  rw [(result?_cases h).1]
  rfl

/-- Without a result nothing is counted. -/
theorem Relay.counted_of_no_result {r : Relay} (h : r.result? = none) : r.counted = [] := by
  unfold result? at h
  unfold counted
  cases hs : r.stage with
  | pumping | closingBackend | closingClient => rfl
  | ended ending =>
    obtain ⟨direction, fault⟩ := ending
    cases fault <;> simp [hs] at h

/-- With a result both of its counts are counted. -/
theorem Relay.total_counted {r : Relay} {result : Except RelayError RelayStats}
    (h : r.result? = some result) (d : Direction) :
    r.counted.total (.relayBytes d) = RelayEnding.reported result d := by
  obtain ⟨hs, hreported⟩ := result?_cases h
  rw [hreported d]
  unfold counted
  rw [hs]
  cases d <;> simp [Ledger.total, pump]

/-- **All that is known of a relay that has ended with a result.** -/
structure RelayRun.Ended (chunkSize : Nat) (t : RelayTrace) (r : RelayRun)
    (result : Except RelayError RelayStats) : Prop where
  /-- The pump that the result names ended last of what moved bytes, as the result says; behind that
  the service's sink was closed and then the client's, and nothing else was done. Where the pump
  found its source closed, all that had arrived till then was accepted and is reported. -/
  course : ∃ before after : RelayTrace, t = before ++ (RelayEnding.ofResult result).event :: after ∧
    (∀ e ∈ before, e.goesOn = true) ∧
    after.done = [.shutdown .clientToBackend, .shutdown .backendToClient] ∧
    ∀ stats, result = .ok stats →
      (r.wires.sinkOf stats.closedBy).delivered = before.arrived stats.closedBy ∧
        stats.moved stats.closedBy = (before.arrived stats.closedBy).length
  isShutdown : ∀ d, (r.wires.sinkOf d).isShutdown = true
  /-- What is reported is what was flushed. -/
  reported : ∀ d, RelayEnding.reported result d = (t.flushed d).flatten.length
  flushed : ∀ d, (t.flushed d).flatten <+: (r.wires.sinkOf d).delivered
  least : ∀ d, RelayEnding.reported result d ≤ (r.wires.sinkOf d).delivered.length
  most : ∀ d, (r.wires.sinkOf d).delivered.length ≤ RelayEnding.reported result d + chunkSize
  counted : ∀ d, r.ledger.total (.relayBytes d) = RelayEnding.reported result d
  /-- A count of flushed chunks in words of 64 bits comes to what is reported, if what was accepted can
  be counted so. -/
  inWords : ∀ d, (r.wires.sinkOf d).delivered.length ≤ Numeral.maxWord64 →
    total64? ((t.flushed d).map List.length) = some (RelayEnding.reported result d)

/-- A pump that has found its source closed has moved all that was accepted. -/
theorem Lane.all_moved {chunkSize : Nat} {t : RelayTrace} {d : Direction} {p : Pump} {w : Wires}
    (h : Lane chunkSize t d p w) (hs : p.stage = .reading) :
    p.moved = (w.sinkOf d).delivered.length := by
  have haccepted := h.accepted
  rw [Pump.rest_of_reading hs, List.append_nil] at haccepted
  rw [haccepted]
  exact (h.inHand.eq_nothing hs).2

/-- **Every relay that has a result has ended with it.** -/
theorem RelayRun.ended_of_result {chunkSize : Nat} (hsize : 1 ≤ chunkSize)
    (labels : List RelayLabel) {result : Except RelayError RelayStats}
    (h : ((fresh chunkSize).run labels).relay.result? = some result) :
    Ended chunkSize ((fresh chunkSize).trace labels) ((fresh chunkSize).run labels) result := by
  have hcourse := course_run chunkSize labels
  obtain ⟨-, hlanes⟩ := lanes_run chunkSize labels
  obtain ⟨hstage, hreported⟩ := Relay.result?_cases h
  obtain ⟨before, after, ht, hbefore, hafter, hclosed⟩ :=
    hcourse.ended _ (Relay.ending?_of_result h)
  have hclosings : ((fresh chunkSize).run labels).relay.stage.closings =
      [.clientToBackend, .backendToClient] := by
    rw [hstage]
    rfl
  refine ⟨⟨before, after, ht, hbefore, ?_, fun stats hstats => ?_⟩, fun d => ?_, fun d => ?_,
    fun d => ?_, fun d => ?_, fun d => ?_, fun d => ?_, fun d hfits => ?_⟩
  · rw [hafter, hclosings]
    rfl
  · subst hstats
    obtain ⟨hreading, hdelivered⟩ := hclosed rfl
    have hall := hdelivered hsize
    have hmoved := (hlanes stats.closedBy).all_moved hreading
    exact ⟨hall, (hreported stats.closedBy).trans (hmoved.trans (congrArg List.length hall))⟩
  · rw [hcourse.isShutdown, hclosings]
    cases d <;> rfl
  · rw [hreported]
    exact (hlanes d).moved_eq.1
  · exact (hlanes d).moved_eq.2.1
  · rw [hreported]
    exact (hlanes d).moved_eq.2.2.1
  · rw [hreported]
    exact (hlanes d).moved_eq.2.2.2
  · rw [hcourse.ledger, Relay.total_counted h]
  · rw [hreported]
    exact (hlanes d).moved_inWords hfits

/-- **A relay whose pump has ended comes to a result** with the next two turns, whatever they are of. -/
theorem RelayRun.result_of_ending {r : RelayRun} {ending : RelayEnding}
    (h : r.relay.stage.ending? = some ending) (first second : Direction) :
    ∃ result, ((r.happen (.turn first)).happen (.turn second)).relay.result? = some result ∧
      RelayEnding.ofResult result = ending := by
  have hended (s : RelayRun) (hs : s.relay.stage = .ended ending) :
      ∃ result, s.relay.result? = some result ∧ RelayEnding.ofResult result = ending := by
    unfold Relay.result?
    rw [hs]
    obtain ⟨direction, fault⟩ := ending
    cases fault with
    | none => exact ⟨_, rfl, rfl⟩
    | some fault => exact ⟨_, rfl, rfl⟩
  have hstay (s : RelayRun) (hs : s.relay.stage = .ended ending) (d : Direction) :
      (s.happen (.turn d)).relay.stage = .ended ending := by
    show ((s.step d).getD s).relay.stage = _
    unfold step Relay.step
    simp only [hs]
    exact hs
  have hclient (s : RelayRun) (hs : s.relay.stage = .closingClient ending) (d : Direction) :
      (s.happen (.turn d)).relay.stage = .ended ending := by
    show ((s.step d).getD s).relay.stage = _
    unfold step Relay.step
    simp [hs]
  have hbackend (s : RelayRun) (hs : s.relay.stage = .closingBackend ending) (d : Direction) :
      (s.happen (.turn d)).relay.stage = .closingClient ending := by
    show ((s.step d).getD s).relay.stage = _
    unfold step Relay.step
    simp [hs]
  refine hended _ ?_
  cases hs : r.relay.stage with
  | pumping =>
    rw [hs] at h
    cases h
  | closingBackend =>
    rw [hs] at h
    cases h
    exact hclient _ (hbackend r hs first) second
  | closingClient =>
    rw [hs] at h
    cases h
    exact hstay _ (hclient r hs first) second
  | ended =>
    rw [hs] at h
    cases h
    exact hstay _ (hstay r hs first) second

end TrafficRouter
