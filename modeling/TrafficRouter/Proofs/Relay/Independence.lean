import TrafficRouter.Proofs.Relay.Content

/-!
# The directions of a relay do not mix

What a direction of a relay delivers depends on nothing but its own source, its own sink and the turns
of its own pump. So it delivers what it would alone, with the other pump never having a turn and the
other connections silent; the other direction can only cut it short, by ending the relay.

* `RelayLabel.concerns`: what a direction depends on;
* `Follows`: a run beside the run of one of its directions alone; `follows_run`: kept by every label;
* `relay_content`: what is delivered, in hand and unread, and that it is the direction's own.

NOT here: what the relay reports (`RelayRun.Ended`).
-/

namespace TrafficRouter

/-! ## 1. What a direction depends on -/

/-- Whether an action changes what can be read of the peer. -/
def PeerAction.feeds : PeerAction → Bool
  | .send _ | .flow _ | .finish | .fail _ | .leave _ => true
  | .allow _ | .govern .. => false

/-- Whether an action changes what can be written to the peer. -/
def PeerAction.governs : PeerAction → Bool
  | .leave _ | .allow _ | .govern .. => true
  | .send _ | .flow _ | .finish | .fail _ => false

namespace RelayLabel

/-- Whether a label is about a direction: its source, its sink or a turn of its pump. -/
def concerns (d : Direction) : RelayLabel → Bool
  | .client action => match d with
    | .clientToBackend => action.feeds
    | .backendToClient => action.governs
  | .backend action => match d with
    | .clientToBackend => action.governs
    | .backendToClient => action.feeds
  | .turn pump => pump = d

end RelayLabel

namespace Duplex

variable {x y : Duplex} {action : PeerAction}

theorem source_act_of_not_feeds (x : Duplex) (h : action.feeds = false) :
    (x.act action).source = x.source := by
  cases action with
  | allow | govern => rfl
  | send | flow | finish | fail | leave => cases h

theorem sink_act_of_not_governs (x : Duplex) (h : action.governs = false) :
    (x.act action).sink = x.sink := by
  cases action with
  | send | flow | finish | fail => rfl
  | leave | allow | govern => cases h

/-- What a peer does to the reading depends on nothing else of the connection. -/
theorem source_act_congr (action : PeerAction) (h : x.source = y.source) :
    (x.act action).source = (y.act action).source := by
  cases action with
  | send | flow | finish | fail | leave => simp only [act, h]
  | allow | govern => exact h

/-- What a peer does to the writing depends on nothing else of the connection. -/
theorem sink_act_congr (action : PeerAction) (h : x.sink = y.sink) :
    (x.act action).sink = (y.act action).sink := by
  cases action with
  | send | flow | finish | fail => exact h
  | leave | allow | govern => simp only [act, h]

end Duplex

/-! ## 2. Pumps -/

/-- Two turns that come to the same in one direction. -/
inductive PumpTurn.Alike (d : Direction) : PumpTurn → PumpTurn → Prop where
  | waits : Alike d .waits .waits
  | goesOn {w w' : Wires} (p : Pump) (hsource : w.sourceOf d = w'.sourceOf d)
      (hsink : w.sinkOf d = w'.sinkOf d) : Alike d (.goesOn p w) (.goesOn p w')
  | ends {w w' : Wires} (fault : Option IoFault)
      (hsink : (w.sinkOf d).delivered = (w'.sinkOf d).delivered) :
      Alike d (.ends fault w) (.ends fault w')

/-- **A turn depends on its own direction only.** -/
theorem Pump.turn_alike {chunkSize : Nat} {d : Direction} {p : Pump} {w w' : Wires}
    (hsource : w.sourceOf d = w'.sourceOf d) (hsink : w.sinkOf d = w'.sinkOf d) :
    PumpTurn.Alike d (p.turn chunkSize d w) (p.turn chunkSize d w') := by
  have hread (source : Source) : (w.setSource source d).sinkOf d = (w'.setSource source d).sinkOf d := by
    rw [Wires.sinkOf_setSource, Wires.sinkOf_setSource, hsink]
  have hreads (p : Pump) (source : Source) :
      PumpTurn.Alike d (.goesOn p (w.setSource source d)) (.goesOn p (w'.setSource source d)) := by
    refine .goesOn p ?_ (hread source)
    rw [Wires.sourceOf_setSource_self, Wires.sourceOf_setSource_self]
  have hwrites (p : Pump) (sink : Sink) :
      PumpTurn.Alike d (.goesOn p (w.setSink sink d)) (.goesOn p (w'.setSink sink d)) := by
    refine .goesOn p ?_ ?_
    · rw [Wires.sourceOf_setSink, Wires.sourceOf_setSink, hsource]
    · rw [Wires.sinkOf_setSink_self, Wires.sinkOf_setSink_self]
  unfold turn
  cases p.stage with
  | reading =>
    simp only [← hsource]
    rcases (w.sourceOf d).read chunkSize with ⟨_ | ⟨_ | ⟨b, chunk⟩⟩ | fault | _, source⟩
    · exact .waits
    · exact .ends none (congrArg _ (hread source))
    · exact hreads _ source
    · exact .ends (some fault) (congrArg _ (hread source))
    · exact .waits
  | writing rest =>
    simp only [← hsink]
    rcases (w.sinkOf d).push rest with ⟨_ | fault | ⟨_ | ⟨b, rest'⟩⟩, sink⟩
    · exact .waits
    · refine .ends (some fault) ?_
      rw [Wires.sinkOf_setSink_self, Wires.sinkOf_setSink_self]
    · exact hwrites _ sink
    · exact hwrites _ sink
  | flushing =>
    simp only [← hsink]
    cases (w.sinkOf d).flushFault with
    | none => exact .goesOn _ hsource hsink
    | some fault => exact .ends (some fault) (congrArg _ hsink)

/-! ## 3. What a relay keeps -/

/-- How a relay has ended, once a pump of it has. -/
def RelayStage.ending? : RelayStage → Option RelayEnding
  | .pumping => none
  | .closingBackend ending | .closingClient ending | .ended ending => some ending

theorem RelayStage.eq_pumping_of_ending? {stage : RelayStage} (h : stage.ending? = none) :
    stage = .pumping := by
  cases stage with
  | pumping => rfl
  | closingBackend | closingClient | ended => cases h

namespace Relay

variable {chunkSize : Nat} {turn : Direction} {r r' : Relay} {w w' : Wires} {ledger : Ledger}

/-- **What was accepted stays**, and behind the end of a pump nothing is added to it. -/
theorem Step.delivered (h : Step chunkSize turn r w r' w' ledger) (d : Direction) :
    (w.sinkOf d).delivered <+: (w'.sinkOf d).delivered ∧
      ∀ ending, r.stage.ending? = some ending → r'.stage.ending? = some ending ∧
        (w'.sinkOf d).delivered = (w.sinkOf d).delivered := by
  cases h with
  | goesOn hs ht =>
    refine ⟨?_, fun ending he => by rw [hs] at he; cases he⟩
    by_cases hd : d = turn
    · subst hd
      cases ht with
      | @reads chunk source hp hne hr =>
        have hsame := congrArg Sink.delivered (w.sinkOf_setSource source d d)
        exact hsame ▸ List.prefix_rfl
      | written hp hw | writes hp hne hw =>
        obtain ⟨accepted, hdelivered, -⟩ := Sink.delivered_push hw
        rw [Wires.sinkOf_setSink_self, hdelivered]
        exact List.prefix_append _ _
      | flushed hp hf => exact List.prefix_rfl
    · have hsame := congrArg Sink.delivered ((ht.other rfl).1 d hd).2
      exact hsame ▸ List.prefix_rfl
  | ends hs ht =>
    refine ⟨?_, fun ending he => by rw [hs] at he; cases he⟩
    by_cases hd : d = turn
    · subst hd
      exact ht.delivered_ends ▸ List.prefix_rfl
    · have hsame := congrArg Sink.delivered ((ht.other rfl).1 d hd).2
      exact hsame ▸ List.prefix_rfl
  | closesBackend hs =>
    have hsame : ((w.toBackend w.backend.sink.shutdown).sinkOf d).delivered =
        (w.sinkOf d).delivered := by cases d <;> rfl
    refine ⟨hsame ▸ List.prefix_rfl, fun ending he => ⟨?_, hsame⟩⟩
    rw [hs] at he
    exact he
  | closesClient hs =>
    have hsame : ((w.toClient w.client.sink.shutdown).release.sinkOf d).delivered =
        (w.sinkOf d).delivered := by cases d <;> rfl
    refine ⟨hsame ▸ List.prefix_rfl, fun ending he => ⟨?_, hsame⟩⟩
    rw [hs] at he
    exact he

end Relay

namespace RelayRun

/-- A label is something of a peer, or a turn that waits, or a turn that is a step. -/
theorem happen_cases (r : RelayRun) (label : RelayLabel) :
    (∃ d bytes, Outside d bytes r (r.happen label)) ∨
      ∃ turn, label = .turn turn ∧ (r.happen label = r ∨
        ∃ ledger, Relay.Step r.chunkSize turn r.relay r.wires (r.happen label).relay
          (r.happen label).wires ledger) := by
  cases label with
  | client action => exact Or.inl ⟨_, _, outside_client r action⟩
  | backend action => exact Or.inl ⟨_, _, outside_backend r action⟩
  | turn pump =>
    refine Or.inr ⟨pump, rfl, ?_⟩
    show (r.step pump).getD r = r ∨ ∃ ledger, Relay.Step r.chunkSize pump r.relay r.wires
      ((r.step pump).getD r).relay ((r.step pump).getD r).wires ledger
    cases hs : r.step pump with
    | none => exact Or.inl rfl
    | some s =>
      obtain ⟨ledger, hstep, -⟩ := step_cases hs
      exact Or.inr ⟨ledger, hstep⟩

/-- **What was accepted stays**, whatever happens, and behind the end of a pump nothing is added. -/
theorem delivered_happen (r : RelayRun) (label : RelayLabel) (d : Direction) :
    (r.wires.sinkOf d).delivered <+: ((r.happen label).wires.sinkOf d).delivered ∧
      ∀ ending, r.relay.stage.ending? = some ending →
        (r.happen label).relay.stage.ending? = some ending ∧
          ((r.happen label).wires.sinkOf d).delivered = (r.wires.sinkOf d).delivered := by
  rcases r.happen_cases label with ⟨d', bytes, ho⟩ | ⟨turn, -, hsame | ⟨ledger, hstep⟩⟩
  · rw [ho.delivered, ho.relay]
    exact ⟨List.prefix_rfl, fun ending he => ⟨he, rfl⟩⟩
  · rw [hsame]
    exact ⟨List.prefix_rfl, fun ending he => ⟨he, rfl⟩⟩
  · exact hstep.delivered d

end RelayRun

/-! ## 4. A direction alone -/

/-- Two runs that are the same in one direction. -/
structure RelayRun.SameLane (d : Direction) (r s : RelayRun) : Prop where
  chunkSize : r.chunkSize = s.chunkSize
  pump : r.relay.pump d = s.relay.pump d
  source : r.wires.sourceOf d = s.wires.sourceOf d
  sink : r.wires.sinkOf d = s.wires.sinkOf d

/-- **A run beside that of one of its directions alone**: the same as long as neither has ended, and if
a pump has ended, then either this direction's own, in both, or the other one, which cuts this
direction short. -/
inductive RelayRun.Follows (d : Direction) (r s : RelayRun) : Prop where
  | together (hr : r.relay.stage = .pumping) (hs : s.relay.stage = .pumping)
      (h : SameLane d r s)
  | ended {ending ending' : RelayEnding} (hr : r.relay.stage.ending? = some ending)
      (hs : s.relay.stage.ending? = some ending') (hd : ending.direction = d)
      (h : (r.wires.sinkOf d).delivered = (s.wires.sinkOf d).delivered)
  | cut {ending : RelayEnding} (hr : r.relay.stage.ending? = some ending)
      (hd : ending.direction ≠ d)
      (h : (r.wires.sinkOf d).delivered <+: (s.wires.sinkOf d).delivered)

namespace RelayRun

variable {d : Direction} {r s : RelayRun} {label : RelayLabel}

/-- What a turn of a pump comes to in a run that has not ended. -/
theorem happen_turn_of_pumping (hs : r.relay.stage = .pumping) (pump : Direction) :
    r.happen (.turn pump) = match (r.relay.pump pump).turn r.chunkSize pump r.wires with
      | .waits => r
      | .goesOn p w => { r with relay := r.relay.setPump p pump, wires := w }
      | .ends fault w =>
        { r with relay := { r.relay with stage := .closingBackend ⟨pump, fault⟩ }, wires := w } := by
  show (r.step pump).getD r = _
  unfold step Relay.step
  simp only [hs]
  cases (r.relay.pump pump).turn r.chunkSize pump r.wires with
  | waits => rfl
  | goesOn p w => simp
  | ends fault w => simp

/-- **Only a turn of a pump ends a relay**, and the ending names that pump. -/
theorem turn_of_ending {ending : RelayEnding} (hr : r.relay.stage = .pumping)
    (h : (r.happen label).relay.stage.ending? = some ending) : label = .turn ending.direction := by
  cases label with
  | client action =>
    rw [(outside_client r action).relay, hr] at h
    cases h
  | backend action =>
    rw [(outside_backend r action).relay, hr] at h
    cases h
  | turn pump =>
    rw [happen_turn_of_pumping hr] at h
    cases ht : (r.relay.pump pump).turn r.chunkSize pump r.wires with
    | waits =>
      simp only [ht, hr] at h
      cases h
    | goesOn p w =>
      have hstage : (r.relay.setPump p pump).stage = .pumping := by cases pump <;> exact hr
      simp only [ht, hstage] at h
      cases h
    | ends fault w =>
      simp only [ht] at h
      cases h
      rfl

/-- **What does not concern a direction changes nothing of it.** -/
theorem sameLane_of_not_concerns (hr : r.relay.stage = .pumping)
    (h : label.concerns d = false) : SameLane d (r.happen label) r := by
  cases label with
  | client action =>
    cases d with
    | clientToBackend => exact ⟨rfl, rfl, Duplex.source_act_of_not_feeds _ h, rfl⟩
    | backendToClient => exact ⟨rfl, rfl, rfl, Duplex.sink_act_of_not_governs _ h⟩
  | backend action =>
    cases d with
    | clientToBackend => exact ⟨rfl, rfl, rfl, Duplex.sink_act_of_not_governs _ h⟩
    | backendToClient => exact ⟨rfl, rfl, Duplex.source_act_of_not_feeds _ h, rfl⟩
  | turn pump =>
    have hne : d ≠ pump := fun e => of_decide_eq_false h e.symm
    rw [happen_turn_of_pumping hr]
    cases ht : (r.relay.pump pump).turn r.chunkSize pump r.wires with
    | waits => exact ⟨rfl, rfl, rfl, rfl⟩
    | goesOn p w =>
      have hturn := Pump.turn_cases (by rw [ht]; exact PumpTurn.noConfusion)
      rw [ht] at hturn
      obtain ⟨hsource, hsink⟩ := (hturn.other rfl).1 d hne
      exact ⟨rfl, Relay.pump_setPump_of_ne r.relay p hne, hsource, hsink⟩
    | ends fault w =>
      have hturn := Pump.turn_cases (by rw [ht]; exact PumpTurn.noConfusion)
      rw [ht] at hturn
      obtain ⟨hsource, hsink⟩ := (hturn.other rfl).1 d hne
      exact ⟨rfl, by cases d <;> rfl, hsource, hsink⟩

/-- **What concerns a direction does the same to it in both runs.** -/
theorem follows_of_concerns (hr : r.relay.stage = .pumping) (hs : s.relay.stage = .pumping)
    (h : SameLane d r s) (hc : label.concerns d = true) :
    Follows d (r.happen label) (s.happen label) := by
  cases label with
  | client action =>
    refine .together hr hs ⟨h.chunkSize, h.pump, ?_, ?_⟩
    · cases d with
      | clientToBackend => exact Duplex.source_act_congr action h.source
      | backendToClient => exact h.source
    · cases d with
      | clientToBackend => exact h.sink
      | backendToClient => exact Duplex.sink_act_congr action h.sink
  | backend action =>
    refine .together hr hs ⟨h.chunkSize, h.pump, ?_, ?_⟩
    · cases d with
      | clientToBackend => exact h.source
      | backendToClient => exact Duplex.source_act_congr action h.source
    · cases d with
      | clientToBackend => exact Duplex.sink_act_congr action h.sink
      | backendToClient => exact h.sink
  | turn pump =>
    have hpump : pump = d := of_decide_eq_true hc
    subst hpump
    have halike : PumpTurn.Alike pump ((r.relay.pump pump).turn r.chunkSize pump r.wires)
        ((s.relay.pump pump).turn s.chunkSize pump s.wires) := by
      rw [h.chunkSize, h.pump]
      exact Pump.turn_alike h.source h.sink
    rw [happen_turn_of_pumping hr, happen_turn_of_pumping hs]
    generalize (r.relay.pump pump).turn r.chunkSize pump r.wires = a at halike ⊢
    generalize (s.relay.pump pump).turn s.chunkSize pump s.wires = b at halike ⊢
    cases halike with
    | waits => exact .together hr hs h
    | goesOn p hsource hsink =>
      refine .together ?_ ?_ ⟨h.chunkSize, ?_, hsource, hsink⟩
      · cases pump <;> exact hr
      · cases pump <;> exact hs
      · rw [Relay.pump_setPump_self, Relay.pump_setPump_self]
    | ends fault hsink => exact .ended rfl rfl rfl hsink

/-- **Every label is followed**, by the direction alone where it concerns it. -/
theorem Follows.happen (h : Follows d r s) (label : RelayLabel) :
    Follows d (r.happen label) (if label.concerns d then s.happen label else s) := by
  cases h with
  | together hr hs h =>
    by_cases hc : label.concerns d = true
    · rw [if_pos hc]
      exact follows_of_concerns hr hs h hc
    · rw [if_neg hc]
      have hsame := sameLane_of_not_concerns hr (Bool.eq_false_iff.mpr hc)
      have hlane : SameLane d (r.happen label) s :=
        ⟨hsame.chunkSize.trans h.chunkSize, hsame.pump.trans h.pump, hsame.source.trans h.source,
          hsame.sink.trans h.sink⟩
      cases he : (r.happen label).relay.stage.ending? with
      | none => exact .together (RelayStage.eq_pumping_of_ending? he) hs hlane
      | some ending =>
        refine .cut he (fun hd => ?_) (hlane.sink ▸ List.prefix_rfl)
        obtain rfl := turn_of_ending hr he
        exact hc (decide_eq_true hd)
  | ended hr hs hd h =>
    obtain ⟨-, hfrozen⟩ := r.delivered_happen label d
    obtain ⟨hr', hdr⟩ := hfrozen _ hr
    by_cases hc : label.concerns d = true
    · rw [if_pos hc]
      obtain ⟨-, hfrozen'⟩ := s.delivered_happen label d
      obtain ⟨hs', hds⟩ := hfrozen' _ hs
      exact .ended hr' hs' hd (hdr.trans (h.trans hds.symm))
    · rw [if_neg hc]
      exact .ended hr' hs hd (hdr.trans h)
  | cut hr hd h =>
    obtain ⟨-, hfrozen⟩ := r.delivered_happen label d
    obtain ⟨hr', hdr⟩ := hfrozen _ hr
    refine .cut hr' hd ?_
    rw [hdr]
    by_cases hc : label.concerns d = true
    · rw [if_pos hc]
      exact h.trans (s.delivered_happen label d).1
    · rw [if_neg hc]
      exact h

/-- **A direction delivers what it would alone**, or is cut short. -/
theorem follows_run (h : Follows d r s) (labels : List RelayLabel) :
    Follows d (r.run labels) (s.run (labels.filter (·.concerns d))) := by
  induction labels generalizing r s with
  | nil => exact h
  | cons label labels ih =>
    have hnext := ih (h.happen label)
    by_cases hc : label.concerns d = true
    · rw [if_pos hc] at hnext
      rw [List.filter_cons_of_pos hc]
      exact hnext
    · rw [if_neg hc] at hnext
      rw [List.filter_cons_of_neg hc]
      exact hnext

end RelayRun

/-! ## 5. The content of a relay -/

/-- **What a relay has delivered, has in hand and has left**, for every chunk size, everything that
both peers do and every order of the turns, at every moment, in each direction: the sink has
accepted the first of the bytes that have arrived; what was read and is not accepted yet is the rest
of the last chunk that was read, which is not larger than a chunk may be and comes in the source
right behind the chunks before it; and what was not read yet is all that comes behind that. The
direction has delivered what it would have delivered by itself, had nothing happened that does not
concern it, or, if the other direction has ended the relay, a beginning of that. -/
theorem relay_content (chunkSize : Nat) (labels : List RelayLabel) (d : Direction) :
    let start := RelayRun.fresh chunkSize
    let r := start.run labels
    let trace := start.trace labels
    let accepted := (r.wires.sinkOf d).delivered
    let rest := (r.relay.pump d).rest
    let alone := ((start.run (labels.filter (·.concerns d))).wires.sinkOf d).delivered
    accepted <+: trace.arrived d ∧
      (trace.chunks d).flatten ++ (r.wires.sourceOf d).unread = trace.arrived d ∧
      (trace.chunks d).flatten = accepted ++ rest ∧
      (rest = [] ∨ ∃ earlier chunk part, trace.chunks d = earlier ++ [chunk] ∧
        chunk = part ++ rest ∧ chunk.length ≤ chunkSize ∧ accepted = earlier.flatten ++ part) ∧
      accepted <+: alone ∧
      ((∀ ending, r.relay.stage.ending? = some ending → ending.direction = d) →
        accepted = alone) := by
  intro start r trace accepted rest alone
  obtain ⟨-, hlanes⟩ := RelayRun.lanes_run chunkSize labels
  have hlane : Lane chunkSize trace d (r.relay.pump d) r.wires := hlanes d
  have hread : accepted ++ rest = (trace.chunks d).flatten := hlane.accepted
  have hfollows : RelayRun.Follows d r (start.run (labels.filter (·.concerns d))) :=
    RelayRun.follows_run (.together rfl rfl ⟨rfl, rfl, rfl, rfl⟩) labels
  refine ⟨?_, hlane.arrived, hread.symm, ?_, ?_, ?_⟩
  · rw [← hlane.arrived, ← hread, List.append_assoc]
    exact List.prefix_append _ _
  · cases hlane.inHand with
    | nothing hs => exact Or.inl (Pump.rest_of_reading hs)
    | @chunk flushed chunk part _ hc hp =>
      have hmem : chunk ∈ trace.chunks d := by
        rw [hc]
        exact List.mem_append_right _ (List.mem_singleton_self chunk)
      refine Or.inr ⟨flushed, chunk, part, hc, hp, (hlane.sized chunk hmem).2, ?_⟩
      have hsplit : accepted ++ rest = flushed.flatten ++ part ++ rest := by
        rw [hread, hc, hp]
        simp [rest]
      exact List.append_cancel_right hsplit
  · cases hfollows with
    | together _ _ h =>
      have heq : accepted = alone := congrArg Sink.delivered h.sink
      exact heq ▸ List.prefix_rfl
    | ended _ _ _ h =>
      have heq : accepted = alone := h
      exact heq ▸ List.prefix_rfl
    | cut _ _ h => exact h
  · intro hown
    cases hfollows with
    | together _ _ h => exact congrArg Sink.delivered h.sink
    | ended _ _ _ h => exact h
    | cut hr hd => exact absurd (hown _ hr) hd

end TrafficRouter
