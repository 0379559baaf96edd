import TrafficRouter.Proofs.Gateway.Answer
import TrafficRouter.Proofs.Gateway.Request
import TrafficRouter.Proofs.Server.Steps

/-!
# What a session reads

A session reads at four places: for its first bytes, for the rest of a request, for a response, and
in each pump of a relay. A read that returns nothing is taken for the end of what is sent. That is
right where the read had room, since what has arrived is then returned.

* `Session.Reads`: the read that a session is about to make, and the most that it returns;
* `Session.Step.source`: a step takes from a connection what such a read takes, and nothing else;
* `Session.TakesEnd`: a session that goes on as at the end of what is sent;
* `unread_of_takesEnd`: with room for what it reads, it does so only where nothing is left to read.

NOT here: which settings give room (`Proofs.Server.Validated`).
-/

namespace TrafficRouter

open Http

/-! ## 1. Exchanges -/

/-- A response without an end of its own is not complete with another chunk. -/
theorem Collection.ofBytes_ne_complete {limit : Nat} {bytes response : Bytes}
    (h : DeclaresNone bytes) : ofBytes limit bytes ≠ .complete response := by
  unfold ofBytes
  rw [framingOf_eq_unbounded_iff.mpr h]
  split <;> exact Collection.noConfusion

/-- Bytes that were collected do not make a response incomplete. -/
theorem Collection.ofBytes_ne_incomplete (limit : Nat) (bytes : Bytes) (received : Nat) :
    ofBytes limit bytes ≠ .failed (.incomplete received) := by
  unfold ofBytes
  split
  · simp
  · split <;> simp

/-- Why a complete request is not forwarded. -/
theorem rejectionOf_cases {request : MessageBuffer} {rejection : Rejection}
    (h : rejectionOf request = some rejection) :
    rejection = .malformedRequestLine ∨ ∃ method path, rejection = .noRoute method path := by
  unfold rejectionOf at h
  split at h
  · exact Or.inl (Option.some.inj h).symm
  · split at h
    · cases h
    · exact Or.inr ⟨_, _, (Option.some.inj h).symm⟩

/-- **Why bytes of a request are refused**: a fault of the message, or what the request asks for. -/
theorem Intake.refusal_cases {extended : Except Http.MessageError MessageBuffer}
    {rejection : Rejection} (h : (ofExtended extended).refusal? = some rejection) :
    (∃ error, rejection = .message error ∧
        (extended = .error error ∨ ∃ buffer, extended = .ok buffer ∧ buffer.framing = .error error)) ∨
      rejection = .malformedRequestLine ∨ ∃ method path, rejection = .noRoute method path := by
  cases extended with
  | error error => exact Or.inl ⟨error, (Option.some.inj h).symm, Or.inl rfl⟩
  | ok buffer =>
    unfold ofExtended ofBuffer at h
    cases hf : buffer.framing with
    | error error =>
      simp only [hf] at h
      exact Or.inl ⟨error, (Option.some.inj h).symm, Or.inr ⟨buffer, rfl, hf⟩⟩
    | ok framing =>
      simp only [hf] at h
      cases framing with
      | awaitingHeaders | awaitingBody => cases h
      | complete | unbounded => exact Or.inr (rejectionOf_cases h)

theorem Http.declaredLength_eq_error {value : Bytes} {error : MessageError}
    (h : declaredLength value = .error error) : ∃ text, error = .invalidContentLength text := by
  unfold declaredLength at h
  simp only at h
  split at h
  · cases h
  · exact ⟨_, (Except.error.inj h).symm⟩

/-- What a head declares wrongly is a length. -/
theorem Http.DeclaresWrongly.invalid {bytes : Bytes} {error : MessageError}
    (h : DeclaresWrongly bytes error) : ∃ text, error = .invalidContentLength text := by
  obtain ⟨e, -, herror⟩ := h
  unfold headContentLength at herror
  split at herror
  · cases herror
  · next name value _ =>
    cases hlength : declaredLength value with
    | ok n =>
      rw [hlength] at herror
      cases herror
    | error error' =>
      rw [hlength] at herror
      obtain rfl : error' = error := Except.error.inj herror
      exact declaredLength_eq_error hlength

namespace Exchange

variable {g : GatewaySettings} {now : Nat} {dial : Option DialAnswer} {x x' : Exchange}
  {w w' : Wires} {ledger : Ledger} {d : Direction}

/-- The way on which an exchange is about to read. -/
def readsFrom : Exchange → Option Direction
  | .intake .. => some .clientToBackend
  | .collecting .. => some .backendToClient
  | .dialling .. | .sending _ | .answering .. | .closing _ | .ended _ => none

theorem sourceOf_keepBackend (x : Exchange) (w : Wires) (d : Direction) :
    (keepBackend x w).sourceOf d = w.sourceOf d := by
  unfold keepBackend
  cases x <;> cases d <;> rfl

theorem answer_injective {verdict verdict' : Verdict} (h : answer verdict = answer verdict') :
    verdict = verdict' :=
  Option.some.inj (congrArg verdict? h)

/-- A request that is answered as refused is. -/
theorem refusal_of_ofIntake {i : Intake} {rejection : Rejection}
    (h : ofIntake g now i = answer (.rejected rejection)) : i.refusal? = some rejection := by
  cases i with
  | reading buffer => cases h
  | rejected rejection' =>
    cases answer_injective h
    rfl
  | complete request =>
    show rejectionOf request = some rejection
    unfold ofIntake at h
    cases hr : rejectionOf request with
    | none =>
      simp only [hr] at h
      cases h
    | some rejection' =>
      simp only [hr] at h
      cases answer_injective h
      rfl

/-- A response that is passed on is the one that was collected. -/
theorem complete_of_ofCollection {c : Collection} {response : Bytes}
    (h : ofCollection g now c = answer (.forwarded response)) : c = .complete response := by
  cases c with
  | reading => cases h
  | complete response' =>
    cases answer_injective h
    rfl
  | failed error => cases answer_injective h

/-- A failure that is answered is the one that the collecting came to. -/
theorem failed_of_ofCollection {c : Collection} {error : GatewayError}
    (h : ofCollection g now c = answer (.failed error)) : c = .failed error := by
  cases c with
  | reading => cases h
  | complete response => cases answer_injective h
  | failed error' =>
    cases answer_injective h
    rfl

/-- **An exchange takes from its connections what it reads.** -/
theorem Step.source (h : Step g now dial x w x' w' ledger) (d : Direction) :
    w'.sourceOf d = w.sourceOf d ∨
      x.readsFrom = some d ∧ w'.sourceOf d = ((w.sourceOf d).read exchangeChunk).2 := by
  cases h with
  | read h =>
    cases d with
    | clientToBackend => exact Or.inr ⟨rfl, Source.source_of_await h⟩
    | backendToClient => exact Or.inl rfl
  | collect h =>
    rw [sourceOf_keepBackend]
    cases d with
    | clientToBackend => exact Or.inl rfl
    | backendToClient => exact Or.inr ⟨rfl, Source.source_of_await h⟩
  | connected | refused | unanswered | sentNothing | sendFault | sent | answeredNothing
  | answerFault | answered | closed | closeFault => exact Or.inl (by cases d <;> rfl)

theorem sound_of_isDecided {limit : Nat} (h : x.isDecided = true) : x.Sound limit := by
  cases x with
  | answering | closing | ended => exact trivial
  | intake | dialling | sending | collecting => cases h

theorem sound_ofIntake (g : GatewaySettings) (now : Nat) (i : Intake) :
    (ofIntake g now i).Sound g.maxMessage := by
  rcases ofIntake_undecided g now i with h | ⟨verdict, e, -⟩
  · exact h.sound
  · rw [e]
    exact trivial

/-- **What is collected is an open response**, with every step. -/
theorem Step.sound (h : Step g now dial x w x' w' ledger) (hx : x.Sound g.maxMessage) :
    x'.Sound g.maxMessage := by
  cases hd : x.isDecided with
  | true => exact sound_of_isDecided (h.isDecided hd)
  | false =>
    have hundecided : Undecided g x := ⟨hd, hx⟩
    obtain ⟨-, -, hs | ⟨verdict, rfl, -⟩⟩ := hundecided.step h
    · exact hs.sound
    · exact trivial

/-- **An exchange goes on as at the end of what is sent**: it gives a request up, or a response, or
passes on a response that has no end of its own. -/
inductive TakesEnd : Exchange → Exchange → Direction → Prop where
  | request {buffer : MessageBuffer} {deadline : Nat} :
      TakesEnd (.intake buffer deadline) (answer (.rejected .clientClosed)) .clientToBackend
  | incomplete {buffer : MessageBuffer} {framing : Framing} {deadline received : Nat} :
      TakesEnd (.collecting buffer framing deadline) (answer (.failed (.incomplete received)))
        .backendToClient
  | unbounded {buffer : MessageBuffer} {deadline : Nat} {response : Bytes} :
      TakesEnd (.collecting buffer .unbounded deadline) (answer (.forwarded response))
        .backendToClient

/-- A chunk of a request is no reason to give it up as closed. -/
theorem ofIntake_chunk_ne (g : GatewaySettings) (now : Nat) (buffer : MessageBuffer) {chunk : Bytes}
    (hne : chunk ≠ []) :
    ofIntake g now ((Intake.reading buffer).feed (.bytes chunk)) ≠
      answer (.rejected .clientClosed) := by
  have hfeed : (Intake.reading buffer).feed (.bytes chunk) = .ofExtended (buffer.extend chunk) := by
    cases chunk with
    | nil => exact absurd rfl hne
    | cons b chunk => rfl
  intro h
  have hrefusal := refusal_of_ofIntake h
  rw [hfeed] at hrefusal
  rcases Intake.refusal_cases hrefusal with ⟨_, hr, -⟩ | hr | ⟨_, _, hr⟩ <;> cases hr

/-- **An exchange goes on as at the end of what is sent** only where nothing is left to read. -/
theorem Step.unread_of_takesEnd (h : Step g now dial x w x' w' ledger) (hx : x.Sound g.maxMessage)
    (hsolid : ∀ d, (w.sourceOf d).Solid) (he : TakesEnd x x' d) : (w.sourceOf d).unread = [] := by
  by_contra hne
  -- what has arrived is read, so the step goes on with a chunk
  generalize hy : x' = y at h
  cases h with
  | read hr =>
    cases he with
    | request =>
      obtain ⟨chunk, hchunk, e⟩ := (hsolid .clientToBackend).await_bytes (by decide) hne hr
      obtain rfl := Option.some.inj e
      exact ofIntake_chunk_ne g now _ hchunk hy.symm
  | collect hr =>
    obtain ⟨chunks, -, rfl, hf⟩ := hx
    cases he with
    | incomplete =>
      obtain ⟨chunk, hchunk, e⟩ := (hsolid .backendToClient).await_bytes (by decide) hne hr
      obtain rfl := Option.some.inj e
      rw [Collection.feed_chunk hchunk] at hy
      exact Collection.ofBytes_ne_incomplete _ _ _ (failed_of_ofCollection hy.symm)
    | unbounded =>
      obtain ⟨chunk, hchunk, e⟩ := (hsolid .backendToClient).await_bytes (by decide) hne hr
      obtain rfl := Option.some.inj e
      rw [Collection.feed_chunk hchunk] at hy
      have hnone := (framingOf_eq_unbounded_iff.mp hf).append chunk
      exact Collection.ofBytes_ne_complete hnone (complete_of_ofCollection hy.symm)
  | connected | refused | unanswered | sentNothing | sendFault | sent | answeredNothing
  | answerFault | answered | closed | closeFault => cases he

end Exchange

/-! ## 2. Relays -/

/-- **A pump takes from its connection what it reads.** -/
theorem Pump.Turn.source {chunkSize : Nat} {d : Direction} {p : Pump} {w w' : Wires} {t : PumpTurn}
    (h : Pump.Turn chunkSize d p w t) (hw : t.wires? = some w') :
    w'.sourceOf d = w.sourceOf d ∨
      p.stage = .reading ∧ w'.sourceOf d = ((w.sourceOf d).read chunkSize).2 := by
  cases h with
  | reads hp _ hr | closed hp hr | readFault hp hr =>
    obtain rfl := Option.some.inj hw
    rw [Wires.sourceOf_setSource_self, hr]
    exact Or.inr ⟨hp, rfl⟩
  | written | writes | writeFault =>
    obtain rfl := Option.some.inj hw
    exact Or.inl (Wires.sourceOf_setSink _ _ _ _)
  | flushed | flushFault =>
    obtain rfl := Option.some.inj hw
    exact Or.inl rfl

namespace Relay

variable {chunkSize : Nat} {turn : Direction} {r r' : Relay} {w w' : Wires} {ledger : Ledger}
  {d : Direction}

/-- **A relay takes from its connections what its pumps read.** -/
theorem Step.source (h : Step chunkSize turn r w r' w' ledger) (d : Direction) :
    w'.sourceOf d = w.sourceOf d ∨
      (r.stage = .pumping ∧ (r.pump d).stage = .reading) ∧
        w'.sourceOf d = ((w.sourceOf d).read chunkSize).2 := by
  rcases h.direction_cases d with ⟨hs, ht⟩ | ⟨-, ⟨fault, hs, ht⟩ | ⟨hsource, -⟩⟩
  · exact (ht.source rfl).imp id fun ⟨hp, hr⟩ => ⟨⟨hs, hp⟩, hr⟩
  · exact (ht.source rfl).imp id fun ⟨hp, hr⟩ => ⟨⟨hs, hp⟩, hr⟩
  · exact Or.inl hsource

/-- **A relay ends without a fault** only where nothing is left to read. -/
theorem Step.unread_of_closing (h : Step chunkSize turn r w r' w' ledger)
    (hsolid : (w.sourceOf d).Solid) (hs : r.stage = .pumping)
    (hroom : (r.pump d).stage = .reading → 1 ≤ chunkSize)
    (hs' : r'.stage = .closingBackend ⟨d, none⟩) : (w.sourceOf d).unread = [] := by
  cases h with
  | goesOn _ h =>
    have hkept (p : Pump) : (r.setPump p turn).stage = r.stage := by cases turn <;> rfl
    rw [hkept, hs] at hs'
    cases hs'
  | ends _ h =>
    cases hs'
    cases h with
    | closed hp hr => exact (hsolid.read_nil (hroom hp) hr).1
  | closesBackend hs'' =>
    rw [hs] at hs''
    cases hs''
  | closesClient => cases hs'

end Relay

/-! ## 3. Sessions -/

namespace Session

variable {c : SessionSettings} {now : Nat} {t : Turn} {s s' : Session} {d : Direction}

/-- **The read that a session is about to make**, by its way and the most that it returns. -/
inductive Reads (c : SessionSettings) (s : Session) : Direction → Nat → Prop where
  | first {deadline : Nat} (hs : s.stage = .priming deadline) : Reads c s .clientToBackend c.sniff
  | message {x : Exchange} {d : Direction} (hs : s.stage = .exchange x)
      (hx : x.readsFrom = some d) : Reads c s d exchangeChunk
  | pump {r : Relay} {d : Direction} (hs : s.stage = .relaying r) (hr : r.stage = .pumping)
      (hp : (r.pump d).stage = .reading) : Reads c s d c.relayChunk

/-- **A step takes from a connection what such a read takes**, and nothing else. -/
theorem Step.source (h : Step c now t s s') (d : Direction) :
    s'.wires.sourceOf d = s.wires.sourceOf d ∨
      ∃ max, s.Reads c d max ∧ s'.wires.sourceOf d = ((s.wires.sourceOf d).read max).2 := by
  have hfirst {deadline : Nat} {reading : Option Reading} {source : Source}
      (hs : s.stage = .priming deadline)
      (h : s.wires.client.source.await c.sniff now deadline = (reading, source)) :
      (s.wires.fromClient source).sourceOf d = s.wires.sourceOf d ∨
        ∃ max, s.Reads c d max ∧
          (s.wires.fromClient source).sourceOf d = ((s.wires.sourceOf d).read max).2 := by
    cases d with
    | clientToBackend => exact Or.inr ⟨_, .first hs, Source.source_of_await h⟩
    | backendToClient => exact Or.inl rfl
  have hmessage {x x' : Exchange} {w : Wires} {ledger : Ledger} (hs : s.stage = .exchange x)
      (h : Exchange.Step c.gateway now t.dial x s.wires x' w ledger) :
      w.sourceOf d = s.wires.sourceOf d ∨
        ∃ max, s.Reads c d max ∧ w.sourceOf d = ((s.wires.sourceOf d).read max).2 :=
    (h.source d).imp_right fun ⟨hx, hw⟩ => ⟨_, .message hs hx, hw⟩
  have hrelay {r r' : Relay} {w : Wires} {ledger : Ledger} (hs : s.stage = .relaying r)
      (h : Relay.Step c.relayChunk t.pump r s.wires r' w ledger) :
      w.sourceOf d = s.wires.sourceOf d ∨
        ∃ max, s.Reads c d max ∧ w.sourceOf d = ((s.wires.sourceOf d).read max).2 :=
    (h.source d).imp_right fun ⟨⟨hr, hp⟩, hw⟩ => ⟨_, .pump hs hr hp, hw⟩
  cases h with
  | begins | replayedNothing => exact Or.inl (congrArg (·.sourceOf d) (wires_enter _ _ _))
  | connected | replayed =>
    refine Or.inl ((congrArg (·.sourceOf d) (wires_enter _ _ _)).trans ?_)
    cases d <;> rfl
  | silent hs h | unreadable hs h | noData hs h =>
    simp only [finish, on, Wires.sourceOf_release]
    exact hfirst hs h
  | dispatched hs hne h =>
    rename_i opening _
    obtain ⟨stage, he⟩ := dispatch_enters c _ now opening
    rw [he, wires_enter]
    exact hfirst hs h
  | exchanged hs hx h =>
    rw [wires_enter]
    exact hmessage hs h
  | exchangeEnded hs h =>
    simp only [finish, on, count, Wires.sourceOf_release]
    exact hmessage hs h
  | refused | unanswered => exact Or.inl (Wires.sourceOf_release _ d)
  | replayFault =>
    refine Or.inl ((Wires.sourceOf_release _ d).trans ?_)
    cases d <;> rfl
  | relayed hs hr h =>
    rw [wires_enter]
    exact hrelay hs h
  | relayEnded hs hr h =>
    simp only [finish, on, count, Wires.sourceOf_release]
    exact hrelay hs h

/-- The first bytes of a session make an exchange of it, or call a service. -/
theorem stage_dispatch (c : SessionSettings) (now : Nat) (s : Session) (opening : Bytes) :
    (s.dispatch c now opening).stage = .exchange (.start c.gateway now opening) ∨
      ∃ backend deadline, (s.dispatch c now opening).stage = .dialling backend opening deadline := by
  by_cases hb : (c.classify opening).backend = .httpLogin
  · rw [dispatch_http c s hb, stage_enter]
    exact Or.inl rfl
  · rw [dispatch_of_ne_http c s rfl hb, stage_enter]
    exact Or.inr ⟨_, _, rfl⟩

/-- What has arrived on the connections of a session can be read, and what it collects is an open
response. -/
structure Readable (c : SessionSettings) (s : Session) : Prop where
  solid : ∀ d, (s.wires.sourceOf d).Solid
  sound : ∀ x, s.stage = .exchange x → x.Sound c.gateway.maxMessage

/-- What a session collects is an open response, with every step. -/
theorem Step.sound (h : Step c now t s s')
    (hs : ∀ x, s.stage = .exchange x → x.Sound c.gateway.maxMessage) :
    ∀ x, s'.stage = .exchange x → x.Sound c.gateway.maxMessage := by
  intro x' hx'
  cases h with
  | begins | connected | relayed =>
    rw [stage_enter] at hx'
    cases hx'
  | replayedNothing | replayed =>
    rw [Session.replayed, stage_enter] at hx'
    split at hx' <;> cases hx'
  | dispatched =>
    rcases stage_dispatch c now (s.on _) _ with e | ⟨_, _, e⟩ <;> rw [e] at hx' <;> cases hx'
    exact Exchange.sound_ofIntake _ _ _
  | exchanged hx _ h =>
    rw [stage_enter] at hx'
    cases hx'
    exact h.sound (hs _ hx)
  | silent | unreadable | noData | exchangeEnded | refused | unanswered | replayFault
  | relayEnded => cases hx'

/-- **A step leaves what can be read.** -/
theorem Readable.step (hs : s.Readable c) (h : Step c now t s s') : s'.Readable c where
  solid d := by
    rcases h.source d with hsame | ⟨max, -, hread⟩
    · rw [hsame]
      exact hs.solid d
    · rw [hread]
      exact (hs.solid d).read rfl
  sound := h.sound hs.sound

/-- **A session goes on as at the end of what is sent** on a way: it ends without data, it gives up
on a message or passes one on, or its relay ends. -/
inductive TakesEnd (s s' : Session) : Direction → Prop where
  | noData {deadline : Nat} (hs : s.stage = .priming deadline) (hs' : s'.stage = .ended .noData) :
      TakesEnd s s' .clientToBackend
  | message {x x' : Exchange} {d : Direction} (hs : s.stage = .exchange x)
      (hs' : s'.stage = .exchange x') (h : Exchange.TakesEnd x x' d) : TakesEnd s s' d
  | relay {r r' : Relay} {d : Direction} (hs : s.stage = .relaying r) (hr : r.stage = .pumping)
      (hs' : s'.stage = .relaying r') (hr' : r'.stage = .closingBackend ⟨d, none⟩) : TakesEnd s s' d

/-- **With room for what it reads, a session goes on as at the end of what is sent** only where
nothing is left to read. -/
theorem Step.unread_of_takesEnd (h : Step c now t s s') (hs : s.Readable c)
    (hroom : ∀ d max, s.Reads c d max → 1 ≤ max) (he : TakesEnd s s' d) :
    (s.wires.sourceOf d).unread = [] := by
  cases he with
  | noData hp hs' =>
    cases h with
    | noData _ h =>
      rcases Source.await_cases h with hr | ⟨-, e, -⟩
      · exact ((hs.solid .clientToBackend).read_nil (hroom _ _ (.first hp)) hr).1
      · cases e
    | dispatched =>
      rcases stage_dispatch c now (s.on _) _ with e | ⟨_, _, e⟩ <;> rw [e] at hs' <;> cases hs'
    | silent | unreadable => cases hs'
    | begins hx | exchanged hx | exchangeEnded hx | connected hx | refused hx | unanswered hx
    | replayedNothing hx | replayFault hx | replayed hx | relayed hx | relayEnded hx =>
      rw [hp] at hx
      cases hx
  | message hp hs' he =>
    cases h with
    | exchanged hx _ h =>
      rw [stage_enter] at hs'
      rw [hp] at hx
      cases hx
      cases hs'
      exact h.unread_of_takesEnd (hs.sound _ hp) hs.solid he
    | exchangeEnded => cases hs'
    | begins hx | silent hx | unreadable hx | noData hx | dispatched hx | connected hx | refused hx
    | unanswered hx | replayedNothing hx | replayFault hx | replayed hx | relayed hx
    | relayEnded hx =>
      rw [hp] at hx
      cases hx
  | relay hp hr hs' hr' =>
    cases h with
    | relayed hx _ h =>
      rw [stage_enter] at hs'
      rw [hp] at hx
      cases hx
      cases hs'
      exact h.unread_of_closing (hs.solid d) hr (fun hread => hroom _ _ (.pump hp hr hread)) hr'
    | relayEnded => cases hs'
    | begins hx | silent hx | unreadable hx | noData hx | dispatched hx | exchanged hx
    | exchangeEnded hx | connected hx | refused hx | unanswered hx | replayedNothing hx
    | replayFault hx | replayed hx =>
      rw [hp] at hx
      cases hx

end Session

end TrafficRouter
