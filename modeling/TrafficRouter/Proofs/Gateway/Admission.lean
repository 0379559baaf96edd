import TrafficRouter.Proofs.Gateway.Answer
import TrafficRouter.Proofs.Gateway.Request

/-!
# Which requests reach the service

An exchange that takes its request in calls the service once it has a login request in full, and
sends it the bytes that it has received and no others; every other request is rejected.

* `Sending`: how far a request is on its way to the service;
* `Admitting`: the invariant of every run, one case for each stage of the request;
* `called_iff_login`: the service is called at most once, exactly for a login request, and gets it.

NOT here: what the service answers (`Response`).
-/

namespace TrafficRouter

open Http

/-! ## 1. The invariant -/

theorem Exchange.ofIntake_of_refusal {g : GatewaySettings} {now : Nat} {i : Intake}
    {rejection : Rejection} (h : i.refusal? = some rejection) :
    ofIntake g now i = answer (.rejected rejection) := by
  cases i with
  | reading buffer => cases h
  | rejected rejection' => cases h; rfl
  | complete request =>
    unfold ofIntake
    simp only [show rejectionOf request = some rejection from h]

theorem Exchange.ofIntake_of_login {g : GatewaySettings} {now limit : Nat} {bytes : Bytes}
    (h : LoginLine bytes) :
    ofIntake g now (.complete (.whole limit bytes)) = .dialling bytes (now + g.connect) := by
  unfold ofIntake
  simp only [rejectionOf_whole_iff.mpr h]
  rfl

/-- **What any reads of the client come to**: the service is called exactly where some of them, from
the first on, brought a login request, and else the request is pending or rejected. -/
theorem Exchange.ofIntake_run (g : GatewaySettings) (initial : Bytes) (now : Nat)
    (reads : List Reading) :
    let x := Exchange.ofIntake g now ((Intake.start g.maxMessage initial).run reads)
    (∀ request deadline, x = .dialling request deadline ↔
        ∃ chunks : List Bytes, chunks.map .bytes <+: reads ∧
          LoginReached g.maxMessage initial chunks ∧ request = initial ++ chunks.flatten ∧
          deadline = now + g.connect) ∧
      ((∃ request deadline, x = .dialling request deadline) ∨
        (∃ chunks : List Bytes, reads = chunks.map .bytes ∧ Pending g.maxMessage initial chunks) ∨
        ∃ rejection, x = .answer (.rejected rejection)) := by
  intro x
  have hcalls {chunks : List Bytes} (hp : chunks.map .bytes <+: reads)
      (h : LoginReached g.maxMessage initial chunks) :
      x = .dialling (initial ++ chunks.flatten) (now + g.connect) := by
    show Exchange.ofIntake g now ((Intake.start g.maxMessage initial).run reads) = _
    rw [h.run_of_prefix hp, Exchange.ofIntake_of_login h.login]
  rcases standing_run g.maxMessage initial reads with ⟨chunks, hn, h⟩ | ⟨chunks, hp, h⟩ |
    ⟨rejection, hr⟩
  · have hx : x = .intake (.whole g.maxMessage (initial ++ chunks.flatten)) (now + g.clientRead) := by
      show Exchange.ofIntake g now ((Intake.start g.maxMessage initial).run reads) = _
      rw [hn, h.run_eq]
      rfl
    refine ⟨fun request deadline => ⟨fun hd => ?_, ?_⟩, Or.inr (Or.inl ⟨chunks, hn, h⟩)⟩
    · rw [hx] at hd
      cases hd
    · rintro ⟨chunks', hp', h', -⟩
      have hd := hcalls hp' h'
      rw [hx] at hd
      cases hd
  · refine ⟨fun request deadline => ⟨fun hd => ?_, ?_⟩, Or.inl ⟨_, _, hcalls hp h⟩⟩
    · rw [hcalls hp h, Exchange.dialling.injEq] at hd
      exact ⟨chunks, hp, h, hd.1.symm, hd.2.symm⟩
    · rintro ⟨chunks', hp', h', rfl, rfl⟩
      exact hcalls hp' h'
  · have hx : x = .answer (.rejected rejection) := Exchange.ofIntake_of_refusal hr
    refine ⟨fun request deadline => ⟨fun hd => ?_, ?_⟩, Or.inr (Or.inr ⟨rejection, hx⟩)⟩
    · rw [hx] at hd
      cases hd
    · rintro ⟨chunks', hp', h', -⟩
      have hd := hcalls hp' h'
      rw [hx] at hd
      cases hd

/-- The service was not connected to and was sent nothing. -/
def Untouched (r : ExchangeRun) : Prop :=
  r.wires.backend.hold = .absent ∧ r.wires.backend.sink.delivered = []

/-- How far a request is on its way to the service. -/
inductive Sending (request : Bytes) (w : Watched) : Prop where
  | dialling {deadline : Nat} (hx : w.state.exchange = .dialling request deadline)
      (hv : w.notes.verdicts = []) (hb : Untouched w.state)
  | sending {rest : Bytes} (hx : w.state.exchange = .sending rest) (hv : w.notes.verdicts = [])
      (hb : w.state.wires.backend.sink.delivered ++ rest = request)
  | sentAll {buffer : MessageBuffer} {framing : Framing} {deadline : Nat}
      (hx : w.state.exchange = .collecting buffer framing deadline) (hv : w.notes.verdicts = [])
      (hb : w.state.wires.backend.sink.delivered = request)
  | decided {verdict : Verdict} (hx : w.state.exchange.isDecided = true)
      (hv : w.notes.verdicts = [verdict]) (hr : ∀ rejection, verdict ≠ .rejected rejection)
      (hb : Untouched w.state ∨ w.state.wires.backend.sink.delivered = request ∨
        (∃ fault, verdict = .failed (.send fault)) ∧
          w.state.wires.backend.sink.delivered <+: request)

/-- How far a request is, from its initial bytes on. -/
inductive Admitted (g : GatewaySettings) (initial : Bytes) (w : Watched) : Prop where
  | reading {chunks : List Bytes} (hp : Pending g.maxMessage initial chunks)
      (hn : w.notes.clientReads = chunks.map .bytes)
      (hx : w.state.exchange = .intake (.whole g.maxMessage (initial ++ chunks.flatten))
        (w.notes.movedAt + g.clientRead))
      (hc : w.notes.calls = 0) (hv : w.notes.verdicts = []) (hb : Untouched w.state)
  | refused {rejection : Rejection}
      (hr : ((Intake.start g.maxMessage initial).run w.notes.clientReads).refusal? =
        some rejection)
      (hx : w.state.exchange.isDecided = true) (hc : w.notes.calls = 0)
      (hv : w.notes.verdicts = [.rejected rejection]) (hb : Untouched w.state)
  | called {chunks : List Bytes} (hl : LoginReached g.maxMessage initial chunks)
      (hn : w.notes.clientReads = chunks.map .bytes) (hc : w.notes.calls = 1)
      (hs : Sending (initial ++ chunks.flatten) w)

/-- **The invariant of the request.** -/
structure Admitting (g : GatewaySettings) (initial : Bytes) (w : Watched) : Prop where
  settings : w.state.settings = g
  admitted : Admitted g initial w

/-- **A request as far as it has been taken in** is pending, calls the service or is refused. -/
theorem admitted_of_intake {g : GatewaySettings} {initial : Bytes} {w : Watched}
    (hx : w.state.exchange =
      .ofIntake g w.notes.movedAt ((Intake.start g.maxMessage initial).run w.notes.clientReads))
    (hc : w.notes.calls = if w.state.exchange.isDialling then 1 else 0)
    (hv : w.notes.verdicts = w.state.exchange.verdict?.toList) (hb : Untouched w.state)
    (h : Standing g.maxMessage initial w.notes.clientReads) : Admitted g initial w := by
  cases h with
  | pending hp hn =>
    rw [hn, hp.run_eq] at hx
    rw [hx] at hc hv
    exact .reading hp hn hx hc hv hb
  | login hl hn =>
    rw [hn, hl.run_eq, Exchange.ofIntake_of_login hl.login] at hx
    rw [hx] at hc hv
    exact .called hl hn hc (.dialling hx hv hb)
  | refused hr =>
    rw [Exchange.ofIntake_of_refusal hr] at hx
    rw [hx] at hc hv
    exact .refused hr (by rw [hx]; rfl) hc hv hb

theorem admitting_begin (g : GatewaySettings) (initial : Bytes) (client : Duplex) :
    Admitting g initial (.begin (.start g initial client)) :=
  ⟨rfl, admitted_of_intake rfl rfl rfl ⟨rfl, rfl⟩ (.start _ _)⟩

theorem Untouched.outside {r s : ExchangeRun} (h : Untouched r) (ho : ExchangeRun.Outside r s) :
    Untouched s :=
  ⟨ho.backendHold.trans h.1, ho.backendDelivered.trans h.2⟩

theorem Untouched.of_backend {r s : ExchangeRun} (h : Untouched r)
    (hb : s.wires.backend = r.wires.backend) : Untouched s := by
  unfold Untouched
  rw [hb]
  exact h

theorem Sending.outside {request : Bytes} {w : Watched} {r : ExchangeRun}
    (h : Sending request w) (ho : ExchangeRun.Outside w.state r) :
    Sending request ⟨r, w.notes⟩ := by
  have hd := ho.backendDelivered
  cases h with
  | dialling hx hv hb => exact .dialling (ho.exchange.trans hx) hv (hb.outside ho)
  | sending hx hv hb =>
    refine .sending (ho.exchange.trans hx) hv ?_
    show r.wires.backend.sink.delivered ++ _ = request
    rw [hd]
    exact hb
  | sentAll hx hv hb => exact .sentAll (ho.exchange.trans hx) hv (hd.trans hb)
  | decided hx hv hr hb =>
    refine .decided ?_ hv hr ?_
    · show r.exchange.isDecided = true
      rw [ho.exchange]
      exact hx
    · show Untouched r ∨ r.wires.backend.sink.delivered = request ∨
        _ ∧ r.wires.backend.sink.delivered <+: request
      rw [hd]
      exact hb.imp (·.outside ho) id

theorem admitting_outside {g : GatewaySettings} {initial : Bytes} (w : Watched) (r : ExchangeRun)
    (ho : ExchangeRun.Outside w.state r) (h : Admitting g initial w) :
    Admitting g initial ⟨r, w.notes⟩ := by
  refine ⟨ho.settings.trans h.settings, ?_⟩
  cases h.admitted with
  | reading hp hn hx hc hv hb =>
    exact .reading hp hn (ho.exchange.trans hx) hc hv (hb.outside ho)
  | refused hr hx hc hv hb =>
    refine .refused hr ?_ hc hv (hb.outside ho)
    show r.exchange.isDecided = true
    rw [ho.exchange]
    exact hx
  | called hl hn hc hs => exact .called hl hn hc (hs.outside ho)

/-! ## 2. The steps keep it -/

/-- What one more read of the client leads to. -/
theorem admitting_step_read {g : GatewaySettings} {initial : Bytes} {w : Watched}
    {s : ExchangeRun} {chunks : List Bytes} (hs : w.state.step = some s)
    (hg : w.state.settings = g) (hp : Pending g.maxMessage initial chunks)
    (hn : w.notes.clientReads = chunks.map .bytes)
    (hx : w.state.exchange = .intake (.whole g.maxMessage (initial ++ chunks.flatten))
      (w.notes.movedAt + g.clientRead))
    (hc : w.notes.calls = 0) (hv : w.notes.verdicts = []) (hb : Untouched w.state) :
    Admitted g initial ⟨s, w.notes.after w.state s⟩ := by
  obtain ⟨ledger, hstep, -, -, -⟩ := ExchangeRun.step_cases hs
  rw [hx, hg] at hstep
  generalize hx' : s.exchange = x' at hstep
  generalize hw' : s.wires = wires at hstep
  cases hstep with
  | read hread =>
    rename_i reading source
    have hnoted : w.state.clientReading = some reading :=
      (ExchangeRun.clientReading_of_intake hx).trans (congrArg Prod.fst hread)
    have hreads : (w.notes.after w.state s).clientReads = chunks.map .bytes ++ [reading] := by
      rw [w.notes.clientReads_after hnoted, hn]
    have hcalls : (w.notes.after w.state s).calls = if s.exchange.isDialling then 1 else 0 := by
      unfold ExchangeNotes.after
      rw [hx, hc]
      show (if (s.exchange.isDialling && true) = true then 0 + 1 else 0) = _
      rw [Bool.and_true]
    have hverdicts : (w.notes.after w.state s).verdicts = s.exchange.verdict?.toList :=
      w.notes.verdicts_after (by rw [hx]; rfl) hv
    have huntouched : Untouched s :=
      hb.of_backend ((congrArg Wires.backend hw').trans rfl)
    refine admitted_of_intake ?_ hcalls hverdicts huntouched ?_
    · show s.exchange = .ofIntake g w.state.now
        ((Intake.start g.maxMessage initial).run (w.notes.after w.state s).clientReads)
      rw [hreads, Intake.run_append, hp.run_eq]
      exact hx'
    · show Standing g.maxMessage initial (w.notes.after w.state s).clientReads
      rw [hreads]
      exact hp.standing reading

theorem sink_keepBackend (x : Exchange) (w : Wires) :
    (x.keepBackend w).backend.sink = w.backend.sink := by
  unfold Exchange.keepBackend
  split <;> rfl

/-- A request on its way to the service has been taken in. -/
theorem Sending.isIntake_eq {request : Bytes} {w : Watched} (h : Sending request w) :
    w.state.exchange.isIntake = false := by
  cases h with
  | dialling hx | sending hx | sentAll hx =>
    rw [hx]
    rfl
  | decided hx =>
    cases hx' : w.state.exchange with
    | answering | closing | ended => rfl
    | intake | dialling | sending | collecting =>
      rw [hx'] at hx
      cases hx

/-- A request that something has become of, other than a rejection. -/
theorem Sending.of_verdict {request : Bytes} {w : Watched} {verdict : Verdict}
    (hx : w.state.exchange = .answer verdict)
    (hv : w.notes.verdicts = w.state.exchange.verdict?.toList)
    (hr : ∀ rejection, verdict ≠ .rejected rejection)
    (hb : Untouched w.state ∨ w.state.wires.backend.sink.delivered = request ∨
      (∃ fault, verdict = .failed (.send fault)) ∧
        w.state.wires.backend.sink.delivered <+: request) : Sending request w := by
  rw [hx] at hv
  exact .decided (by rw [hx]; rfl) hv hr hb

/-- A request that has been sent in full, with a response as far as it has been collected. -/
theorem Sending.of_collection {request : Bytes} {w : Watched} {g : GatewaySettings} {now : Nat}
    {c : Collection} (hx : w.state.exchange = .ofCollection g now c)
    (hv : w.notes.verdicts = w.state.exchange.verdict?.toList)
    (hd : w.state.wires.backend.sink.delivered = request) : Sending request w := by
  rcases Exchange.ofCollection_cases g now c with ⟨_, _, _, e⟩ | ⟨verdict, e, hr⟩
  · rw [e] at hx
    rw [hx] at hv
    exact .sentAll hx hv hd
  · rw [e] at hx
    exact .of_verdict hx hv hr (Or.inr (Or.inl hd))

/-- A request of which `rest` is still to be sent. -/
theorem Sending.of_sent {request rest : Bytes} {w : Watched} {g : GatewaySettings} {now : Nat}
    (hx : w.state.exchange = .sent g now rest)
    (hv : w.notes.verdicts = w.state.exchange.verdict?.toList)
    (hd : w.state.wires.backend.sink.delivered ++ rest = request) : Sending request w := by
  rcases Exchange.sent_cases g now rest with ⟨rfl, e⟩ | e
  · rw [e] at hx
    rw [List.append_nil] at hd
    exact .of_collection hx hv hd
  · rw [e] at hx
    rw [hx] at hv
    exact .sending hx hv hd

/-- **What a step makes of a request** on its way to the service. -/
theorem Sending.step {request : Bytes} {w : Watched} {s : ExchangeRun} (h : Sending request w)
    (hs : w.state.step = some s) : Sending request ⟨s, w.notes.after w.state s⟩ := by
  obtain ⟨ledger, hstep, -, -, -⟩ := ExchangeRun.step_cases hs
  cases h with
  | dialling hx hv hb =>
    have hv' := w.notes.verdicts_after (s := s) (by rw [hx]; rfl) hv
    rw [hx] at hstep
    generalize hx' : s.exchange = x' at hstep
    generalize hw' : s.wires = wires at hstep
    cases hstep with
    | connected hd =>
      rw [hx'] at hv'
      refine .sending hx' hv' ?_
      show s.wires.backend.sink.delivered ++ request = request
      rw [hw']
      exact congrArg (· ++ request) hb.2
    | refused hd | unanswered hd hle =>
      have hb' : Untouched s := hb.of_backend (congrArg Wires.backend hw')
      exact .of_verdict hx' hv' (fun _ => Verdict.noConfusion) (Or.inl hb')
  | sending hx hv hb =>
    have hv' := w.notes.verdicts_after (s := s) (by rw [hx]; rfl) hv
    rw [hx] at hstep
    generalize hx' : s.exchange = x' at hstep
    generalize hw' : s.wires = wires at hstep
    cases hstep with
    | sentNothing => exact .of_sent hx' hv' (by rw [hw']; exact hb)
    | sent hp =>
      rename_i rest rest' sink
      obtain ⟨more, hd, hmore, -⟩ := Sink.delivered_push hp
      refine .of_sent hx' hv' ?_
      show s.wires.backend.sink.delivered ++ rest' = request
      rw [hw']
      show sink.delivered ++ rest' = request
      rw [hd, List.append_assoc, hmore]
      exact hb
    | sendFault hp =>
      rename_i rest fault sink
      obtain ⟨hd, -⟩ := Sink.delivered_push_error hp
      refine .of_verdict hx' hv' (fun _ => Verdict.noConfusion)
        (Or.inr (Or.inr ⟨⟨fault, rfl⟩, rest, ?_⟩))
      show s.wires.backend.sink.delivered ++ rest = request
      rw [hw', ← hb]
      exact congrArg (· ++ rest) hd
  | sentAll hx hv hb =>
    have hv' := w.notes.verdicts_after (s := s) (by rw [hx]; rfl) hv
    rw [hx] at hstep
    generalize hx' : s.exchange = x' at hstep
    generalize hw' : s.wires = wires at hstep
    cases hstep with
    | collect hread =>
      refine .of_collection hx' hv' ?_
      show s.wires.backend.sink.delivered = request
      rw [hw', sink_keepBackend]
      exact hb
  | decided hx hv hrej hb =>
    obtain ⟨hnotes, hx'⟩ := w.notes.after_of_isDecided hs hx
    obtain ⟨hsink, hhold⟩ := hstep.backend_of_isDecided hx
    rw [hnotes]
    refine .decided hx' hv hrej ?_
    show Untouched s ∨ s.wires.backend.sink.delivered = request ∨
      _ ∧ s.wires.backend.sink.delivered <+: request
    unfold Untouched at hb ⊢
    rw [hsink, hhold]
    exact hb

theorem admitting_step {g : GatewaySettings} {initial : Bytes} (w : Watched) (s : ExchangeRun)
    (hs : w.state.step = some s) (h : Admitting g initial w) :
    Admitting g initial ⟨s, w.notes.after w.state s⟩ := by
  obtain ⟨ledger, hstep, hset, -, -⟩ := ExchangeRun.step_cases hs
  refine ⟨hset.trans h.settings, ?_⟩
  cases h.admitted with
  | reading hp hn hx hc hv hb => exact admitting_step_read hs h.settings hp hn hx hc hv hb
  | refused hr hx hc hv hb =>
    obtain ⟨hnotes, hx'⟩ := w.notes.after_of_isDecided hs hx
    obtain ⟨hsink, hhold⟩ := hstep.backend_of_isDecided hx
    rw [hnotes]
    refine .refused hr hx' hc hv ⟨hhold.mpr hb.1, ?_⟩
    show s.wires.backend.sink.delivered = []
    rw [hsink]
    exact hb.2
  | called hl hn hc hs' =>
    obtain ⟨hreads, hcalls⟩ := w.notes.after_of_no_intake hs hs'.isIntake_eq
    exact .called hl (hreads.trans hn) (hcalls.trans hc) (hs'.step hs)

/-- **The invariant at every moment.** -/
theorem admitting_run (g : GatewaySettings) (initial : Bytes) (client : Duplex)
    (labels : List ExchangeLabel) :
    Admitting g initial ((Watched.begin (.start g initial client)).run labels) :=
  Watched.run_induct admitting_outside admitting_step (admitting_begin g initial client) labels

/-! ## 3. Whom the service sees -/

/-- What is behind the call is a part of the request, and all of it once it has been sent. -/
theorem Sending.delivered {request : Bytes} {w : Watched} (h : Sending request w) :
    w.state.wires.backend.sink.delivered <+: request ∧
      (w.state.wires.backend.hold ≠ .absent →
        w.state.wires.backend.sink.delivered = request ∨
          (∃ rest, w.state.exchange = .sending rest) ∨
          ∃ fault, w.notes.verdicts = [.failed (.send fault)]) ∧
      ∀ rejection, .rejected rejection ∉ w.notes.verdicts := by
  cases h with
  | dialling hx hv hb =>
    refine ⟨?_, fun hh => absurd hb.1 hh, fun rejection hm => ?_⟩
    · rw [hb.2]
      exact List.nil_prefix
    · rw [hv] at hm
      cases hm
  | sending hx hv hb =>
    refine ⟨⟨_, hb⟩, fun _ => Or.inr (Or.inl ⟨_, hx⟩), fun rejection hm => ?_⟩
    rw [hv] at hm
    cases hm
  | sentAll hx hv hb =>
    refine ⟨?_, fun _ => Or.inl hb, fun rejection hm => ?_⟩
    · exact ⟨[], (List.append_nil _).trans hb⟩
    · rw [hv] at hm
      cases hm
  | decided hx hv hr hb =>
    have hno : ∀ rejection, .rejected rejection ∉ w.notes.verdicts := fun rejection hm => by
      rw [hv] at hm
      exact hr rejection (List.mem_singleton.mp hm).symm
    rcases hb with hb | hb | ⟨⟨fault, rfl⟩, hb⟩
    · refine ⟨?_, fun hh => absurd hb.1 hh, hno⟩
      rw [hb.2]
      exact List.nil_prefix
    · exact ⟨⟨[], (List.append_nil _).trans hb⟩, fun _ => Or.inl hb, hno⟩
    · exact ⟨hb, fun _ => Or.inr (Or.inr ⟨fault, hv⟩), hno⟩

/-- A read of a request that is taken in is one of the connection, or nothing came in time. -/
theorem clientReading_iff {w : Watched} {buffer : MessageBuffer} {deadline : Nat}
    (hx : w.state.exchange = .intake buffer deadline) (reading : Reading) :
    w.state.clientReading = some reading ↔
      (w.state.wires.client.source.read exchangeChunk).1 = some reading ∨
        (w.state.wires.client.source.read exchangeChunk).1 = none ∧ reading = .timedOut ∧
          deadline ≤ w.state.now := by
  rw [ExchangeRun.clientReading_of_intake hx]
  exact Source.await_eq_some_iff

/-- A rejected client has a part of the local 404 and nothing else. -/
theorem Answering.delivered_of_rejected {client : Duplex} {w : Watched} {rejection : Rejection}
    (h : Answering client w) (hv : w.notes.verdicts = [.rejected rejection]) :
    ∃ accepted, w.state.wires.client.sink.delivered = client.sink.delivered ++ accepted ∧
      accepted <+: LocalResponse.notFound.toBytes := by
  rcases h.handed with ⟨-, hnone, -⟩ | ⟨verdict, rest, closed, hone, hh, -⟩
  · rw [hv] at hnone
    cases hnone
  · rw [hv, List.cons.injEq] at hone
    obtain ⟨rfl, -⟩ := hone
    obtain ⟨accepted, ha, hprefix, -⟩ := hh.summary
    exact ⟨accepted, ha, hprefix⟩

/-- **The service is called once**, exactly for a login request. -/
theorem Admitting.calls {g : GatewaySettings} {initial : Bytes} {w : Watched}
    (h : Admitting g initial w) :
    w.notes.calls ≤ 1 ∧
      (w.notes.calls = 1 ↔ ∃ chunks : List Bytes, w.notes.clientReads = chunks.map .bytes ∧
        LoginReached g.maxMessage initial chunks) := by
  cases h.admitted with
  | reading hp hn hx hc hv hb =>
    refine ⟨by omega, fun hcalled => by omega, ?_⟩
    rintro ⟨chunks', hn', hl⟩
    rw [hn] at hn'
    rw [← map_bytes_injective hn'] at hl
    exact absurd hl hp.not_loginReached
  | refused hr hx hc hv hb =>
    refine ⟨by omega, fun hcalled => by omega, ?_⟩
    rintro ⟨chunks', hn', hl⟩
    rw [hn'] at hr
    exact absurd hr (hl.not_refused _)
  | called hl hn hc hs => exact ⟨by omega, fun _ => ⟨_, hn, hl⟩, fun _ => hc⟩

/-- **A service that was called gets the bytes that were read**, from the first on. -/
theorem Admitting.delivered {g : GatewaySettings} {initial : Bytes} {w : Watched}
    (h : Admitting g initial w) (hcalled : w.notes.calls = 1) {chunks : List Bytes}
    (hreads : w.notes.clientReads = chunks.map .bytes) :
    w.state.wires.backend.sink.delivered <+: initial ++ chunks.flatten ∧
      (w.state.wires.backend.hold ≠ .absent →
        w.state.wires.backend.sink.delivered = initial ++ chunks.flatten ∨
          (∃ rest, w.state.exchange = .sending rest) ∨
          ∃ fault, w.notes.verdicts = [.failed (.send fault)]) ∧
      ∀ rejection, .rejected rejection ∉ w.notes.verdicts := by
  cases h.admitted with
  | reading hp hn hx hc hv hb | refused hr hx hc hv hb => omega
  | called hl hn hc hs =>
    rw [hn] at hreads
    rw [← map_bytes_injective hreads]
    exact hs.delivered

/-- **The service is called for login requests only, and gets them as they came.** Whatever the reads
of a client come to, an exchange that takes them in calls the service with the bytes accumulated
exactly if the first so many of the reads brought a request that was unfinished with all but the last
of them and is a login request with it; else more is awaited, or the request is rejected.

So it is in every run. For every first chunk, everything that client and service do and every order
of steps, at every moment: an exchange goes on where what it waits for is there, and takes in what
there is to read; the service has been called at most once, and has been exactly for such a request.
The service then has accepted a part of the bytes that were accumulated and of nothing else, all of
them once the sending has succeeded. While it has not been called it was not connected to and sent
nothing; and the request is unfinished, with `clientRead` for each further read, or it is rejected,
and all that the client is given is the local 404. -/
theorem called_iff_login (g : GatewaySettings) (initial : Bytes) :
    (∀ (now : Nat) (reads : List Reading),
      let x := Exchange.ofIntake g now ((Intake.start g.maxMessage initial).run reads)
      (∀ request deadline, x = .dialling request deadline ↔
          ∃ chunks : List Bytes, chunks.map .bytes <+: reads ∧
            LoginReached g.maxMessage initial chunks ∧ request = initial ++ chunks.flatten ∧
            deadline = now + g.connect) ∧
        ((∃ request deadline, x = .dialling request deadline) ∨
          (∃ chunks : List Bytes, reads = chunks.map .bytes ∧
            Pending g.maxMessage initial chunks) ∨
          ∃ rejection, x = .answer (.rejected rejection))) ∧
    ∀ (client : Duplex) (labels : List ExchangeLabel),
      let w := (Watched.begin (.start g initial client)).run labels
      let source := w.state.wires.client.source
      let backend := w.state.wires.backend
      (w.state.step.isSome = true ↔ w.state.Ready) ∧
        (∀ reading, w.state.clientReading = some reading →
          (w.happen .step).notes.clientReads = w.notes.clientReads ++ [reading]) ∧
        w.notes.calls ≤ 1 ∧
        (w.notes.calls = 1 ↔
          ∃ chunks : List Bytes, w.notes.clientReads = chunks.map .bytes ∧
            LoginReached g.maxMessage initial chunks) ∧
        (w.notes.calls = 1 → ∀ chunks : List Bytes, w.notes.clientReads = chunks.map .bytes →
          backend.sink.delivered <+: initial ++ chunks.flatten ∧
          (backend.hold ≠ .absent →
            backend.sink.delivered = initial ++ chunks.flatten ∨
              (∃ rest, w.state.exchange = .sending rest) ∨
              ∃ fault, w.notes.verdicts = [.failed (.send fault)]) ∧
          ∀ rejection, .rejected rejection ∉ w.notes.verdicts) ∧
        (w.notes.calls = 0 → backend.hold = .absent ∧ backend.sink.delivered = [] ∧
          ((∃ chunks : List Bytes, w.notes.clientReads = chunks.map .bytes ∧
              Pending g.maxMessage initial chunks ∧ w.notes.verdicts = [] ∧
              ∀ reading, w.state.clientReading = some reading ↔
                (source.read exchangeChunk).1 = some reading ∨
                  (source.read exchangeChunk).1 = none ∧ reading = .timedOut ∧
                    w.notes.movedAt + g.clientRead ≤ w.state.now) ∨
            ∃ rejection, w.notes.verdicts = [.rejected rejection] ∧
              ∃ accepted, w.state.wires.client.sink.delivered = client.sink.delivered ++ accepted ∧
                accepted <+: LocalResponse.notFound.toBytes)) := by
  refine ⟨Exchange.ofIntake_run g initial, fun client labels => ?_⟩
  intro w source backend
  have hw : Admitting g initial w := admitting_run g initial client labels
  have ha : Answering client w := answering_run g initial client labels
  obtain ⟨honce, hcalls⟩ := hw.calls
  refine ⟨w.state.step_isSome_iff, fun _ => Watched.clientReads_happen, honce, hcalls,
    fun hcalled _ => hw.delivered hcalled, fun huncalled => ?_⟩
  cases hw.admitted with
  | reading hp hn hx hc hv hb =>
    exact ⟨hb.1, hb.2, Or.inl ⟨_, hn, hp, hv, clientReading_iff hx⟩⟩
  | refused hr hx hc hv hb =>
    exact ⟨hb.1, hb.2, Or.inr ⟨_, hv, ha.delivered_of_rejected hv⟩⟩
  | called hl hn hc hs => omega

end TrafficRouter
