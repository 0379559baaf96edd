import TrafficRouter.Proofs.Gateway.Admission

/-!
# What is forwarded with a request

A client may send more than its request. The request is forwarded with the read that completes it,
and what that read brought behind the request goes with it. So the service gets the whole request,
however the client's bytes were divided into reads; how much more it gets is a matter of that
division.

* `LoginFrame`: a stream that begins with a login request of so many bytes; whether a beginning of the
  stream is one that awaits more depends on its length alone (`awaits_iff`);
* `Watched.content_run`: what has been read and what has not are what there was and what was sent;
* `forwarded_with_read`: when the service is called, and what it gets.

NOT here: responses, which are cut where they are complete (`Completion`).
-/

namespace TrafficRouter

open Http

/-! ## 1. Streams that begin with a request -/

/-- A message that is complete or has no end of its own awaits nothing. -/
theorem not_awaits {bytes : Bytes}
    (h : DeclaresNone bytes ∨ ∃ start n, Declares bytes start n ∧ start + n ≤ bytes.length) :
    ¬ Awaits bytes := by
  intro hawaits
  have hframing := framingOf_awaits_iff.mpr hawaits
  rcases h with hnone | ⟨start, n, hdeclares, hfits⟩
  · rw [framingOf_eq_unbounded_iff.mpr hnone] at hframing
    rcases hframing with hf | ⟨_, hf⟩ <;> cases hf
  · rw [framingOf_eq_complete_iff.mpr ⟨start, n, hdeclares, rfl, hfits⟩] at hframing
    rcases hframing with hf | ⟨_, hf⟩ <;> cases hf

/-- **The stream begins with a login request** of so many bytes: its head and the body that the head
declares, or its head alone. -/
structure LoginFrame (stream : Bytes) (length : Nat) : Prop where
  login : LoginLine stream
  framed : (∃ e, find headerTerminator stream = some e ∧
      headContentLength (stream.take e) = .ok none ∧ length = e + headerTerminator.length) ∨
    ∃ start n, Declares stream start n ∧ length = start + n

namespace LoginFrame

variable {stream front : Bytes} {length : Nat}

/-- The head of the request and what it declares. -/
theorem head (h : LoginFrame stream length) :
    ∃ e, find headerTerminator stream = some e ∧ e + headerTerminator.length ≤ length ∧
      (headContentLength (stream.take e) = .ok none ∧ length = e + headerTerminator.length ∨
        ∃ n, headContentLength (stream.take e) = .ok (some n) ∧
          length = e + headerTerminator.length + n) := by
  rcases h.framed with ⟨e, he, hnone, rfl⟩ | ⟨start, n, ⟨e, he, rfl, hsome⟩, rfl⟩
  · exact ⟨e, he, Nat.le_refl _, Or.inl ⟨hnone, rfl⟩⟩
  · exact ⟨e, he, Nat.le_add_right _ _, Or.inr ⟨n, hsome, rfl⟩⟩

/-- A beginning that is shorter than the request awaits the rest of it. -/
theorem awaits_of_lt (h : LoginFrame stream length) (hp : front <+: stream)
    (hlt : front.length < length) : Awaits front := by
  obtain ⟨e, he, -, hdeclared⟩ := h.head
  by_cases hhead : e + headerTerminator.length ≤ front.length
  · rcases hdeclared with ⟨-, rfl⟩ | ⟨n, hsome, rfl⟩
    · exact absurd hlt (Nat.not_lt_of_le hhead)
    · refine Or.inr ⟨_, n, ⟨e, find_front he (by decide) hp hhead, rfl, ?_⟩, hlt⟩
      rw [take_front hp (by omega)]
      exact hsome
  · exact Or.inl (find_front_of_lt he hp (Nat.lt_of_not_le hhead))

/-- A beginning that holds the request is complete, or has no end of its own. -/
theorem finished_of_le (h : LoginFrame stream length) (hp : front <+: stream)
    (hle : length ≤ front.length) :
    DeclaresNone front ∨ ∃ start n, Declares front start n ∧ start + n ≤ front.length := by
  obtain ⟨e, he, hhead, hdeclared⟩ := h.head
  have hfound := find_front he (by decide) hp (Nat.le_trans hhead hle)
  have htake : front.take e = stream.take e := take_front hp (by omega)
  rcases hdeclared with ⟨hnone, -⟩ | ⟨n, hsome, rfl⟩
  · exact Or.inl ⟨e, hfound, htake ▸ hnone⟩
  · exact Or.inr ⟨_, n, ⟨e, hfound, rfl, htake ▸ hsome⟩, hle⟩

/-- A beginning that holds the request has its first line. -/
theorem login_of_le (h : LoginFrame stream length) (hp : front <+: stream)
    (hle : length ≤ front.length) : LoginLine front := by
  obtain ⟨e, he, hhead, -⟩ := h.head
  obtain ⟨n, line, hn, hparse, hmethod, hpath⟩ := h.login
  -- the head ends with two line ends, the first of which is not before that of the first line
  have hne : n ≤ e := by
    obtain ⟨-, hocc, -⟩ := find_eq_some_iff.mp he
    obtain ⟨-, -, hfirst⟩ := find_eq_some_iff.mp hn
    by_contra hlt
    exact hfirst e (Nat.lt_of_not_le hlt) ((List.prefix_append lineEnd lineEnd).trans hocc)
  have hfits : n + lineEnd.length ≤ front.length := by
    have hlength : headerTerminator.length = lineEnd.length + lineEnd.length := rfl
    omega
  refine ⟨n, line, find_front hn (by decide) hp hfits, ?_, hmethod, hpath⟩
  rw [take_front hp (by omega)]
  exact hparse

/-- **Whether a beginning awaits more is a matter of its length.** -/
theorem awaits_iff (h : LoginFrame stream length) (hp : front <+: stream) :
    Awaits front ↔ front.length < length := by
  refine ⟨fun hawaits => ?_, h.awaits_of_lt hp⟩
  by_contra hle
  exact not_awaits (h.finished_of_le hp (Nat.le_of_not_lt hle)) hawaits

end LoginFrame

/-- **The last of the chunks is the first with which there are so many bytes**, and all of them are
within the limit. -/
structure Completes (limit length : Nat) (initial : Bytes) (chunks : List Bytes) : Prop where
  nonempty : ∀ chunk ∈ chunks, chunk ≠ []
  before : ∀ front, front <+: chunks → front ≠ chunks → (initial ++ front.flatten).length < length
  reached : length ≤ (initial ++ chunks.flatten).length
  fits : (initial ++ chunks.flatten).length ≤ limit

/-- **A request is reached where its bytes are.** -/
theorem LoginFrame.reached_iff {stream initial : Bytes} {length limit : Nat} {chunks : List Bytes}
    (h : LoginFrame stream length) (hp : initial ++ chunks.flatten <+: stream) :
    LoginReached limit initial chunks ↔ Completes limit length initial chunks := by
  have hfront : ∀ front, front <+: chunks →
      initial ++ front.flatten <+: initial ++ chunks.flatten := by
    rintro front ⟨rest, rfl⟩
    rw [List.flatten_append, ← List.append_assoc]
    exact List.prefix_append _ _
  constructor
  · intro hr
    refine ⟨hr.nonempty, fun front hf hne => ?_, ?_, hr.finished.1⟩
    · exact (h.awaits_iff ((hfront front hf).trans hp)).mp (hr.unfinished front hf hne).2
    · exact Nat.le_of_not_lt fun hlt => not_awaits hr.finished.2 (h.awaits_of_lt hp hlt)
  · intro hc
    refine ⟨hc.nonempty, fun front hf hne => ⟨?_, ?_⟩, ⟨hc.fits, h.finished_of_le hp hc.reached⟩,
      h.login_of_le hp hc.reached⟩
    · exact Nat.le_trans (hfront front hf).length_le hc.fits
    · exact h.awaits_of_lt ((hfront front hf).trans hp) (hc.before front hf hne)

/-! ## 2. What is read -/

/-- What the client sends with some labels. -/
def ExchangeLabel.sent (labels : List ExchangeLabel) : Bytes :=
  labels.flatMap fun
    | .client action => action.sent
    | .backend _ | .advance _ | .dialled _ | .step => []

/-- What has been read of the client, in order. -/
def ExchangeNotes.content (n : ExchangeNotes) : Bytes := n.clientReads.flatMap Reading.content

namespace Watched

/-- Only the taking in of a request reads from the client. -/
theorem source_of_no_intake {g : GatewaySettings} {now : Nat} {dial : Option DialAnswer}
    {x x' : Exchange} {w w' : Wires} {ledger : Ledger}
    (h : Exchange.Step g now dial x w x' w' ledger) (hx : x.isIntake = false) :
    w'.client.source = w.client.source := by
  cases h with
  | read => cases hx
  | collect =>
    unfold Exchange.keepBackend
    split <;> rfl
  | connected | refused | unanswered | sentNothing | sendFault | sent | answeredNothing
  | answerFault | answered | closed | closeFault => rfl

/-- **What a step reads comes off the front of what there is.** -/
theorem content_step {w : Watched} {s : ExchangeRun} (h : w.state.step = some s) :
    (w.notes.after w.state s).content ++ s.wires.client.source.unread =
      w.notes.content ++ w.state.wires.client.source.unread := by
  obtain ⟨ledger, hstep, -⟩ := ExchangeRun.step_cases h
  unfold ExchangeNotes.content
  cases hi : w.state.exchange.isIntake with
  | false =>
    rw [(w.notes.after_of_no_intake h hi).1, source_of_no_intake hstep hi]
  | true =>
    generalize hx : w.state.exchange = x at hstep hi
    generalize hx' : s.exchange = x' at hstep
    generalize hw : s.wires = wires at hstep
    cases hstep with
    | read hread =>
      rename_i buffer deadline reading source
      have hnoted : w.state.clientReading = some reading :=
        (ExchangeRun.clientReading_of_intake hx).trans (congrArg Prod.fst hread)
      rw [w.notes.clientReads_after hnoted, List.flatMap_append, List.append_assoc,
        List.flatMap_singleton, ← Source.unread_await hread]
      rfl
    | connected | refused | unanswered | sentNothing | sendFault | sent | collect
    | answeredNothing | answerFault | answered | closed | closeFault => cases hi

theorem content_happen (w : Watched) (label : ExchangeLabel) :
    (w.happen label).notes.content ++ (w.happen label).state.wires.client.source.unread =
      w.notes.content ++ w.state.wires.client.source.unread ++ ExchangeLabel.sent [label] := by
  cases label with
  | client action =>
    show _ ++ (w.state.wires.client.act action).source.unread = _
    rw [Duplex.unread_act]
    simp [ExchangeLabel.sent, happen]
  | step =>
    show _ = _ ++ []
    rw [List.append_nil]
    unfold happen
    cases hs : w.state.step with
    | none => rfl
    | some s => exact content_step hs
  | backend | advance | dialled => exact (List.append_nil _).symm

/-- **What has been read and what has not are what there was and what was sent.** -/
theorem content_run (w : Watched) (labels : List ExchangeLabel) :
    (w.run labels).notes.content ++ (w.run labels).state.wires.client.source.unread =
      w.notes.content ++ w.state.wires.client.source.unread ++ ExchangeLabel.sent labels := by
  induction labels generalizing w with
  | nil => exact (List.append_nil _).symm
  | cons label labels ih =>
    have hsent : ExchangeLabel.sent (label :: labels) =
        ExchangeLabel.sent [label] ++ ExchangeLabel.sent labels := by
      simp [ExchangeLabel.sent]
    show ((w.happen label).run labels).notes.content ++
      ((w.happen label).run labels).state.wires.client.source.unread = _
    rw [ih, content_happen, hsent]
    simp

/-- **What was read, behind the first bytes, is a beginning of what the client sends in all.** -/
theorem reads_begin {g : GatewaySettings} {initial : Bytes} {client : Duplex}
    {labels : List ExchangeLabel} {chunks : List Bytes}
    (h : ((begin (.start g initial client)).run labels).notes.clientReads = chunks.map .bytes) :
    initial ++ chunks.flatten <+: initial ++ client.source.unread ++ ExchangeLabel.sent labels := by
  have hrun := (begin (.start g initial client)).content_run labels
  have hread : ((begin (.start g initial client)).run labels).notes.content = chunks.flatten := by
    unfold ExchangeNotes.content
    rw [h, List.flatMap_def, List.map_map]
    exact congrArg List.flatten (List.map_id chunks)
  have hall : chunks.flatten ++
      ((begin (.start g initial client)).run labels).state.wires.client.source.unread =
        client.source.unread ++ ExchangeLabel.sent labels := by
    rw [← hread]
    exact hrun
  exact ⟨_, by rw [List.append_assoc, hall, List.append_assoc]⟩

end Watched

/-! ## 3. What is forwarded -/

/-- **A login request is forwarded with the read that completes it.** For every client that sends a
stream of bytes which begins with a login request of so many, and every way in which first bytes and
reads divide that stream, at every moment: the service has been called exactly if the last read was
the first with which the request was there, all bytes of it and behind it being within the limit. The
service then gets what was read, from the front on, and all of it once the sending is over without a
fault. That begins with the request; it is the request and nothing more only where the read that
completed it ended with it. -/
theorem forwarded_with_read (g : GatewaySettings) (initial : Bytes) (client : Duplex)
    (labels : List ExchangeLabel) (length : Nat) :
    let w := (Watched.begin (.start g initial client)).run labels
    let stream := initial ++ client.source.unread ++ ExchangeLabel.sent labels
    let backend := w.state.wires.backend
    LoginFrame stream length →
    (w.notes.calls = 1 ↔ ∃ chunks : List Bytes, w.notes.clientReads = chunks.map .bytes ∧
        Completes g.maxMessage length initial chunks) ∧
      ∀ chunks : List Bytes, w.notes.clientReads = chunks.map .bytes → w.notes.calls = 1 →
        let received := initial ++ chunks.flatten
        received <+: stream ∧ backend.sink.delivered <+: received ∧
          (backend.hold ≠ .absent → (∀ rest, w.state.exchange ≠ .sending rest) →
            (∀ fault, w.notes.verdicts ≠ [.failed (.send fault)]) →
            backend.sink.delivered = received ∧ stream.take length <+: backend.sink.delivered ∧
              (backend.sink.delivered = stream.take length ↔ received.length = length)) := by
  intro w stream backend hframe
  have hcontent : ∀ chunks : List Bytes, w.notes.clientReads = chunks.map .bytes →
      initial ++ chunks.flatten <+: stream := fun _ hreads => Watched.reads_begin hreads
  have hw : Admitting g initial w := admitting_run g initial client labels
  obtain ⟨-, hcalls⟩ := hw.calls
  refine ⟨hcalls.trans (exists_congr fun chunks => and_congr_right fun hreads =>
    hframe.reached_iff (hcontent chunks hreads)), fun chunks hreads hcalled => ?_⟩
  intro received
  have hstream : received <+: stream := hcontent chunks hreads
  obtain ⟨hbegins, hsent, -⟩ := hw.delivered hcalled hreads
  refine ⟨hstream, hbegins, fun hhold hsending hfault => ?_⟩
  have hall : backend.sink.delivered = received := by
    rcases hsent hhold with hall | ⟨rest, hx⟩ | ⟨fault, hv⟩
    · exact hall
    · exact absurd hx (hsending rest)
    · exact absurd hv (hfault fault)
  obtain ⟨chunks', hreads', hreached⟩ := hcalls.mp hcalled
  obtain rfl : chunks = chunks' := map_bytes_injective (hreads.symm.trans hreads')
  have hle : length ≤ received.length := ((hframe.reached_iff hstream).mp hreached).reached
  have htake : received.take length = stream.take length := take_front hstream hle
  refine ⟨hall, ?_, ?_⟩
  · rw [hall, ← htake]
    exact List.take_prefix _ _
  · rw [hall, ← htake]
    constructor
    · intro h
      rw [h, List.length_take, Nat.min_eq_left hle]
    · intro h
      rw [← h, List.take_length]

/-- A login request of 51 bytes. -/
def loginRequest : Bytes :=
  ascii "POST /login.php HTTP/1.1\r\nContent-Length: 4\r\n\r\nuser".toList

/-- A request for another page. -/
def otherRequest : Bytes := ascii "GET /x HTTP/1.1\r\n\r\n".toList

/-- An answer to either. -/
def shortResponse : Bytes := ascii "HTTP/1.1 200 OK\r\nContent-Length: 2\r\n\r\nok".toList

theorem loginFrame_loginRequest : LoginFrame (loginRequest ++ otherRequest) 51 where
  login := ⟨24, ⟨"POST", "/login.php", "HTTP/1.1"⟩, by decide +kernel, by decide +kernel, rfl, rfl⟩
  framed := Or.inr ⟨47, 4, ⟨43, by decide +kernel, rfl, by decide +kernel⟩, rfl⟩

/-- Two requests of which the second comes with a read of its own: the first is forwarded alone. -/
theorem forwarded_with_read_alone :
    let w := (Watched.begin (.start (.ofSettings {}) loginRequest {})).run
      [.client (.send otherRequest), .dialled .accepted, .step, .step]
    w.notes.calls = 1 ∧ w.state.wires.backend.sink.delivered = loginRequest := by
  intro w
  have hrun : w.notes.clientReads = [] ∧ w.notes.calls = 1 ∧ w.state.wires.backend.hold = .held ∧
      w.notes.verdicts = [] ∧
      (match w.state.exchange with | .sending _ => false | _ => true) = true := by
    decide +kernel
  obtain ⟨hreads, hcalls, hhold, hverdicts, hstage⟩ := hrun
  obtain ⟨-, hforwarded⟩ := forwarded_with_read (.ofSettings {}) loginRequest {}
    [.client (.send otherRequest), .dialled .accepted, .step, .step] 51 loginFrame_loginRequest
  obtain ⟨-, -, hsent⟩ := hforwarded [] hreads hcalls
  have hexchange : ∀ rest, w.state.exchange ≠ .sending rest := fun rest hx => by
    rw [hx] at hstage
    cases hstage
  obtain ⟨hall, -, -⟩ := hsent (by rw [hhold]; exact Hold.noConfusion) hexchange
    (fun _ h => by rw [hverdicts] at h; cases h)
  exact ⟨hcalls, hall⟩

/-- **Two requests that come with one read are forwarded both.** -/
theorem forwarded_with_read_both :
    let stream := loginRequest ++ otherRequest
    let w := (Watched.begin (.start (.ofSettings {}) stream {})).run
      [.dialled .accepted, .step, .step, .backend (.send shortResponse), .step]
    LoginFrame stream 51 ∧ w.notes.verdicts = [.forwarded shortResponse] ∧
      w.state.wires.backend.sink.delivered = stream ∧ stream ≠ stream.take 51 := by
  intro stream w
  exact ⟨loginFrame_loginRequest, by decide +kernel⟩

end TrafficRouter
