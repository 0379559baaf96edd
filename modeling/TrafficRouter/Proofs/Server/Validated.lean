import TrafficRouter.Proofs.Server.Integrity
import TrafficRouter.Proofs.Session.Reads
import TrafficRouter.Proofs.Startup

/-!
# What sessions rely on

Four things that may go wrong in a session or before it do not with settings that were validated,
each because of a rule of its own. The addresses are addresses. The first bytes of a connection fit
into a message, so no request is too long before more of it was asked for. And all that is read is
read with room, so a read that returns nothing means that the peer has closed, and nothing that has
arrived is passed over.

* `Server.Readable`: what has arrived on any connection of a server can be read;
* `Session.Step.exchange_of_priming`: the request that an exchange begins with;
* `validated_settings_suffice`: the four, for every run.

NOT here: settings that were not validated, with which a read may return nothing for lack of room.
-/

namespace TrafficRouter

open Http (MessageBuffer)

/-! ## 1. What can be read -/

namespace Server

variable {c : ServerSettings} {s s' : Server} {label : Label}

/-- **What has arrived on the connections of a server can be read.** -/
structure Readable (c : ServerSettings) (s : Server) : Prop where
  queue : ∀ a ∈ s.queue, a.line.source.Solid
  sessions : ∀ session ∈ s.sessions, session.Readable c.session

/-- What has arrived from clients that wait can be read behind a step. -/
theorem Step.solid_queue (h : Step c s label s') (hq : ∀ a ∈ s.queue, a.line.source.Solid) :
    ∀ a ∈ s'.queue, a.line.source.Solid := by
  intro a' ha'
  cases h with
  | advance | backend | nobody | starve | shutdown | drains | takesSlot | fails | resumes | leaves
  | frees | polls => exact hq a' ha'
  | takes _ _ htakes =>
    refine hq a' ?_
    rw [htakes]
    exact List.mem_cons_of_mem _ ha'
  | arrive peer =>
    rcases List.mem_append.mp ha' with ha | ha
    · exact hq a' ha
    · rw [List.mem_singleton.mp ha]
      exact fun piece hpiece => absurd hpiece List.not_mem_nil
  | client number action =>
    obtain ⟨a, ha, rfl⟩ := List.mem_map.mp ha'
    split
    · exact a.line.solid_act action (hq a ha)
    · exact hq a ha
  | returns =>
    obtain ⟨a, ha, rfl⟩ := List.mem_map.mp ha'
    exact hq a ha

/-- What has arrived for a session can be read, whatever a label changes of it. -/
theorem readable_change {place : Nat} {session session' : Session}
    (h : Session.Change c s place session label session') (hs : session.Readable c.session) :
    session'.Readable c.session := by
  cases h with
  | nothing => exact hs
  | client action =>
    refine ⟨fun d => ?_, hs.sound⟩
    cases d with
    | clientToBackend => exact Duplex.solid_act _ action (hs.solid .clientToBackend)
    | backendToClient => exact hs.solid .backendToClient
  | backend action =>
    refine ⟨fun d => ?_, hs.sound⟩
    cases d with
    | clientToBackend => exact hs.solid .clientToBackend
    | backendToClient => exact Duplex.solid_act _ action (hs.solid .backendToClient)
  | leaves => exact ⟨hs.solid, hs.sound⟩
  | polls hp =>
    obtain ⟨-, ⟨-, rfl⟩ | ⟨-, hstep⟩⟩ := Session.poll_cases hp
    · refine ⟨fun d => ?_, fun x hx => ?_⟩
      · exact (Wires.sourceOf_release _ d) ▸ hs.solid d
      · cases hx
    · exact hs.step hstep

theorem Readable.step (s s' : Server) (label : Label) (hstep : Step c s label s')
    (h : Readable c s) : Readable c s' where
  queue := hstep.solid_queue h.queue
  sessions session' hmem := by
    obtain ⟨place, hplace⟩ := List.getElem?_of_mem hmem
    rcases hstep.session_cases hplace with ⟨session, hn, hchange⟩ | ⟨a, rest, -, hq, -, rfl⟩
    · exact readable_change hchange (h.sessions session (List.mem_of_getElem? hn))
    · refine ⟨fun d => ?_, fun x hx => ?_⟩
      · cases d with
        | clientToBackend => exact h.queue a (by rw [hq]; exact List.mem_cons_self)
        | backendToClient => exact fun piece hpiece => absurd hpiece List.not_mem_nil
      · cases hx

/-- **What has arrived can be read, at every moment of every run.** -/
theorem readable_run (c : ServerSettings) (labels : List Label) :
    Readable c ((start c).run c labels) := by
  refine run_induct Readable.step ⟨fun a ha => ?_, fun session hmem => ?_⟩ labels
  · cases ha
  · cases hmem

end Server

/-! ## 2. Requests as they begin -/

namespace Session

variable {c : SessionSettings} {now : Nat} {t : Turn} {s s' : Session}

/-- **An exchange begins with the first bytes**, which are no more than the first read returns. -/
theorem Step.exchange_of_priming (h : Step c now t s s') {deadline : Nat} {x : Exchange}
    (hs : s.stage = .priming deadline) (hx : s'.stage = .exchange x) :
    ∃ opening, opening.length ≤ c.sniff ∧ s'.route = some ⟨opening, .http⟩ ∧
      x = .start c.gateway now opening := by
  cases h with
  | dispatched _ hne h =>
    rename_i deadline' opening source _
    have hlength := Source.length_await_le h
    by_cases hb : (c.classify opening).backend = .httpLogin
    · have hhttp : c.classify opening = .http := Protocol.backend_eq_httpLogin.mp hb
      rw [dispatch_http c _ hb] at hx ⊢
      rw [stage_enter] at hx
      cases hx
      refine ⟨opening, hlength, ?_, rfl⟩
      rw [route_enter, ← hhttp]
      rfl
    · rw [dispatch_of_ne_http c _ rfl hb, stage_enter] at hx
      cases hx
  | silent | unreadable | noData => cases hx
  | begins hp | exchanged hp | exchangeEnded hp | connected hp | refused hp | unanswered hp
  | replayedNothing hp | replayFault hp | replayed hp | relayed hp | relayEnded hp =>
    rw [hs] at hp
    cases hp

end Session

/-- **A request that fits is not refused for its length** before more of it is read. -/
theorem start_of_fits {g : GatewaySettings} {opening : Bytes} (h : opening.length ≤ g.maxMessage)
    (now : Nat) :
    ∃ buffer, MessageBuffer.ofInitial g.maxMessage opening = .ok buffer ∧
      Exchange.start g now opening = .ofIntake g now (.ofBuffer buffer) ∧
      ∀ limit, Exchange.start g now opening ≠
        .answer (.rejected (.message (.tooLarge limit))) := by
  have hbuffer : MessageBuffer.ofInitial g.maxMessage opening =
      .ok (.whole g.maxMessage opening) := by
    rw [MessageBuffer.ofInitial_eq, if_neg (Nat.not_lt_of_le h)]
  have hstart : Exchange.start g now opening =
      .ofIntake g now (.ofBuffer (.whole g.maxMessage opening)) := by
    unfold Exchange.start Intake.start
    rw [hbuffer]
    rfl
  refine ⟨_, hbuffer, hstart, fun limit hanswer => ?_⟩
  rw [hstart] at hanswer
  have hrefusal : (Intake.ofExtended (.ok (.whole g.maxMessage opening))).refusal? =
      some (.message (.tooLarge limit)) := Exchange.refusal_of_ofIntake hanswer
  rcases Intake.refusal_cases hrefusal with ⟨error, he, hwhere⟩ | he | ⟨_, _, he⟩
  · cases he
    rcases hwhere with he | ⟨buffer, hb, hf⟩
    · cases he
    · cases hb
      rw [Http.framing_whole] at hf
      obtain ⟨text, he⟩ := (Http.framingOf_eq_error_iff.mp hf).invalid
      cases he
  · cases he
  · cases he

/-! ## 3. What validation is for -/

/-- **Settings that were validated are enough.** On every host, the metrics address and that of the
public port are never what a start fails for. And in every run of the server, at every moment, for
every session:

* a read that it is about to make has room, and returns nothing only where nothing is left to read
  and the peer has closed;
* a turn takes from its connections what such a read takes, and goes on as at the end of what is
  sent only where nothing is left to read;
* a turn that makes an exchange of it does so with first bytes that are taken in, however many the
  client has sent, so they are not refused for their length. -/
theorem validated_settings_suffice (host : Host) (settings : Settings)
    (hvalid : settings.validate = .ok settings) (labels : List Label) :
    let c := ServerSettings.ofSettings settings
    let s := (Server.start c).run c labels
    (∀ text, Startup.ofSettings host settings ≠ .failed (.metricsAddress text)) ∧
      (∀ text, Listener.opening host settings.listener ≠ .failed (.invalidAddress text)) ∧
      ∀ (place : Nat) (session : Session), s.sessions[place]? = some session →
        (∀ d max, session.Reads c.session d max → 1 ≤ max ∧ ∀ source,
          (session.wires.sourceOf d).read max = (some (.bytes []), source) →
            (session.wires.sourceOf d).unread = [] ∧
              (session.wires.sourceOf d).ending = some .closed) ∧
        ∀ t next, session.poll c.session s.now s.registry.cancelled t = some next →
          (∀ d, next.wires.sourceOf d = session.wires.sourceOf d ∨
            ∃ max, session.Reads c.session d max ∧
              next.wires.sourceOf d = ((session.wires.sourceOf d).read max).2) ∧
          (∀ d, session.TakesEnd next d → (session.wires.sourceOf d).unread = []) ∧
          ∀ deadline x, session.stage = .priming deadline → next.stage = .exchange x →
            ∃ opening buffer, next.route = some ⟨opening, .http⟩ ∧
              MessageBuffer.ofInitial settings.buffers.maxHttpMessage opening = .ok buffer ∧
              x = .ofIntake c.session.gateway s.now (.ofBuffer buffer) ∧
              ∀ limit, x ≠ .answer (.rejected (.message (.tooLarge limit))) := by
  intro c s
  have hsound := Settings.sound_of_validate hvalid
  refine ⟨fun text h => ?_, fun text h => ?_, fun place session hn => ?_⟩
  · rw [ofSettings_of_sound hsound] at h
    split at h <;> cases h
  · obtain ⟨address, haddress⟩ := hsound.bindAddress
    rw [opening_of_parse host haddress] at h
    split at h
    · cases h
    · split at h <;> cases h
  have hreadable : session.Readable c.session :=
    (Server.readable_run c labels).sessions session (List.mem_of_getElem? hn)
  have hroom : ∀ d max, session.Reads c.session d max → 1 ≤ max := by
    intro d max hreads
    cases hreads with
    | first => exact Nat.le_of_succ_le hsound.sniff
    | message => exact (by decide : 1 ≤ exchangeChunk)
    | pump => exact hsound.relayChunk
  refine ⟨fun d max hreads => ⟨hroom d max hreads, fun source hr => ?_⟩, fun t next hp => ?_⟩
  · exact (hreadable.solid d).read_nil (hroom d max hreads) hr
  obtain ⟨-, ⟨-, rfl⟩ | ⟨-, hstep⟩⟩ := Session.poll_cases hp
  · refine ⟨fun d => Or.inl (Wires.sourceOf_release _ d), fun d he => ?_, fun _ _ _ hx => ?_⟩
    · cases he with
      | noData _ hs' | message _ hs' | relay _ _ hs' => cases hs'
    · cases hx
  · refine ⟨hstep.source, fun d => hstep.unread_of_takesEnd hreadable hroom,
      fun deadline x hs hx => ?_⟩
    obtain ⟨opening, hle, hroute, rfl⟩ := hstep.exchange_of_priming hs hx
    have hmessage : opening.length ≤ c.session.gateway.maxMessage :=
      Nat.le_trans hle hsound.maxHttpMessage
    obtain ⟨buffer, hbuffer, hstart, hfits⟩ := start_of_fits hmessage s.now
    exact ⟨opening, buffer, hroute, hbuffer, hstart, hfits⟩

/-- The least that validation lets be read and kept at a time. -/
def leastBuffers : Settings :=
  { buffers := { sniff := 2, relayChunk := 1, maxHttpMessage := 2 } }

/-- A client of a game session that has sent four bytes, of which two have been read. -/
def halfRead : List Label :=
  [.arrive { ip := .v4 10 0 0 1, port := 40000 }, .accept, .accept, .poll 0 ⟨.clientToBackend, none⟩,
    .client 0 (.send [200, 0, 7, 8]), .client 0 .finish, .poll 0 ⟨.clientToBackend, none⟩,
    .poll 0 ⟨.clientToBackend, some .accepted⟩, .poll 0 ⟨.clientToBackend, none⟩]

/-- With the least buffers, the session of that client does not end before the rest is read, though
the client has closed. -/
theorem validated_settings_suffice_least :
    let c := ServerSettings.ofSettings leastBuffers
    let s := (Server.start c).run c halfRead
    leastBuffers.validate = .ok leastBuffers ∧ ∃ session, s.sessions[0]? = some session ∧
      (session.wires.sourceOf .clientToBackend).ending = some .closed ∧
      (session.wires.sourceOf .clientToBackend).unread = [7, 8] ∧
      ∀ t next, session.poll c.session s.now s.registry.cancelled t = some next →
        ¬ session.TakesEnd next .clientToBackend := by
  have hvalid : leastBuffers.validate = .ok leastBuffers :=
    Settings.validate_of_isEmpty (by decide +kernel)
  obtain ⟨-, -, hsessions⟩ := validated_settings_suffice {} leastBuffers hvalid halfRead
  refine ⟨hvalid, ?_⟩
  -- the run is named, so that it is not computed where two states of it are compared
  generalize hs : (Server.start (.ofSettings leastBuffers)).run (.ofSettings leastBuffers)
    halfRead = s at hsessions ⊢
  have hrun : (s.sessions[0]?).map (fun session => ((session.wires.sourceOf .clientToBackend).ending,
      (session.wires.sourceOf .clientToBackend).unread)) = some (some .closed, [7, 8]) := by
    rw [← hs]
    decide +kernel
  obtain ⟨session, hn, hsession⟩ := Option.map_eq_some_iff.mp hrun
  simp only [Prod.mk.injEq] at hsession
  obtain ⟨hending, hunread⟩ := hsession
  obtain ⟨-, hturns⟩ := hsessions 0 session hn
  refine ⟨session, hn, hending, hunread, fun t next hp he => ?_⟩
  obtain ⟨-, hend, -⟩ := hturns t next hp
  rw [hend _ he] at hunread
  cases hunread

end TrafficRouter
