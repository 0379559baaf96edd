import TrafficRouter.Proofs.Relay.Ending
import TrafficRouter.Proofs.Server.Runs

/-!
# What relays report and count

A relay that ends by itself reports what was flushed each way, and that is what is counted, once; one
that is let go of before counts nothing, whether it stands by itself or in a session.

* `SessionStage.relayed`: what the end of a session says of its relay; `Session.total_relayBytes`: a
  session has counted that and nothing else;
* `relay_accounts`: the ending of relays.

NOT here: the bytes themselves (`relay_content`).
-/

namespace TrafficRouter

/-! ## 1. Sessions -/

/-- What the end of a session says of its relay. -/
def SessionStage.relayed : SessionStage → Direction → Nat
  | .ended (.relayed stats) => stats.moved
  | .ended (.failed (.relay error)) => error.moved
  | _ => fun _ => 0

/-- No exchange counts bytes of a relay. -/
theorem Exchange.Step.total_relayBytes {g : GatewaySettings} {now : Nat} {dial : Option DialAnswer}
    {x x' : Exchange} {w w' : Wires} {ledger : Ledger} (h : Exchange.Step g now dial x w x' w' ledger)
    (d : Direction) : ledger.total (.relayBytes d) = 0 := by
  cases h with
  | read | connected | sentNothing | sendFault | sent | collect | answerFault | closed
  | closeFault => rfl
  | refused | unanswered | answeredNothing => simp [Ledger.total]
  | answered =>
    unfold written
    split <;> simp [Ledger.total]

namespace Session

variable {c : SessionSettings} {now : Nat} {t : Turn} {s s' : Session} {d : Direction}

/-- A session that has not ended says nothing of a relay. -/
theorem relayed_of_not_isEnded (h : s.isEnded = false) : s.stage.relayed d = 0 := by
  unfold isEnded at h
  cases hs : s.stage with
  | ended how =>
    rw [hs] at h
    cases h
  | admitted | priming | exchange | dialling | replaying | relaying => rfl

/-- **A session counts what it says of its relay**, and counts it as it ends. -/
theorem Step.total_relayBytes (h : Step c now t s s') (hs : s.ledger.total (.relayBytes d) = 0) :
    s'.ledger.total (.relayBytes d) = s'.stage.relayed d := by
  cases h with
  | begins =>
    rw [ledger_enter, stage_enter]
    exact hs
  | silent | unreadable | noData | replayFault => exact hs
  | connected =>
    rw [ledger_enter, stage_enter]
    exact hs
  | replayedNothing | replayed =>
    unfold Session.replayed
    rw [ledger_enter, stage_enter]
    refine Eq.trans hs ?_
    split <;> rfl
  | dispatched =>
    rename_i deadline opening source hs' hne hread
    have hzero : ((s.on (s.wires.fromClient source)).classified c opening).ledger.total
        (.relayBytes d) = 0 := by
      show (s.ledger ++ [(Counter.classified _, 1)] : Ledger).total _ = 0
      rw [Ledger.total_append, hs]
      simp [Ledger.total]
    by_cases hb : (c.classify opening).backend = .httpLogin
    · rw [dispatch_http c _ hb, ledger_enter, stage_enter, hzero]
      rfl
    · rw [dispatch_of_ne_http c _ rfl hb, ledger_enter, stage_enter, hzero]
      rfl
  | exchanged hs' hx hstep =>
    rw [ledger_enter, stage_enter]
    show (s.ledger ++ _).total _ = 0
    rw [Ledger.total_append, hs, hstep.total_relayBytes]
  | exchangeEnded hs' hstep =>
    rename_i x result w ledger
    have hstage : (SessionStage.ended (.ofExchange result)).relayed d = 0 := by
      cases result <;> rfl
    show (s.ledger ++ _).total _ = (SessionStage.ended (.ofExchange result)).relayed d
    rw [Ledger.total_append, hs, hstep.total_relayBytes, hstage]
  | refused | unanswered =>
    show (s.ledger ++ _).total _ = 0
    rw [Ledger.total_append, hs]
    simp [Ledger.total]
  | relayed hs' hr hstep =>
    rw [ledger_enter, stage_enter]
    show (s.ledger ++ _).total _ = 0
    rw [Ledger.total_append, hs, hstep.ledger_eq.1, Relay.counted_of_no_result hr]
    rfl
  | relayEnded hs' hr hstep =>
    rename_i r r' w ledger result
    have hstage : (SessionStage.ended (.ofRelay result)).relayed d =
        RelayEnding.reported result d := by cases result <;> rfl
    show (s.ledger ++ _).total _ = (SessionStage.ended (.ofRelay result)).relayed d
    rw [Ledger.total_append, hs, hstage, hstep.ledger_eq.1, Relay.total_counted hr, Nat.zero_add]

/-- **Whatever happens to a session**, it has counted what it says of its relay. One that is told to
end counts nothing more. -/
theorem Change.total_relayBytes {c : ServerSettings} {server : Server} {place : Nat} {label : Label}
    (h : Change c server place s label s')
    (hs : s.ledger.total (.relayBytes d) = s.stage.relayed d) :
    s'.ledger.total (.relayBytes d) = s'.stage.relayed d := by
  cases h with
  | nothing | client | backend | leaves => exact hs
  | polls hp =>
    obtain ⟨hended, hcases⟩ := poll_cases hp
    have hzero : s.ledger.total (.relayBytes d) = 0 := hs.trans (relayed_of_not_isEnded hended)
    rcases hcases with ⟨-, rfl⟩ | ⟨-, hstep⟩
    · exact hzero
    · exact hstep.total_relayBytes hzero

end Session

/-- **Every session has counted what it says of its relay**, at every moment of every run. -/
theorem Server.relayBytes_run (c : ServerSettings) (labels : List Label) :
    ∀ session ∈ ((start c).run c labels).sessions, ∀ d,
      session.ledger.total (.relayBytes d) = session.stage.relayed d := by
  refine sessions_run (fun a id d => ?_) (fun s place session session' label hchange h d => ?_) labels
  · rfl
  · exact hchange.total_relayBytes (h d)

/-! ## 2. The accounts -/

/-- **How relays end and what they report**, for every chunk size, everything that both peers do and
every order of the turns.

A relay that has a result has ended as the result says, and reports and counts what was flushed each
way (`RelayRun.Ended`); while it has none, it has counted nothing; and once a pump has ended, the
next two turns bring the result, which names that pump and why it ended. Every session of every
server has counted what its end says of its relay, and so nothing where it was told to end. -/
theorem relay_accounts (chunkSize : Nat) (hsize : 1 ≤ chunkSize) :
    (∀ labels : List RelayLabel,
      let start := RelayRun.fresh chunkSize
      let r := start.run labels
      (∀ result, r.relay.result? = some result →
        r.Ended chunkSize (start.trace labels) result) ∧
        (r.relay.result? = none → ∀ d, r.ledger.total (.relayBytes d) = 0) ∧
        ∀ ending, r.relay.stage.ending? = some ending → ∀ first second, ∃ result,
          ((r.happen (.turn first)).happen (.turn second)).relay.result? = some result ∧
            RelayEnding.ofResult result = ending) ∧
      ∀ (c : ServerSettings) (labels : List Label),
        ∀ session ∈ ((Server.start c).run c labels).sessions, ∀ d,
          session.ledger.total (.relayBytes d) = session.stage.relayed d ∧
            (session.stage = .ended .cancelled → session.ledger.total (.relayBytes d) = 0) := by
  refine ⟨fun labels => ?_, fun c labels session hmem d => ?_⟩
  · intro start r
    refine ⟨fun result hr => ?_, fun hr d => ?_, fun ending he => ?_⟩
    · exact RelayRun.ended_of_result hsize labels hr
    · have hledger : r.ledger = r.relay.counted := (RelayRun.course_run chunkSize labels).ledger
      rw [hledger, Relay.counted_of_no_result hr]
      rfl
    · exact RelayRun.result_of_ending he
  · have htotal := Server.relayBytes_run c labels session hmem d
    refine ⟨htotal, fun hs => ?_⟩
    rw [htotal, hs]
    rfl

/-- A client sends five bytes and closes, while the service, which has sent two, takes three bytes at
a time. -/
def closedRelay : List RelayLabel :=
  [.client (.send [1, 2, 3, 4, 5]), .client .finish, .backend (.send [6, 7]),
    .backend (.govern (some 3) .block none (some .connectionReset)), .turn .clientToBackend,
    .turn .backendToClient, .turn .clientToBackend, .turn .clientToBackend, .turn .clientToBackend,
    .turn .backendToClient, .turn .clientToBackend, .turn .clientToBackend, .turn .clientToBackend,
    .turn .clientToBackend, .turn .clientToBackend, .turn .clientToBackend]

/-- All five are reported one way, and none the other, where the two were not flushed yet. -/
theorem relay_accounts_closed :
    let start := RelayRun.fresh 4
    let r := start.run closedRelay
    (1 ≤ 4) ∧ r.relay.result? = some (.ok ⟨5, 0, .clientToBackend⟩) ∧
      r.wires.backend.sink.delivered = [1, 2, 3, 4, 5] ∧ r.wires.client.sink.delivered = [6, 7] ∧
      r.Ended 4 (start.trace closedRelay) (.ok ⟨5, 0, .clientToBackend⟩) := by
  intro start r
  have hend : r.relay.stage = .ended ⟨.clientToBackend, none⟩ ∧ r.relay.up.moved = 5 ∧
      r.relay.down.moved = 0 := by decide +kernel
  have hresult : r.relay.result? = some (.ok ⟨5, 0, .clientToBackend⟩) := by
    obtain ⟨hstage, hup, hdown⟩ := hend
    unfold Relay.result?
    rw [hstage, hup, hdown]
  obtain ⟨hrelay, -⟩ := relay_accounts 4 (by decide)
  obtain ⟨hended, -, -⟩ := hrelay closedRelay
  exact ⟨by decide, hresult, by decide +kernel, by decide +kernel, hended _ hresult⟩

end TrafficRouter
