import TrafficRouter.Proofs.Gateway.Tally
import TrafficRouter.Proofs.Relay.Ending
import TrafficRouter.Proofs.Session.Steps

/-!
# What a session counts

A session counts that it was admitted; with its first bytes, what they are; and then what its
service makes of it: of an exchange what its verdict says, of any other that the service could not
be connected to, or both ways through the relay as that ends. Nothing of this is counted twice, and
two of the last never together, wherever the session is cut off.

* `Session.Counts`: what is counted behind the first bytes, by how far the session is;
* `Session.Tally`: the invariant; `Tally.step`, `Tally.finish`: every step keeps it, and so does the
  end that a session is told to come to.

NOT here: how many bytes a relay counts (`Volume`).
-/

namespace TrafficRouter

/-- Whether a session at a stage goes the way of its first bytes. -/
def SessionStage.isRouted : SessionStage → Bool
  | .exchange _ | .dialling .. | .replaying _ | .relaying _ => true
  | .admitted | .priming _ | .ended _ => false

/-- The verdict at a stage that knows one. -/
def SessionStage.verdict? : SessionStage → Option Verdict
  | .exchange x => x.verdict?
  | .ended (.answered verdict) => some verdict
  | _ => none

/-- Whether an exchange that a session is in has come to its verdict, or the session to its end. -/
def SessionStage.isDecided : SessionStage → Bool
  | .exchange x => x.isDecided
  | .ended _ => true
  | .admitted | .priming _ | .dialling .. | .replaying _ | .relaying _ => false

/-- What the first bytes of a session have counted. -/
def Route.counts (route : Route) : Ledger :=
  [(.connections, 1), (.classified route.protocol, 1)]

namespace Session

/-! ## 1. The invariant -/

/-- **What is counted behind the first bytes** that are for the given service, by how far the
session is. -/
inductive Counts (backend : Backend) : SessionStage → Ledger → Prop where
  | exchange {x : Exchange} {ledger : Ledger} (hb : backend = .httpLogin) (h : x.Tally ledger) :
      Counts backend (.exchange x) ledger
  | dialling {opening : Bytes} {deadline : Nat} (hb : backend ≠ .httpLogin) :
      Counts backend (.dialling backend opening deadline) []
  | replaying {rest : Bytes} (hb : backend ≠ .httpLogin) : Counts backend (.replaying rest) []
  | relaying {r : Relay} (hb : backend ≠ .httpLogin) : Counts backend (.relaying r) []
  | nothing {how : SessionEnd} (h : ∀ verdict, how ≠ .answered verdict) :
      Counts backend (.ended how) []
  | decided {how : SessionEnd} {verdict : Verdict} {written : Bool} (hb : backend = .httpLogin)
      (h : ∀ answered, how = .answered answered → answered = verdict) :
      Counts backend (.ended how) (verdict.counts written)
  | unreached {how : SessionEnd} (hb : backend ≠ .httpLogin)
      (h : ∀ verdict, how ≠ .answered verdict) :
      Counts backend (.ended how) [(.connectFailures backend, 1)]
  | relayed {how : SessionEnd} {up down : Nat} (hb : backend ≠ .httpLogin)
      (h : ∀ verdict, how ≠ .answered verdict) :
      Counts backend (.ended how)
        [(.relayBytes .clientToBackend, up), (.relayBytes .backendToClient, down)]

/-- **What a session has counted**, by its route and how far it is. -/
inductive Tally (route? : Option Route) (stage : SessionStage) (ledger : Ledger) : Prop where
  | unrouted (hr : route? = none) (hs : stage.isRouted = false) (hl : ledger = [(.connections, 1)])
  | routed {route : Route} {more : Ledger} (hr : route? = some route)
      (hl : ledger = route.counts ++ more) (h : Counts route.protocol.backend stage more)

variable {c : SessionSettings} {now : Nat} {t : Turn} {s s' : Session} {backend : Backend}
  {route? : Option Route} {stage : SessionStage} {ledger : Ledger}

/-- A session on its way has a route. -/
theorem Tally.of_isRouted (h : Tally route? stage ledger) {stage' : SessionStage} (hs : stage = stage')
    (hr : stage'.isRouted = true) : ∃ route more, route? = some route ∧
      ledger = route.counts ++ more ∧ Counts route.protocol.backend stage' more := by
  subst hs
  cases h with
  | unrouted _ hs =>
    rw [hr] at hs
    cases hs
  | routed hr hl h => exact ⟨_, _, hr, hl, h⟩

/-- A session that waits for its first bytes has none. -/
theorem Tally.of_unread (h : Tally route? stage ledger)
    (hs : stage = .admitted ∨ ∃ deadline, stage = .priming deadline) :
    route? = none ∧ ledger = [(.connections, 1)] := by
  cases h with
  | unrouted hr _ hl => exact ⟨hr, hl⟩
  | routed hr hl h => rcases hs with rfl | ⟨deadline, rfl⟩ <;> cases h

/-! ## 2. Ends -/

/-- **A session that is cut off** counts no more than it had. -/
theorem Counts.finish {how : SessionEnd} (h : Counts backend stage ledger)
    (hhow : ∀ verdict, how ≠ .answered verdict) : Counts backend (.ended how) ledger := by
  have hno {verdict : Verdict} (answered : Verdict) (e : how = .answered answered) :
      answered = verdict := absurd e (hhow answered)
  cases h with
  | exchange hb h =>
    rcases h.counts with ⟨-, rfl⟩ | ⟨verdict, written, rfl, -⟩
    · exact .nothing hhow
    · exact .decided hb hno
  | dialling | replaying | relaying | nothing => exact .nothing hhow
  | decided hb => exact .decided hb hno
  | unreached hb => exact .unreached hb hhow
  | relayed hb => exact .relayed hb hhow

theorem Tally.finish {how : SessionEnd} (h : Tally route? stage ledger)
    (hhow : ∀ verdict, how ≠ .answered verdict) : Tally route? (.ended how) ledger := by
  cases h with
  | unrouted hr _ hl => exact .unrouted hr rfl hl
  | routed hr hl h => exact .routed hr hl (h.finish hhow)

/-! ## 3. Steps -/

/-- **The first bytes** are counted for what they are. -/
theorem tally_dispatch {s : Session} (hl : s.ledger = [(.connections, 1)]) (opening : Bytes) :
    Tally (s.dispatch c now opening).route (s.dispatch c now opening).stage
      (s.dispatch c now opening).ledger := by
  have hledger : (s.classified c opening).ledger =
      Route.counts ⟨opening, c.classify opening⟩ ++ [] := by
    show s.ledger ++ _ = _
    rw [hl]
    rfl
  by_cases hb : (c.classify opening).backend = .httpLogin
  · rw [dispatch_http c s hb, route_enter, stage_enter, ledger_enter]
    exact .routed rfl hledger (.exchange hb (Exchange.tally_ofIntake _ _ _))
  · rw [dispatch_of_ne_http c s rfl hb, route_enter, stage_enter, ledger_enter]
    exact .routed rfl hledger (.dialling hb)

/-- A connected session that goes on has counted nothing more. -/
theorem tally_enter {route : Route} (hr : s.route = some route) (hl : s.ledger = route.counts ++ [])
    (h : Counts route.protocol.backend stage []) :
    Tally (s.enter c stage).route (s.enter c stage).stage (s.enter c stage).ledger := by
  rw [route_enter, stage_enter, ledger_enter]
  exact .routed hr hl h

theorem tally_replayed {route : Route} (hr : s.route = some route)
    (hl : s.ledger = route.counts ++ []) (hb : route.protocol.backend ≠ .httpLogin) (rest : Bytes) :
    Tally (s.replayed c rest).route (s.replayed c rest).stage (s.replayed c rest).ledger := by
  refine tally_enter hr hl ?_
  split
  · exact .relaying hb
  · exact .replaying hb

/-- A relay that ends is counted both ways. -/
theorem tally_relay {r : Relay} {result : Except RelayError RelayStats}
    (h : r.result? = some result) (hb : backend ≠ .httpLogin) :
    Counts backend (.ended (.ofRelay result)) r.counted := by
  obtain ⟨hs, -⟩ := Relay.result?_cases h
  unfold Relay.counted
  rw [hs]
  refine .relayed hb fun verdict => ?_
  cases result <;> exact fun e => nomatch e

/-- **Every step counts what its session then has counted.** -/
theorem Tally.step (h : Tally s.route s.stage s.ledger) (hstep : Step c now t s s') :
    Tally s'.route s'.stage s'.ledger := by
  cases hstep with
  | begins hs =>
    obtain ⟨hr, hl⟩ := h.of_unread (Or.inl hs)
    rw [route_enter, stage_enter, ledger_enter]
    exact .unrouted hr rfl hl
  | silent hs | unreadable hs | noData hs => exact h.finish fun _ e => nomatch e
  | dispatched hs =>
    refine tally_dispatch ?_ _
    exact (h.of_unread (Or.inr ⟨_, hs⟩)).2
  | exchanged hs hne hx =>
    obtain ⟨route, more, hr, hl, hm⟩ := h.of_isRouted hs rfl
    cases hm with
    | exchange hb htally =>
      rw [route_enter, stage_enter, ledger_enter]
      refine .routed hr ?_ (.exchange hb (hx.tally htally))
      show s.ledger ++ _ = _
      rw [hl, List.append_assoc]
  | exchangeEnded hs hx =>
    rename_i x result w ledger
    obtain ⟨route, more, hr, hl, hm⟩ := h.of_isRouted hs rfl
    cases hm with
    | exchange hb htally =>
      have htally' := hx.tally htally
      have hledger : s.ledger ++ ledger = route.counts ++ (more ++ ledger) := by
        rw [hl, List.append_assoc]
      rcases htally'.counts with ⟨hd, -⟩ | ⟨verdict, written, hcounts, hv⟩
      · cases hd
      · refine .routed hr hledger ?_
        rw [hcounts]
        refine .decided hb fun answered e => hv answered ?_
        cases result with
        | ok verdict' => exact congrArg some (SessionEnd.answered.inj e)
        | error fault => cases e
  | connected hs =>
    obtain ⟨route, more, hr, hl, hm⟩ := h.of_isRouted hs rfl
    cases hm with
    | dialling hb => exact tally_enter hr hl (.replaying hb)
  | refused hs | unanswered hs =>
    obtain ⟨route, more, hr, hl, hm⟩ := h.of_isRouted hs rfl
    cases hm with
    | dialling hb =>
      refine .routed hr ?_ (.unreached hb fun _ e => nomatch e)
      show s.ledger ++ _ = _
      rw [hl, List.append_nil]
  | replayedNothing hs =>
    obtain ⟨route, more, hr, hl, hm⟩ := h.of_isRouted hs rfl
    cases hm with
    | replaying hb => exact tally_replayed hr hl hb []
  | replayed hs =>
    obtain ⟨route, more, hr, hl, hm⟩ := h.of_isRouted hs rfl
    cases hm with
    | replaying hb =>
      refine tally_replayed ?_ ?_ hb _
      · exact hr
      · exact hl
  | replayFault hs => exact h.finish fun _ e => nomatch e
  | relayed hs hres hrelay =>
    obtain ⟨route, more, hr, hl, hm⟩ := h.of_isRouted hs rfl
    cases hm with
    | relaying hb =>
      refine tally_enter hr ?_ (.relaying hb)
      show s.ledger ++ _ = _
      rw [hl, hrelay.ledger_eq.1, Relay.counted_of_no_result hres, List.append_nil]
  | relayEnded hs hres hrelay =>
    obtain ⟨route, more, hr, hl, hm⟩ := h.of_isRouted hs rfl
    cases hm with
    | relaying hb =>
      refine .routed hr ?_ (tally_relay hres hb)
      show s.ledger ++ _ = _
      rw [hl, hrelay.ledger_eq.1, List.append_nil]

end Session

/-! ## 4. Counters -/

/-- **What the counters of a session say**, by the protocol of its first bytes if there were any. -/
structure Ledger.Account (protocol? : Option Protocol) (l : Ledger) : Prop where
  connections : l.total .connections = 1
  classified : l.sum .classified = if protocol?.isSome then 1 else 0
  own : ∀ protocol, protocol? = some protocol → l.total (.classified protocol) = 1
  /-- At most one answer, and only of a session classified as HTTP. -/
  responses : l.sum .httpResponses ≤ if protocol? = some .http then 1 else 0
  failures : l.sum .connectFailures ≤ 1
  failures_own : ∀ backend, l.total (.connectFailures backend) ≠ 0 →
    protocol?.map (·.backend) = some backend
  unreached : ∀ backend, backend ≠ .httpLogin → l.total (.connectFailures backend) ≠ 0 →
    l.sum .relayBytes = 0
  /-- Without its service, HTTP is answered with an error. -/
  unanswered : l.total (.connectFailures .httpLogin) ≠ 0 →
    ∀ status, l.total (.httpResponses status) ≠ 0 → status = 500
  relayed : l.sum .relayBytes ≠ 0 → ∃ protocol, protocol? = some protocol ∧ protocol ≠ .http

namespace Session

variable {route? : Option Route} {stage : SessionStage} {ledger : Ledger} {route : Route}

theorem account_unrouted : Ledger.Account none [(.connections, 1)] := by
  constructor <;> simp [Ledger.sum, Ledger.total, Counter.metric]

theorem account_counts (route : Route) :
    Ledger.Account (some route.protocol) (route.counts ++ []) := by
  constructor <;> simp [Route.counts, Ledger.sum, Ledger.total, Counter.metric]

theorem account_unreached (hb : route.protocol.backend ≠ .httpLogin) :
    Ledger.Account (some route.protocol)
      (route.counts ++ [(.connectFailures route.protocol.backend, 1)]) := by
  constructor <;> simp [Route.counts, Ledger.sum, Ledger.total, Counter.metric, hb]

theorem account_relayed (hb : route.protocol.backend ≠ .httpLogin) (up down : Nat) :
    Ledger.Account (some route.protocol) (route.counts ++
      [(.relayBytes .clientToBackend, up), (.relayBytes .backendToClient, down)]) := by
  have hp := mt Protocol.backend_eq_httpLogin.mpr hb
  constructor <;> simp [Route.counts, Ledger.sum, Ledger.total, Counter.metric, hp]

/-- A verdict adds at most one answer and one failure; with the failure the answer is an error. -/
theorem account_decided (hb : route.protocol.backend = .httpLogin) (verdict : Verdict)
    (written : Bool) :
    Ledger.Account (some route.protocol) (route.counts ++ verdict.counts written) := by
  have hp := Protocol.backend_eq_httpLogin.mp hb
  unfold Verdict.counts
  cases hu : verdict.isUnreached with
  | false =>
    cases written <;> constructor <;>
      simp [Route.counts, Ledger.sum, Ledger.total, Counter.metric, hp]
  | true =>
    rw [Verdict.status_of_isUnreached hu]
    cases written <;> constructor <;>
      simp [Route.counts, Ledger.sum, Ledger.total, Counter.metric, hp, Protocol.backend]

/-- **What a session has counted gives the account of its protocol.** -/
theorem Tally.account (h : Tally route? stage ledger) :
    ledger.Account (route?.map (·.protocol)) := by
  cases h with
  | unrouted hr _ hl =>
    rw [hr, hl]
    exact account_unrouted
  | @routed route more hr hl h =>
    rw [hr, hl]
    cases h with
    | exchange hb h =>
      rcases h.counts with ⟨-, rfl⟩ | ⟨verdict, written, rfl, -⟩
      · exact account_counts route
      · exact account_decided hb verdict written
    | dialling | replaying | relaying | nothing => exact account_counts route
    | decided hb => exact account_decided hb _ _
    | unreached hb => exact account_unreached hb
    | relayed hb => exact account_relayed hb _ _

/-! ## 5. Behind a verdict -/

variable {c : SessionSettings} {now : Nat} {t : Turn} {s s' : Session} {verdict : Verdict}

theorem verdict_of_ended {how : SessionEnd}
    (h : (SessionStage.ended how).verdict? = some verdict) : how = .answered verdict := by
  cases how with
  | answered answered => exact congrArg SessionEnd.answered (Option.some.inj h)
  | noData | silent | cancelled | relayed | failed => cases h

theorem isDecided_of_verdict (h : stage.verdict? = some verdict) : stage.isDecided = true := by
  cases stage with
  | exchange x =>
    cases x with
    | answering | closing | ended => rfl
    | intake | dialling | sending | collecting => cases h
  | ended => rfl
  | admitted | priming | dialling | replaying | relaying => cases h

/-- A verdict that is not that the service could not be connected to counts no such failure. -/
theorem total_counts_of_reached {written : Bool} (h : verdict.isUnreached = false) :
    (verdict.counts written).total (.connectFailures .httpLogin) = 0 := by
  unfold Verdict.counts
  rw [h]
  cases written <;> simp [Ledger.total]

/-- **A session with a response to forward has counted no failure to connect.** -/
theorem Tally.total_of_forwarded (h : Tally route? stage ledger) {response : Bytes}
    (hv : stage.verdict? = some (.forwarded response)) :
    ledger.total (.connectFailures .httpLogin) = 0 := by
  cases h with
  | unrouted _ _ hl =>
    rw [hl]
    simp [Ledger.total]
  | @routed route more _ hl h =>
    have hmore : more.total (.connectFailures .httpLogin) = 0 := by
      cases h with
      | exchange _ h =>
        rcases h.counts with ⟨-, rfl⟩ | ⟨verdict, written, rfl, hverdict⟩
        · rfl
        · obtain rfl := hverdict _ hv
          exact total_counts_of_reached rfl
      | decided _ h =>
        obtain rfl := h _ (verdict_of_ended hv)
        exact total_counts_of_reached rfl
      | unreached hb => simp [Ledger.total, hb]
      | dialling | replaying | relaying | nothing => rfl
      | relayed => simp [Ledger.total]
    rw [hl, Ledger.total_append, hmore]
    simp [Route.counts, Ledger.total]

/-- **Behind its verdict a session counts no failure to connect**, with any step. -/
theorem Step.total_connectFailures (h : Step c now t s s') (hs : s.stage.isDecided = true)
    (backend : Backend) : s'.stage.isDecided = true ∧
      s'.ledger.total (.connectFailures backend) = s.ledger.total (.connectFailures backend) := by
  cases h with
  | exchanged hx _ h =>
    rw [hx] at hs
    refine ⟨?_, ?_⟩
    · rw [stage_enter]
      exact h.isDecided hs
    · rw [ledger_enter]
      show (s.ledger ++ _).total _ = _
      rw [Ledger.total_append, h.total_connectFailures hs, Nat.add_zero]
  | exchangeEnded hx h =>
    rw [hx] at hs
    refine ⟨rfl, ?_⟩
    show (s.ledger ++ _).total _ = _
    rw [Ledger.total_append, h.total_connectFailures hs, Nat.add_zero]
  | begins hp | silent hp | unreadable hp | noData hp | dispatched hp | connected hp | refused hp
  | unanswered hp | replayedNothing hp | replayFault hp | replayed hp | relayed hp
  | relayEnded hp =>
    rw [hp] at hs
    cases hs

end Session

end TrafficRouter
