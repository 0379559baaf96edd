import TrafficRouter.Proofs.Address.HostPort
import TrafficRouter.Proofs.Settings
import TrafficRouter.Proofs.Settings.Parts

/-!
# Which rules are violated

Validation lists what is wrong with settings, all of it and nothing else:

* `Violated`: the rules, one case for each way in which a setting can be wrong;
* `check_eq_some_iff`: a rule finds exactly that, and `check_congr`: in the settings that it is about
  and no others;
* `validation_exact`: settings are valid where no rule is violated, and otherwise what is listed are
  the violated rules, in the order of the sections and each of them once.

NOT here: what validated settings are good for (`Proofs.Settings`).
-/

namespace TrafficRouter

/-! ## 1. The rules -/

/-- The field that the address of a service is. -/
def Field.ofBackend : Backend → Field
  | .login => .login
  | .game => .game
  | .httpLogin => .http

/-- **What can be wrong with settings.** -/
inductive Violated (s : Settings) : Field → Problem → Prop where
  | bindAddress (h : SocketAddress.parse? s.listener.bindAddress = none) :
      Violated s .bindAddress (.notSocketAddress s.listener.bindAddress)
  | maxConnections (h : s.listener.maxConnections = 0) : Violated s .maxConnections .noSessions
  | login {problem : HostPort.Problem} (h : HostPort.Fault s.backends.login problem) :
      Violated s .login (.service s.backends.login problem)
  | game {problem : HostPort.Problem} (h : HostPort.Fault s.backends.game problem) :
      Violated s .game (.service s.backends.game problem)
  | http {problem : HostPort.Problem} (h : HostPort.Fault s.backends.http problem) :
      Violated s .http (.service s.backends.http problem)
  | loginLengthThreshold (h : s.classifier.loginLengthThreshold = 0) :
      Violated s .loginLengthThreshold .noLogin
  | initialRead (h : s.timeouts.initialRead = 0) : Violated s .initialRead .zero
  | connect (h : s.timeouts.connect = 0) : Violated s .connect .zero
  | clientRead (h : s.timeouts.clientRead = 0) : Violated s .clientRead .zero
  | backendRead (h : s.timeouts.backendRead = 0) : Violated s .backendRead .zero
  | responseIdle (h : s.timeouts.responseIdle = 0) : Violated s .responseIdle .zero
  | sniff (h : s.buffers.sniff < 2) : Violated s .sniff .belowLengthHeader
  | relayChunk (h : s.buffers.relayChunk = 0) : Violated s .relayChunk .zero
  | maxHttpMessage (h : s.buffers.maxHttpMessage < s.buffers.sniff) :
      Violated s .maxHttpMessage .belowSniff
  | metricsAddress (hon : s.observability.metricsEnabled = true)
      (h : SocketAddress.parse? s.observability.metricsAddress = none) :
      Violated s .metricsAddress (.notSocketAddress s.observability.metricsAddress)

/-- The fields in the order in which their problems are listed: listener, services, classifier,
timeouts, buffers, metrics. -/
def Field.inOrder : List Field :=
  [.bindAddress, .maxConnections, .login, .game, .http, .loginLengthThreshold, .initialRead,
    .connect, .clientRead, .backendRead, .responseIdle, .sniff, .relayChunk, .maxHttpMessage,
    .metricsAddress]

/-- The settings that the rule of a field is about. -/
def Field.settings : Field → List Setting
  | .bindAddress => [.bindAddress]
  | .maxConnections => [.maxConnections]
  | .login => [.service .login]
  | .game => [.service .game]
  | .http => [.service .httpLogin]
  | .loginLengthThreshold => [.loginLengthThreshold]
  | .initialRead => [.initialRead]
  | .connect => [.connect]
  | .clientRead => [.clientRead]
  | .backendRead => [.backendRead]
  | .responseIdle => [.responseIdle]
  | .sniff => [.sniff]
  | .relayChunk => [.relayChunk]
  | .maxHttpMessage => [.maxHttpMessage, .sniff]
  | .metricsAddress => [.metricsAddress, .metricsEnabled]

/-! ## 2. What a rule finds -/

theorem leastRule_eq_some_iff {bound value : Nat} {found problem : Problem} :
    leastRule bound value found = some problem ↔ value < bound ∧ found = problem := by
  unfold leastRule
  split <;> simp [*]

theorem socketRule_eq_some_iff {text : String} {problem : Problem} :
    socketRule text = some problem ↔
      SocketAddress.parse? text = none ∧ .notSocketAddress text = problem := by
  unfold socketRule
  cases SocketAddress.parse? text <;> simp

theorem serviceRule_eq_some_iff {text : String} {problem : Problem} :
    serviceRule text = some problem ↔
      ∃ p, HostPort.Fault text p ∧ .service text p = problem := by
  unfold serviceRule
  simp only [Option.map_eq_some_iff, HostPort.problem?_eq_some_iff]

variable {s s' : Settings} {rule : Rule} {problem : Problem}

/-- **A rule finds exactly what is wrong.** -/
theorem check_eq_some_iff (h : rule ∈ rules) :
    rule.check s = some problem ↔ Violated s rule.field problem := by
  simp only [rules, List.mem_cons, List.not_mem_nil, or_false] at h
  rcases h with rfl | rfl | rfl | rfl | rfl | rfl | rfl | rfl | rfl | rfl | rfl | rfl | rfl | rfl | rfl
  · refine socketRule_eq_some_iff.trans ⟨?_, fun h => ?_⟩
    · rintro ⟨h, rfl⟩
      exact .bindAddress h
    · cases h with
      | bindAddress h => exact ⟨h, rfl⟩
  · refine leastRule_eq_some_iff.trans ⟨?_, fun h => ?_⟩
    · rintro ⟨h, rfl⟩
      exact .maxConnections (by omega)
    · cases h with
      | maxConnections h => exact ⟨by omega, rfl⟩
  iterate 3 -- the services
    · refine serviceRule_eq_some_iff.trans ⟨?_, fun h => ?_⟩
      · rintro ⟨p, h, rfl⟩
        constructor
        exact h
      · cases h with
        | _ h => exact ⟨_, h, rfl⟩
  iterate 9 -- the rules of a least value
    · refine leastRule_eq_some_iff.trans ⟨?_, fun h => ?_⟩
      · rintro ⟨h, rfl⟩
        constructor
        omega
      · cases h
        exact ⟨by omega, rfl⟩
  · show (if s.observability.metricsEnabled then socketRule s.observability.metricsAddress
      else none) = some problem ↔ Violated s .metricsAddress problem
    split
    · next hon =>
      refine socketRule_eq_some_iff.trans ⟨?_, fun h => ?_⟩
      · rintro ⟨h, rfl⟩
        exact .metricsAddress hon h
      · cases h with
        | metricsAddress _ h => exact ⟨h, rfl⟩
    · next hoff =>
      constructor
      · intro h
        cases h
      · intro h
        cases h with
        | metricsAddress hon => exact absurd hon hoff

/-- **A rule looks at the settings of its field** and no others. -/
theorem check_congr (h : rule ∈ rules) (hs : ∀ k ∈ rule.field.settings, s'.get k = s.get k) :
    rule.check s' = rule.check s := by
  simp only [rules, List.mem_cons, List.not_mem_nil, or_false] at h
  rcases h with rfl | rfl | rfl | rfl | rfl | rfl | rfl | rfl | rfl | rfl | rfl | rfl | rfl | rfl | rfl
  all_goals
    simp only [Field.settings, List.forall_mem_cons, List.not_mem_nil, false_implies, implies_true,
      and_true, Settings.get, BackendSettings.address, Datum.text.injEq, Datum.number.injEq,
      Datum.flag.injEq] at hs
    simp only [hs]

/-! ## 3. What is listed -/

/-- Every rule is of a field, in the order of the fields. -/
theorem map_field_rules : rules.map Rule.field = Field.inOrder := rfl

/-- Every violation that there can be is one of a rule. -/
theorem Violated.exists_rule {field : Field} (h : Violated s field problem) :
    ∃ rule ∈ rules, rule.field = field := by
  have hmem : field ∈ rules.map Rule.field := by
    rw [map_field_rules]
    cases h <;> decide
  exact List.mem_map.mp hmem

/-- **What is listed is what is violated.** -/
theorem mem_violations_iff {v : Violation} :
    v ∈ s.violations ↔ Violated s v.field v.problem := by
  unfold Settings.violations
  rw [List.mem_filterMap]
  constructor
  · rintro ⟨rule, hrule, hv⟩
    obtain ⟨problem, hcheck, rfl⟩ := Option.map_eq_some_iff.mp hv
    exact (check_eq_some_iff hrule).mp hcheck
  · intro h
    obtain ⟨rule, hrule, hfield⟩ := h.exists_rule
    rw [← hfield] at h
    refine ⟨rule, hrule, Option.map_eq_some_iff.mpr ⟨v.problem, (check_eq_some_iff hrule).mpr h, ?_⟩⟩
    rw [hfield]

/-- **It is listed in the order of the fields**, each of them at most once. -/
theorem violations_inOrder (s : Settings) :
    (s.violations.map (·.field)).Sublist Field.inOrder := by
  have hsub (rs : List Rule) :
      ((rs.filterMap (Rule.violation? s)).map (·.field)).Sublist (rs.map Rule.field) := by
    induction rs with
    | nil => exact List.Sublist.refl _
    | cons rule rs ih =>
      rw [List.filterMap_cons, List.map_cons]
      unfold Rule.violation? at ih ⊢
      cases rule.check s with
      | none => exact ih.cons _
      | some problem => exact ih.cons_cons _
  rw [← map_field_rules]
  exact hsub rules

theorem nodup_paths (s : Settings) : (s.violations.map (·.field.path)).Nodup := by
  have hpaths : (Field.inOrder.map Field.path).Nodup := by decide
  have hsub := ((violations_inOrder s).map Field.path).nodup hpaths
  rwa [List.map_map] at hsub

/-- **A change is seen by the rules that are about what was changed.** -/
theorem violations_of_change {changed : Setting} (h : ∀ k, k ≠ changed → s'.get k = s.get k) :
    s'.violations.filter (changed ∉ ·.field.settings) =
      s.violations.filter (changed ∉ ·.field.settings) := by
  unfold Settings.violations
  rw [List.filter_filterMap, List.filter_filterMap]
  refine List.filterMap_congr fun rule hrule => ?_
  by_cases hmem : changed ∈ rule.field.settings
  · have hout (t : Settings) :
        (rule.violation? t).filter (changed ∉ ·.field.settings) = none := by
      unfold Rule.violation?
      cases rule.check t <;> simp [Option.filter, hmem]
    rw [hout, hout]
  · unfold Rule.violation?
    rw [check_congr hrule fun k hk => h k fun e => hmem (e ▸ hk)]

/-- What is wrong with the address of a service, whichever it is. -/
theorem violated_ofBackend_iff {backend : Backend} :
    Violated s (.ofBackend backend) problem ↔
      ∃ p, HostPort.Fault (s.backends.address backend) p ∧
        problem = .service (s.backends.address backend) p := by
  cases backend with
  | login => exact ⟨fun | .login h => ⟨_, h, rfl⟩, fun ⟨_, h, e⟩ => e ▸ .login h⟩
  | game => exact ⟨fun | .game h => ⟨_, h, rfl⟩, fun ⟨_, h, e⟩ => e ▸ .game h⟩
  | httpLogin => exact ⟨fun | .http h => ⟨_, h, rfl⟩, fun ⟨_, h, e⟩ => e ▸ .http h⟩

/-- **The address of a service is listed unless it is a host and a port above zero.** -/
theorem no_service_violation_iff {backend : Backend} :
    (∀ problem, ¬ Violated s (.ofBackend backend) problem) ↔
      ∃ host port n, s.backends.address backend = HostPort.join host port ∧ host ≠ "" ∧
        HostPort.PortText port n ∧ 1 ≤ n ∧ n ≤ Numeral.maxWord16 := by
  rw [← HostPort.problem?_eq_none_iff, Option.eq_none_iff_forall_ne_some]
  constructor
  · intro h p hp
    exact h _ (violated_ofBackend_iff.mpr ⟨p, HostPort.problem?_eq_some_iff.mp hp, rfl⟩)
  · intro h problem hv
    obtain ⟨p, hfault, -⟩ := violated_ofBackend_iff.mp hv
    exact h p (HostPort.problem?_eq_some_iff.mpr hfault)

/-! ## 4. Validation -/

/-- Settings are valid, or all that is wrong with them is listed. -/
theorem validate_cases (s : Settings) :
    s.violations = [] ∧ s.validate = .ok s ∨
      s.violations ≠ [] ∧ s.validate = .error s.violations := by
  unfold Settings.validate
  cases hv : s.violations with
  | nil => exact Or.inl ⟨rfl, rfl⟩
  | cons v vs => exact Or.inr ⟨List.cons_ne_nil v vs, rfl⟩

/-- **Validation lists exactly the violated rules.** Settings are valid if no rule is violated, and
otherwise all that are violated are listed: no field twice, and the fields in their order. So a
change of one setting adds and removes problems of the fields that are about it and of no other. The
address of a service is as it should be exactly if it is a host that is not empty, a colon, and
decimal digits of a value from 1 to 65535 that may stand behind a plus; otherwise it is listed with
one problem: with the value zero, with a port that is no such numeral, or without a colon or a host.
The addresses of the listener and, where there are metrics, of these are left to the reader of
socket addresses. -/
theorem validation_exact (s : Settings) :
    (s.validate = .ok s ↔ ∀ field problem, ¬ Violated s field problem) ∧
      ((∃ field problem, Violated s field problem) → s.validate = .error s.violations) ∧
      (∀ v : Violation, v ∈ s.violations ↔ Violated s v.field v.problem) ∧
      (s.violations.map (·.field)).Sublist Field.inOrder ∧
      (s.violations.map (·.field.path)).Nodup ∧
      (∀ (changed : Setting) (s' : Settings), (∀ k, k ≠ changed → s'.get k = s.get k) →
        s'.violations.filter (changed ∉ ·.field.settings) =
          s.violations.filter (changed ∉ ·.field.settings)) ∧
      ∀ backend : Backend,
        ((∀ problem, ¬ Violated s (.ofBackend backend) problem) ↔
          ∃ host port n, s.backends.address backend = host ++ ":" ++ port ∧ host ≠ "" ∧
            HostPort.PortText port n ∧ 1 ≤ n ∧ n ≤ 65535) ∧
        ∀ problem, Violated s (.ofBackend backend) problem ↔
          ∃ p, HostPort.Fault (s.backends.address backend) p ∧
            problem = .service (s.backends.address backend) p := by
  have hnone : s.violations = [] ↔ ∀ field problem, ¬ Violated s field problem := by
    rw [List.eq_nil_iff_forall_not_mem]
    refine ⟨fun h field problem hv => ?_, fun h v hv => ?_⟩
    · exact h ⟨field, problem⟩ (mem_violations_iff.mpr hv)
    · exact h v.field v.problem (mem_violations_iff.mp hv)
  refine ⟨?_, ?_, fun v => mem_violations_iff, violations_inOrder s, nodup_paths s,
    fun changed s' h => violations_of_change h,
    fun backend => ⟨no_service_violation_iff, fun problem => violated_ofBackend_iff⟩⟩
  · rw [← hnone]
    rcases validate_cases s with ⟨hempty, hok⟩ | ⟨hne, herror⟩
    · exact iff_of_true hok hempty
    · rw [herror]
      exact iff_of_false nofun hne
  · rintro ⟨field, problem, hv⟩
    rcases validate_cases s with ⟨hempty, -⟩ | ⟨-, herror⟩
    · exact absurd hv (hnone.mp hempty field problem)
    · exact herror

/-- Four settings that make no sense are all listed. -/
example :
    let s : Settings :=
      { backends := { login := "localhost", game := "game.example:0" }
        timeouts := { connect := 0 }
        buffers := { sniff := 1 } }
    s.violations.map (·.field) = [.login, .game, .connect, .sniff] := by
  decide +kernel

end TrafficRouter
