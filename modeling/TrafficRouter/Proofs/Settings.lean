import TrafficRouter.Settings.Validation

/-!
# What validation promises

Settings that were validated pass every rule. What the router relies on later is that there are two
addresses, that nothing which is read or kept at a time is empty, and that the first bytes of a
connection fit into a message.

* `Settings.check_of_validate`: every rule is passed;
* `Settings.Sound`, `sound_of_validate`: what follows for the values themselves.

NOT here: what comes of it (`Proofs.Startup`, `Proofs.Server.Validated`).
-/

namespace TrafficRouter

/-- A value that passes is not below the bound. -/
theorem le_of_leastRule {bound value : Nat} {problem : Problem}
    (h : leastRule bound value problem = none) : bound ≤ value := by
  unfold leastRule at h
  split at h
  · cases h
  · omega

/-- A text that passes is the address of a socket. -/
theorem parse_of_socketRule {text : String} (h : socketRule text = none) :
    ∃ address, SocketAddress.parse? text = some address := by
  unfold socketRule at h
  split at h
  · next hsome => exact Option.isSome_iff_exists.mp hsome
  · cases h

namespace Settings

variable {s : Settings}

/-- Settings without a problem are valid. -/
theorem validate_of_isEmpty (h : s.violations.isEmpty = true) : s.validate = .ok s := if_pos h

/-- Settings that were validated pass every rule. -/
theorem check_of_validate (h : s.validate = .ok s) : ∀ rule ∈ rules, rule.check s = none := by
  unfold validate at h
  split at h
  · next hempty =>
    have hnone : rules.filterMap (Rule.violation? s) = [] := List.isEmpty_iff.mp hempty
    exact fun rule hrule => Option.map_eq_none_iff.mp (List.filterMap_eq_nil_iff.mp hnone rule hrule)
  · cases h

/-- **What the router relies on.** -/
structure Sound (s : Settings) : Prop where
  bindAddress : ∃ address, SocketAddress.parse? s.listener.bindAddress = some address
  maxConnections : 1 ≤ s.listener.maxConnections
  sniff : 2 ≤ s.buffers.sniff
  relayChunk : 1 ≤ s.buffers.relayChunk
  maxHttpMessage : s.buffers.sniff ≤ s.buffers.maxHttpMessage
  metricsAddress : s.observability.metricsEnabled = true →
    ∃ address, SocketAddress.parse? s.observability.metricsAddress = some address

/-- **Settings that were validated can be relied on.** -/
theorem sound_of_validate (h : s.validate = .ok s) : s.Sound := by
  have hcheck := check_of_validate h
  simp only [rules, List.forall_mem_cons] at hcheck
  obtain ⟨hbind, hconnections, -, -, -, -, -, -, -, -, -, hsniff, hchunk, hmessage, hmetrics, -⟩ :=
    hcheck
  exact {
    bindAddress := parse_of_socketRule hbind
    maxConnections := le_of_leastRule hconnections
    sniff := le_of_leastRule hsniff
    relayChunk := le_of_leastRule hchunk
    maxHttpMessage := le_of_leastRule hmessage
    metricsAddress := fun hon => by
      rw [if_pos hon] at hmetrics
      exact parse_of_socketRule hmetrics }

theorem two_le_sniff (h : s.validate = .ok s) : 2 ≤ s.buffers.sniff := (sound_of_validate h).sniff

end Settings

end TrafficRouter
