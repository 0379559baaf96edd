import TrafficRouter.Proofs.Server.Recognition

/-!
# When a classification is final

How much of a client's bytes its session reads first is up to the network. What they are taken for is
not, as soon as they are settled.

* `routed_by_opening`: a session has the route of its first bytes, which begin its client's stream;
* `classification_final`: which beginnings are settled, what that means for sessions, and what a
  greater threshold changes.

NOT here: sessions whose first read is not settled. `request_missed_get` is one.
-/

namespace TrafficRouter

/-- A session whose first read brought bytes is routed by them, which the client sent first. -/
theorem routed_by_opening (settings : Settings) (labels : List Label) {place : Nat}
    {session : Session} {opening : Bytes} :
    let c := ServerSettings.ofSettings settings
    let o := Observed.run c ⟨.start c, {}⟩ labels
    o.server.sessions[place]? = some session → o.traffic.firstRead place = some (.bytes opening) →
    opening ≠ [] →
      opening <+: o.traffic.client session.client ∧
        let protocol := classify settings.classifier.loginLengthThreshold opening
        session.route = some ⟨opening, protocol⟩ ∧
          ∀ call ∈ session.calls, Serves settings.backends protocol call := by
  intro c o hn hfirst hne
  obtain ⟨-, hkept⟩ := (integrity_run c labels).session place session hn
  have hrouting := hkept.routing
  rw [hfirst] at hrouting
  obtain ⟨hroute, hcalls, -⟩ := hrouting.of_opening hne
  exact ⟨hkept.transit.opening _ hroute, hroute, hcalls⟩

theorem Settled.ne_nil {front : Bytes} (h : Settled front) : front ≠ [] := by
  rintro rfl
  exact Nat.not_succ_le_zero 1 h.header

/-- **When a classification is final.** For every threshold, some bytes are taken for the same
protocol whatever comes behind them exactly if there are two of them and they are not the beginning of
a method token that goes on. So two sessions of one stream of bytes, at any moment of any two runs with
the same threshold, whose first reads are settled, however long each of them is, have routes of one
protocol, and each has called no service but the one that is set for it. A greater threshold makes
logins of some games and changes nothing else. -/
theorem classification_final :
    (∀ threshold front,
      (∀ rest, classify threshold (front ++ rest) = classify threshold front) ↔ Settled front) ∧
    (∀ (settings settings' : Settings) (labels labels' : List Label) (stream : Bytes),
      settings.classifier.loginLengthThreshold = settings'.classifier.loginLengthThreshold →
      let c := ServerSettings.ofSettings settings
      let c' := ServerSettings.ofSettings settings'
      let o := Observed.run c ⟨.start c, {}⟩ labels
      let o' := Observed.run c' ⟨.start c', {}⟩ labels'
      ∀ (place place' : Nat) (session session' : Session) (opening opening' : Bytes),
        o.server.sessions[place]? = some session → o'.server.sessions[place']? = some session' →
        o.traffic.client session.client <+: stream →
        o'.traffic.client session'.client <+: stream →
        o.traffic.firstRead place = some (.bytes opening) →
        o'.traffic.firstRead place' = some (.bytes opening') →
        Settled opening → Settled opening' →
        ∃ protocol, session.route = some ⟨opening, protocol⟩ ∧
          session'.route = some ⟨opening', protocol⟩ ∧
          (∀ call ∈ session.calls, Serves settings.backends protocol call) ∧
          ∀ call ∈ session'.calls, Serves settings'.backends protocol call) ∧
    ∀ threshold threshold' bytes, threshold ≤ threshold' →
      classify threshold' bytes = classify threshold bytes ∨
        classify threshold bytes = .game ∧ classify threshold' bytes = .login := by
  refine ⟨fun threshold front => settled_iff, ?_, fun threshold threshold' bytes h =>
    classify_raised h bytes⟩
  intro settings settings' labels labels' stream hthreshold c c' o o' place place' session session'
    opening opening' hn hn' hstream hstream' hfirst hfirst' hsettled hsettled'
  obtain ⟨hopening, hroute, hcalls⟩ :=
    routed_by_opening settings labels hn hfirst hsettled.ne_nil
  obtain ⟨hopening', hroute', hcalls'⟩ :=
    routed_by_opening settings' labels' hn' hfirst' hsettled'.ne_nil
  have hsame := hsettled.classify_eq hsettled' (hopening.trans hstream) (hopening'.trans hstream')
    settings.classifier.loginLengthThreshold
  rw [← hthreshold, ← hsame] at hroute' hcalls'
  exact ⟨_, hroute, hroute', hcalls, hcalls'⟩

/-- A request that comes at once and the same request in two pieces, of which the first is its method
token. -/
theorem classification_final_request :
    let c := ServerSettings.ofSettings {}
    let token := ascii ['P', 'U', 'T', ' ']
    let o := Observed.run c ⟨.start c, {}⟩ (firstBytes (token ++ [47]) ++
      [.poll 0 ⟨.clientToBackend, none⟩])
    let o' := Observed.run c ⟨.start c, {}⟩ (firstBytes token ++
      [.poll 0 ⟨.clientToBackend, none⟩, .client 0 (.send [47])])
    Settled token ∧ Settled (token ++ [47]) ∧
      ∃ session session', o.server.sessions[0]? = some session ∧
        o'.server.sessions[0]? = some session' ∧
        session.route = some ⟨token ++ [47], .http⟩ ∧ session'.route = some ⟨token, .http⟩ := by
  intro c token o o'
  have hsettled : Settled token := by decide
  have hsettled' : Settled (token ++ [47]) := by decide
  have hrun : (o.server.sessions[0]?).map (fun session => (session.client, session.route)) =
      some (0, some ⟨token ++ [47], .http⟩) := by
    decide +kernel
  have hrun' : (o'.server.sessions[0]?).map (·.client) = some 0 := by decide +kernel
  obtain ⟨session, hn, hsession⟩ := Option.map_eq_some_iff.mp hrun
  obtain ⟨session', hn', hclient'⟩ := Option.map_eq_some_iff.mp hrun'
  obtain ⟨hclient, hroute⟩ := Prod.mk.inj hsession
  obtain ⟨-, hsessions, -⟩ := classification_final
  obtain ⟨protocol, hprotocol, hprotocol', -⟩ :=
    hsessions {} {} _ _ (token ++ [47]) rfl 0 0 session session' (token ++ [47]) token hn hn'
      (by rw [hclient]; decide +kernel) (by rw [hclient']; decide +kernel) (by decide +kernel)
      (by decide +kernel) hsettled' hsettled
  have hhttp : protocol = .http := by
    rw [hroute] at hprotocol
    cases hprotocol
    rfl
  rw [hhttp] at hprotocol'
  exact ⟨hsettled, hsettled', session, session', hn, hn', hroute, hprotocol'⟩

end TrafficRouter
