import TrafficRouter.CommandLine
import TrafficRouter.Proofs.Settings.Rules

/-!
# Addresses under flags

The flags of a command line are laid over the settings of a file, those of a service over its address:

* `CommandLine.flagsFor`, `get_overlay`: each setting is changed by the flags that are for it;
* `problem?_override`: an address of which both parts are given is what they make of it;
* `overrides_compose`: the parts of an address can be given together or one after the other, in either
  order and as often as one likes, and both together repair whatever was there before.

NOT here: where the settings below the flags come from (`Layers`).
-/

namespace TrafficRouter

/-! ## 1. The flags for a setting -/

namespace CommandLine

/-- The flags that are for a setting: the public port for the address to listen at, and those of a
service for its address. -/
def flagsFor (c : CommandLine) : Setting → AddressFlags
  | .bindAddress => { port := c.proxyPort }
  | .service backend => c.addressFlags backend
  | .maxConnections | .loginLengthThreshold | .initialRead | .connect | .clientRead | .backendRead
  | .responseIdle | .shutdownDrain | .sniff | .relayChunk | .maxHttpMessage | .logLevel
  | .metricsEnabled | .metricsAddress => {}

theorem address_overlay (c : CommandLine) (s : Settings) (backend : Backend) :
    (c.overlay s).backends.address backend =
      (c.addressFlags backend).apply (s.backends.address backend) := by
  cases backend <;> rfl

/-- **What the flags make of a setting** depends on those that are for it, and on what it is below
them. -/
theorem get_overlay_congr {c c' : CommandLine} {s s' : Settings} {k : Setting}
    (hflags : c'.flagsFor k = c.flagsFor k) (hbelow : s'.get k = s.get k) :
    (c'.overlay s').get k = (c.overlay s).get k := by
  cases k with
  | bindAddress =>
    have hport : c'.proxyPort = c.proxyPort := congrArg AddressFlags.port hflags
    have haddress : s'.listener.bindAddress = s.listener.bindAddress := Datum.text.inj hbelow
    show Datum.text (c'.bindAddress s'.listener.bindAddress) =
      .text (c.bindAddress s.listener.bindAddress)
    unfold bindAddress
    rw [hport, haddress]
  | service backend =>
    have haddress : s'.backends.address backend = s.backends.address backend :=
      Datum.text.inj hbelow
    have hflags : c'.addressFlags backend = c.addressFlags backend := hflags
    show Datum.text ((c'.overlay s').backends.address backend) =
      .text ((c.overlay s).backends.address backend)
    rw [address_overlay, address_overlay, hflags, haddress]
  | maxConnections | loginLengthThreshold | initialRead | connect | clientRead | backendRead
  | responseIdle | shutdownDrain | sniff | relayChunk | maxHttpMessage | logLevel | metricsEnabled
  | metricsAddress => exact hbelow

/-- **A setting that no flag is for is as it was.** -/
theorem get_overlay {c : CommandLine} {k : Setting} (h : c.flagsFor k = {}) (s : Settings) :
    (c.overlay s).get k = s.get k := by
  have hnone : ({} : CommandLine).flagsFor k = {} := by
    cases k with
    | service backend => cases backend <;> rfl
    | _ => rfl
  have hcongr : (c.overlay s).get k = (({} : CommandLine).overlay s).get k :=
    get_overlay_congr (h.trans hnone.symm) rfl
  exact hcongr

theorem addressFlags_setAddressFlags (c : CommandLine) (f : AddressFlags) (backend : Backend) :
    (c.setAddressFlags f backend).addressFlags backend = f := by
  cases backend <;> rfl

/-- The flags of one service are for its address alone. -/
theorem flagsFor_setAddressFlags {backend : Backend} {k : Setting} (h : k ≠ .service backend)
    (f : AddressFlags) : (({} : CommandLine).setAddressFlags f backend).flagsFor k = {} := by
  cases backend <;> cases k with
  | service backend' => cases backend' <;> first | rfl | exact absurd rfl h
  | _ => rfl

end CommandLine

/-! ## 2. Both parts given -/

/-- **Host and port together** are an address exactly if the host is not empty and the port is not
zero. -/
theorem HostPort.problem?_override (host address : String) (port : Nat) :
    problem? (override (some host) (some port) address) = none ↔
      host ≠ "" ∧ port ≠ 0 ∧ port ≤ Numeral.maxWord16 := by
  show problem? (join host (toString port)) = none ↔ _
  rw [problem?_eq_none_iff]
  constructor
  · rintro ⟨host', port', n, hjoin, hhost, hport, hpos, hle⟩
    have hsplit : split? (join host (toString port)) = some (host, toString port) :=
      split?_join (portText_toString port).no_colon
    rw [hjoin, split?_join hport.no_colon, Option.some.injEq, Prod.mk.injEq] at hsplit
    obtain ⟨rfl, rfl⟩ := hsplit
    obtain rfl : n = port := hport.unique (portText_toString port)
    exact ⟨hhost, by omega, hle⟩
  · rintro ⟨hhost, hport, hle⟩
    exact ⟨host, _, port, rfl, hhost, portText_toString port, by omega, hle⟩

/-- **Both flags of a service repair its address**, and leave every other problem as it is. -/
theorem CommandLine.violations_overlay_both (s : Settings) (backend : Backend) {host : String}
    {port : Nat} (hhost : host ≠ "") (hport : port ≠ 0) (hle : port ≤ Numeral.maxWord16) :
    ((({} : CommandLine).setAddressFlags ⟨some host, some port⟩ backend).overlay s).violations =
      s.violations.filter (·.field ≠ .ofBackend backend) := by
  generalize hc : ({} : CommandLine).setAddressFlags ⟨some host, some port⟩ backend = c
  have hflags : c.addressFlags backend = ⟨some host, some port⟩ := by
    rw [← hc]
    exact addressFlags_setAddressFlags _ _ backend
  have hothers : ∀ k, k ≠ .service backend → (c.overlay s).get k = s.get k := fun k hk => by
    refine get_overlay ?_ s
    rw [← hc]
    exact flagsFor_setAddressFlags hk _
  have hmentions (v : Violation) :
      Setting.service backend ∈ v.field.settings ↔ v.field = .ofBackend backend := by
    cases v.field <;> cases backend <;> decide
  have hfixed : ∀ v ∈ (c.overlay s).violations, v.field ≠ .ofBackend backend := by
    intro v hv hfield
    rw [mem_violations_iff, hfield, violated_ofBackend_iff, address_overlay, hflags] at hv
    obtain ⟨p, hfault, -⟩ := hv
    have hnone := (HostPort.problem?_override host (s.backends.address backend) port).mpr
      ⟨hhost, hport, hle⟩
    exact Option.some_ne_none p (hfault.problem?.symm.trans hnone)
  have hframe := violations_of_change hothers
  simp only [hmentions] at hframe
  rw [← hframe, List.filter_eq_self.mpr]
  exact fun v hv => decide_eq_true (hfixed v hv)

/-! ## 3. Overrides compose -/

namespace HostPort

/-- **Overrides of an address compose.** Whatever the address was, host and port given together are
the address; given one after the other, in either order, they are the same; and what was given once
changes nothing when it is given again. The host alone keeps what stands behind the last colon, or
nothing if there is none, the port alone what stands before it, or all of it. Both together are as an
address must be exactly if the host is not empty and the port not zero, so that they repair whatever
was there and touch no other setting; what neither is given for stays. -/
theorem overrides_compose (address host : String) (port : Nat) :
    override (some host) (some port) address = host ++ ":" ++ toString port ∧
      override none (some port) (override (some host) none address) =
        override (some host) (some port) address ∧
      override (some host) none (override none (some port) address) =
        override (some host) (some port) address ∧
      (∀ host? port?, override host? port? (override host? port? address) =
        override host? port? address) ∧
      (∀ front back, ':' ∉ back.toList → address = front ++ ":" ++ back →
        override (some host) none address = host ++ ":" ++ back ∧
          override none (some port) address = front ++ ":" ++ toString port) ∧
      (':' ∉ address.toList →
        override (some host) none address = host ++ ":" ∧
          override none (some port) address = address ++ ":" ++ toString port) ∧
      (problem? (override (some host) (some port) address) = none ↔
        host ≠ "" ∧ port ≠ 0 ∧ port ≤ Numeral.maxWord16) ∧
      ∀ (s : Settings) (backend : Backend), s.backends.address backend = address →
        (∀ c : CommandLine, c.addressFlags backend = ⟨some host, some port⟩ →
          (c.overlay s).backends.address backend = host ++ ":" ++ toString port ∧
            ((∀ problem, ¬ Violated (c.overlay s) (.ofBackend backend) problem) ↔
              host ≠ "" ∧ port ≠ 0 ∧ port ≤ Numeral.maxWord16)) ∧
        (host ≠ "" → port ≠ 0 → port ≤ Numeral.maxWord16 →
          ((({} : CommandLine).setAddressFlags ⟨some host, some port⟩ backend).overlay
              s).violations = s.violations.filter (·.field ≠ .ofBackend backend)) ∧
        ∀ c : CommandLine, c.addressFlags backend = {} →
          (c.overlay s).backends.address backend = address := by
  refine ⟨rfl, ?_, ?_, fun host? port? => ?_, fun front back hcolon he => ?_, fun hcolon => ?_,
    problem?_override host address port,
    fun s backend hs => ⟨fun c hc => ⟨?_, ?_⟩, ?_, fun c hc => ?_⟩⟩
  · rw [override_override]
    rfl
  · rw [override_override]
    rfl
  · rw [override_override]
    cases host? <;> cases port? <;> rfl
  · have hjoin : address = join front back := he
    constructor
    · rw [override_eq address (Or.inl rfl), hjoin, portOf_join hcolon]
      rfl
    · rw [override_eq address (Or.inr rfl), hjoin, hostOf_join hcolon]
      rfl
  · constructor
    · rw [override_eq address (Or.inl rfl), portOf_of_no_colon hcolon]
      exact String.append_empty
    · rw [override_eq address (Or.inr rfl), hostOf_of_no_colon hcolon]
      rfl
  · rw [CommandLine.address_overlay, hc]
    rfl
  · have hvalid : (∀ problem, ¬ Violated (c.overlay s) (.ofBackend backend) problem) ↔
        problem? ((c.overlay s).backends.address backend) = none := by
      rw [no_service_violation_iff, problem?_eq_none_iff]
    rw [hvalid, CommandLine.address_overlay, hc]
    exact problem?_override host _ port
  · exact CommandLine.violations_overlay_both s backend
  · rw [CommandLine.address_overlay, hc, hs]
    rfl

end HostPort

end TrafficRouter
