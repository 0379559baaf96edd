import TrafficRouter.Address.HostPort
import TrafficRouter.Proofs.Text.Numeral

/-!
# What the address of a service is

The address `host:port` of a service, as an equivalence for each of its readers:

* `split?_eq_some_iff`, `split?_eq_none_iff`: host and port are what the last colon divides;
* `PortText`: the numerals that a port may be, with their values;
* `Fault`, `problem?_eq_some_iff`: what is wrong with an address, one case for each way, and
  `problem?_eq_none_iff`: nothing is, exactly for a host and a port above zero;
* `hostOf_override`, `portOf_override`: laying parts over an address changes these and keeps the
  others, so that overrides compose (`override_override`).

NOT here: which address is whose (`Proofs.Settings.Rules`, `Proofs.Settings.Overrides`).
-/

namespace TrafficRouter.HostPort

/-! ## 1. The last colon -/

theorem toList_join (host port : String) :
    (join host port).toList = host.toList ++ ':' :: port.toList := by
  simp [join]

/-- **Host and port are what the last colon divides.** -/
theorem split?_eq_some_iff {address host port : String} :
    split? address = some (host, port) ↔ address = join host port ∧ ':' ∉ port.toList := by
  have hjoin : address = join host port ↔
      address.toList.reverse = port.toList.reverse ++ ':' :: host.toList.reverse := by
    rw [← String.toList_inj, toList_join, ← List.reverse_inj, List.reverse_append,
      List.reverse_cons, List.append_assoc, List.singleton_append]
  unfold split?
  constructor
  · intro h
    split at h
    · next back c front hspan =>
      obtain ⟨-, hback, hlist⟩ := span_ne_eq_cons_iff.mp hspan
      simp only [Option.some.injEq, Prod.mk.injEq] at h
      obtain ⟨rfl, rfl⟩ := h
      rw [hjoin]
      simpa [hlist] using hback
    · cases h
  · rintro ⟨h, hport⟩
    have hspan := span_ne_eq_cons_iff.mpr
      ⟨rfl, fun hmem => hport (List.mem_reverse.mp hmem), hjoin.mp h⟩
    rw [hspan]
    simp

/-- A text without a colon has no host and no port. -/
theorem split?_eq_none_iff {address : String} : split? address = none ↔ ':' ∉ address.toList := by
  unfold split?
  split
  · next back c front hspan =>
    obtain ⟨rfl, -, hlist⟩ := span_ne_eq_cons_iff.mp hspan
    have hmem : ':' ∈ address.toList := by
      rw [← List.mem_reverse, hlist]
      exact List.mem_append_right _ List.mem_cons_self
    simp [hmem]
  · next back hspan =>
    have hnot := (span_ne_eq_nil_iff.mp hspan).2
    rw [List.mem_reverse] at hnot
    simp [hnot]

theorem split?_join {host port : String} (h : ':' ∉ port.toList) :
    split? (join host port) = some (host, port) :=
  split?_eq_some_iff.mpr ⟨rfl, h⟩

/-- Every address has a colon that is the last one, or none. -/
theorem address_cases (address : String) :
    (∃ host port, address = join host port ∧ ':' ∉ port.toList) ∨ ':' ∉ address.toList := by
  cases h : split? address with
  | none => exact Or.inr (split?_eq_none_iff.mp h)
  | some parts => exact Or.inl ⟨parts.1, parts.2, split?_eq_some_iff.mp h⟩

/-! ## 2. What is wrong with an address -/

/-- **A text that a port may be**: decimal digits of a value, behind a plus that may be missing. -/
def PortText (text : String) (n : Nat) : Prop :=
  ∃ sign digits, Numeral.OptionalPlus sign ∧ Numeral.Decimal digits n ∧ text.toList = sign ++ digits

theorem unsigned?_eq_some_iff_portText {text : String} {n : Nat} :
    Numeral.unsigned? Numeral.maxWord16 text.toList = some n ↔
      n ≤ Numeral.maxWord16 ∧ PortText text n :=
  Numeral.unsigned?_eq_some_iff

theorem PortText.no_colon {text : String} {n : Nat} (h : PortText text n) : ':' ∉ text.toList := by
  obtain ⟨sign, digits, hsign, hdigits, htext⟩ := h
  have hdigit : ¬ (':' : Char).isDigit := by decide
  rw [htext, List.mem_append, not_or]
  refine ⟨fun hmem => ?_, hdigits.not_mem hdigit⟩
  rcases hsign with rfl | rfl
  · cases hmem
  · exact absurd (List.mem_singleton.mp hmem) (by decide)

/-- A port has one value. -/
theorem PortText.unique {text : String} {n m : Nat} (hn : PortText text n) (hm : PortText text m) :
    n = m := by
  have hreadn : Numeral.unsigned? (max n m) text.toList = some n :=
    Numeral.unsigned?_eq_some_iff.mpr ⟨Nat.le_max_left n m, hn⟩
  have hreadm : Numeral.unsigned? (max n m) text.toList = some m :=
    Numeral.unsigned?_eq_some_iff.mpr ⟨Nat.le_max_right n m, hm⟩
  rw [hreadn, Option.some.injEq] at hreadm
  exact hreadm

theorem portText_toString (n : Nat) : PortText (toString n) n :=
  ⟨[], _, Or.inl rfl, Numeral.decimal_toString n, rfl⟩

/-- **What is wrong with an address.** -/
inductive Fault : String → Problem → Prop where
  | noColon {address : String} (h : ':' ∉ address.toList) : Fault address .notHostPort
  | noHost {port : String} (h : ':' ∉ port.toList) : Fault (join "" port) .notHostPort
  | zeroPort {host port : String} (hhost : host ≠ "") (hport : PortText port 0) :
      Fault (join host port) .zeroPort
  | invalidPort {host port : String} (hhost : host ≠ "") (hcolon : ':' ∉ port.toList)
      (hport : ∀ n ≤ Numeral.maxWord16, ¬ PortText port n) : Fault (join host port) .invalidPort

/-- An address with a host has the problem of its port. -/
theorem problem?_join {host port : String} (hhost : host ≠ "") (hcolon : ':' ∉ port.toList) :
    problem? (join host port) =
      match Numeral.unsigned? Numeral.maxWord16 port.toList with
      | none => some .invalidPort
      | some 0 => some .zeroPort
      | some _ => none := by
  have hempty : host.isEmpty = false := by
    rw [← Bool.not_eq_true, String.isEmpty_iff]
    exact hhost
  unfold problem?
  simp only [split?_join hcolon, hempty]
  rfl

/-- **An address has the problem that is wrong with it.** -/
theorem Fault.problem? {address : String} {problem : Problem} (h : Fault address problem) :
    problem? address = some problem := by
  cases h with
  | noColon h =>
    unfold HostPort.problem?
    rw [split?_eq_none_iff.mpr h]
  | noHost h =>
    unfold HostPort.problem?
    rw [split?_join h]
    rfl
  | zeroPort hhost hport =>
    have hzero := unsigned?_eq_some_iff_portText.mpr ⟨Nat.zero_le _, hport⟩
    rw [problem?_join hhost hport.no_colon, hzero]
    rfl
  | invalidPort hhost hcolon hport =>
    rename_i host port
    have hnone : Numeral.unsigned? Numeral.maxWord16 port.toList = none := by
      rw [Option.eq_none_iff_forall_ne_some]
      intro n hn
      obtain ⟨hle, htext⟩ := unsigned?_eq_some_iff_portText.mp hn
      exact hport n hle htext
    rw [problem?_join hhost hcolon, hnone]

/-- An address is at fault, or a host and a port above zero. -/
theorem fault_or_valid (address : String) :
    (∃ problem, Fault address problem) ∨
      ∃ host port n, address = join host port ∧ host ≠ "" ∧ PortText port n ∧ 1 ≤ n ∧
        n ≤ Numeral.maxWord16 := by
  rcases address_cases address with ⟨host, port, rfl, hcolon⟩ | hcolon
  · by_cases hhost : host = ""
    · subst hhost
      exact Or.inl ⟨_, .noHost hcolon⟩
    · cases hn : Numeral.unsigned? Numeral.maxWord16 port.toList with
      | none =>
        refine Or.inl ⟨_, .invalidPort hhost hcolon fun n hle htext => ?_⟩
        rw [unsigned?_eq_some_iff_portText.mpr ⟨hle, htext⟩] at hn
        cases hn
      | some n =>
        obtain ⟨hle, htext⟩ := unsigned?_eq_some_iff_portText.mp hn
        cases n with
        | zero => exact Or.inl ⟨_, .zeroPort hhost htext⟩
        | succ n => exact Or.inr ⟨host, port, n + 1, rfl, hhost, htext, Nat.succ_pos n, hle⟩
  · exact Or.inl ⟨_, .noColon hcolon⟩

/-- **Nothing is wrong with an address** exactly where it is a host and a port above zero. -/
theorem problem?_eq_none_iff {address : String} :
    problem? address = none ↔
      ∃ host port n, address = join host port ∧ host ≠ "" ∧ PortText port n ∧ 1 ≤ n ∧
        n ≤ Numeral.maxWord16 := by
  constructor
  · intro h
    rcases fault_or_valid address with ⟨problem, hfault⟩ | hvalid
    · rw [hfault.problem?] at h
      cases h
    · exact hvalid
  · rintro ⟨host, port, n, rfl, hhost, hport, hpos, hle⟩
    rw [problem?_join hhost hport.no_colon,
      unsigned?_eq_some_iff_portText.mpr ⟨hle, hport⟩]
    cases n with
    | zero => cases hpos
    | succ n => rfl

/-- **The problem of an address** is what is wrong with it. -/
theorem problem?_eq_some_iff {address : String} {problem : Problem} :
    problem? address = some problem ↔ Fault address problem := by
  refine ⟨fun h => ?_, Fault.problem?⟩
  rcases fault_or_valid address with ⟨problem', hfault⟩ | hvalid
  · rw [hfault.problem?, Option.some.injEq] at h
    exact h ▸ hfault
  · rw [problem?_eq_none_iff.mpr hvalid] at h
    cases h

/-! ## 3. Parts laid over an address -/

theorem hostOf_join {host port : String} (h : ':' ∉ port.toList) : hostOf (join host port) = host := by
  unfold hostOf
  rw [split?_join h]

theorem portOf_join {host port : String} (h : ':' ∉ port.toList) : portOf (join host port) = port := by
  unfold portOf
  rw [split?_join h]

theorem hostOf_of_no_colon {address : String} (h : ':' ∉ address.toList) :
    hostOf address = address := by
  unfold hostOf
  rw [split?_eq_none_iff.mpr h]

theorem portOf_of_no_colon {address : String} (h : ':' ∉ address.toList) : portOf address = "" := by
  unfold portOf
  rw [split?_eq_none_iff.mpr h]

/-- A port has no colon of its own. -/
theorem portOf_no_colon (address : String) : ':' ∉ (portOf address).toList := by
  rcases address_cases address with ⟨host, port, rfl, h⟩ | h
  · rw [portOf_join h]
    exact h
  · rw [portOf_of_no_colon h]
    exact List.not_mem_nil

/-- The port that is laid over an address, or the one that it keeps, has no colon. -/
theorem newPort_no_colon (port : Option Nat) (address : String) :
    ':' ∉ ((port.map toString).getD (portOf address)).toList := by
  cases port with
  | none => exact portOf_no_colon address
  | some n => exact (portText_toString n).no_colon

/-- **Host and port are each the new one where there is one**, and else the one that the address
has. -/
theorem override_eq {host : Option String} {port : Option Nat} (address : String)
    (h : host.isSome ∨ port.isSome) :
    override host port address =
      join (host.getD (hostOf address)) ((port.map toString).getD (portOf address)) := by
  unfold override
  rw [if_neg]
  rcases h with h | h <;> simp [Option.isNone_eq_false_iff.mpr h]

/-- The host of an address that something was laid over. -/
theorem hostOf_override (host : Option String) (port : Option Nat) (address : String) :
    hostOf (override host port address) = host.getD (hostOf address) := by
  by_cases h : host.isSome ∨ port.isSome
  · rw [override_eq address h, hostOf_join (newPort_no_colon port address)]
  · rw [not_or, Option.not_isSome_iff_eq_none, Option.not_isSome_iff_eq_none] at h
    obtain ⟨rfl, rfl⟩ := h
    rfl

/-- The port of an address that something was laid over. -/
theorem portOf_override (host : Option String) (port : Option Nat) (address : String) :
    portOf (override host port address) = (port.map toString).getD (portOf address) := by
  by_cases h : host.isSome ∨ port.isSome
  · rw [override_eq address h, portOf_join (newPort_no_colon port address)]
  · rw [not_or, Option.not_isSome_iff_eq_none, Option.not_isSome_iff_eq_none] at h
    obtain ⟨rfl, rfl⟩ := h
    rfl

/-- **Overrides compose**: of two of them the later one has each part first. -/
theorem override_override (host host' : Option String) (port port' : Option Nat)
    (address : String) :
    override host' port' (override host port address) =
      override (host'.or host) (port'.or port) address := by
  by_cases h' : host'.isSome ∨ port'.isSome
  · have hor : (host'.or host).isSome ∨ (port'.or port).isSome := by
      rw [Option.isSome_or, Option.isSome_or, Bool.or_eq_true, Bool.or_eq_true]
      exact h'.imp Or.inl Or.inl
    rw [override_eq _ h', override_eq _ hor, hostOf_override, portOf_override]
    cases host' <;> cases port' <;> rfl
  · rw [not_or, Option.not_isSome_iff_eq_none, Option.not_isSome_iff_eq_none] at h'
    obtain ⟨rfl, rfl⟩ := h'
    rfl

end TrafficRouter.HostPort
