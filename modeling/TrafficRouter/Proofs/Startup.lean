import TrafficRouter.Proofs.Settings
import TrafficRouter.Proofs.Server.Slots
import TrafficRouter.Program

/-!
# Starting with validated settings

Settings that were validated have the addresses that a start needs, so what a start comes to is
decided by the host and by the number of slots. Validation asks for one slot at least and sets no
bound from above, while a pool has one (`maxSlots`): a number past it passes validation and stops
the program.

* `opening_of_parse`, `ofSettings_of_sound`: a start under settings that can be relied on;
* `listening_within_maxSlots`: what it comes to, by the number of slots;
* `validated_start_aborted`: a settings file with a number past the bound.

NOT here: what the sessions of the server rely on (`Proofs.Server.Validated`).
-/

namespace TrafficRouter

variable {s : Settings}

/-! ## 1. Addresses -/

/-- Settings that can be relied on have no bad metrics address. -/
theorem Settings.Sound.badMetricsAddress (h : s.Sound) :
    Startup.badMetricsAddress s.observability = none := by
  unfold Startup.badMetricsAddress
  cases hon : s.observability.metricsEnabled with
  | false => rfl
  | true =>
    obtain ⟨address, haddress⟩ := h.metricsAddress hon
    rw [haddress]
    rfl

/-- What the opening of the public port comes to where there is an address. -/
theorem opening_of_parse (host : Host) {l : ListenerSettings} {address : SocketAddress}
    (h : SocketAddress.parse? l.bindAddress = some address) :
    Listener.opening host l =
      match host.bind address with
      | .error fault => .failed (.bind fault)
      | .ok () => if maxSlots < l.maxConnections then .aborted
        else .listening ⟨address, l.maxConnections⟩ := by
  unfold Listener.opening
  generalize SocketAddress.parse? l.bindAddress = parsed at h ⊢
  subst h
  rfl

/-- **A start under settings that can be relied on** is the opening of the public port. -/
theorem ofSettings_of_sound (h : s.Sound) (host : Host) :
    Startup.ofSettings host s =
      match Listener.opening host s.listener with
      | .aborted => .aborted
      | .failed error => .failed (.listen s.listener.bindAddress error)
      | .listening listener => .serving listener (.start (.ofSettings s)) := by
  have hbad := h.badMetricsAddress
  unfold Startup.ofSettings
  generalize Startup.badMetricsAddress s.observability = bad at hbad ⊢
  subst hbad
  rfl

/-! ## 2. The number of slots -/

/-- **A pool that is not past the bound is made.** With settings that were validated and a host on
which a socket can listen at their address: where a pool can have as many slots as the settings
admit sessions, the router serves with a pool of just that size, of which no slot is ever lost;
where it cannot, the program stops. -/
theorem listening_within_maxSlots (host : Host) (s : Settings) (hvalid : s.validate = .ok s) :
    ∃ address, SocketAddress.parse? s.listener.bindAddress = some address ∧
      (∀ fault, host.bind address = .error fault →
        Listener.opening host s.listener = .failed (.bind fault)) ∧
      (host.bind address = .ok () →
        let c := ServerSettings.ofSettings s
        let slots := s.listener.maxConnections
        1 ≤ slots ∧
          (slots ≤ maxSlots →
            Listener.opening host s.listener = .listening ⟨address, slots⟩ ∧
              Startup.ofSettings host s = .serving ⟨address, slots⟩ (.start c) ∧
              (Server.start c).freeSlots = slots ∧
              ∀ labels, let server := (Server.start c).run c labels
                server.freeSlots + server.accept.slots +
                  (server.sessions.map (·.membership.slots)).sum = slots) ∧
          (maxSlots < slots →
            Listener.opening host s.listener = .aborted ∧ Startup.ofSettings host s = .aborted ∧
              (Program.start host s).2 = .aborted)) := by
  have hsound := Settings.sound_of_validate hvalid
  obtain ⟨address, haddress⟩ := hsound.bindAddress
  have hopening := opening_of_parse host haddress
  have hstart := ofSettings_of_sound hsound host
  refine ⟨address, haddress, fun fault hfault => ?_, fun hbind => ?_⟩
  · rw [hopening, hfault]
  intro c slots
  rw [hbind] at hopening
  refine ⟨hsound.maxConnections, fun hfits => ?_, fun hlt => ?_⟩
  · have hlistening : Listener.opening host s.listener = .listening ⟨address, slots⟩ :=
      hopening.trans (if_neg (Nat.not_lt_of_le hfits))
    rw [hlistening] at hstart
    refine ⟨hlistening, hstart, rfl, fun labels => ?_⟩
    intro server
    have hheld : (server.sessions.map (·.membership.slots)).sum = Seat.held server.seats := by
      unfold Seat.held Server.seats
      rw [List.map_map]
      rfl
    rw [hheld]
    exact (Server.slots_run c labels).conserved
  · have haborted : Listener.opening host s.listener = .aborted := hopening.trans (if_pos hlt)
    rw [haborted] at hstart
    refine ⟨haborted, hstart, ?_⟩
    unfold Program.start
    rw [hstart]

/-- With the settings that are there where nothing is said, the router serves with ten thousand
slots. -/
theorem listening_within_maxSlots_default :
    Settings.validate {} = .ok {} ∧ ∃ address,
      Startup.ofSettings {} {} = .serving ⟨address, 10000⟩ (.start (.ofSettings {})) := by
  have hvalid : Settings.validate {} = .ok {} := Settings.validate_of_isEmpty (by decide +kernel)
  obtain ⟨address, haddress, -, hstart⟩ := listening_within_maxSlots {} {} hvalid
  have hparse : SocketAddress.parse? ({} : ListenerSettings).bindAddress =
      some { ip := .v4 0 0 0 0, port := 7170 } := by decide +kernel
  obtain rfl : address = { ip := .v4 0 0 0 0, port := 7170 } :=
    Option.some.inj (haddress.symm.trans hparse)
  obtain ⟨-, hserves, -⟩ := hstart rfl
  exact ⟨hvalid, _, (hserves (by decide +kernel)).2.1⟩

/-- A settings file that admits one session more than a pool can have slots. -/
def oneSlotTooMany : List Char := "[listener]\nmax_connections = 2305843009213693952".toList

/-- **Settings that pass validation and stop the program.** Nothing is in the way of a socket that
listens at their address. -/
theorem validated_start_aborted :
    let s : Settings := { listener := { maxConnections := maxSlots + 1 } }
    (Settings.parse oneSlotTooMany).toOption = some s ∧ s.validate = .ok s ∧
      (∃ address, SocketAddress.parse? s.listener.bindAddress = some address ∧
        Host.bind {} address = .ok ()) ∧
      Listener.opening {} s.listener = .aborted ∧ (Program.start {} s).2.code = 101 := by
  intro s
  have hvalid : s.validate = .ok s := Settings.validate_of_isEmpty (by decide +kernel)
  have hparse : SocketAddress.parse? s.listener.bindAddress =
      some { ip := .v4 0 0 0 0, port := 7170 } := by decide +kernel
  exact ⟨by decide +kernel, hvalid, ⟨_, hparse, rfl⟩, by decide +kernel⟩

end TrafficRouter
