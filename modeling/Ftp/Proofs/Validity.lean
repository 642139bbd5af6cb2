import Ftp.Main
import Ftp.Proofs.Availability

/-!
# Valid configurations

A configuration is accepted exactly if its values are in range as numbers, and then each slot has a
passive port. Only one thing can go wrong on the way: the number of the last of these ports is
counted in machine words, and where the count leaves them the check ends in a panic.

* `Config.exists_lastPassivePort_eq_ok`: what the count comes to;
* `Config.fault?_eq_error_iff_overflows`: when the check panics;
* `Config.fault?_eq_ok_none_iff_admissible`: which configurations are accepted;
* `Config.validation`: all of this, and that no listener is refused for want of a port;
* `Config.validation_overflow`: a configuration with more sessions than there are ports, which is
  not rejected but makes the check panic;
* `reachable_of_prepare`: what the program starts with.
-/

namespace Ftp

open Program

namespace Config

variable (config : Config)

/-- The number of the last passive port, whether there is such a port or not. -/
def lastPort : Nat :=
  config.passivePortBase.toNat + config.maxSessions.toNat - 1

/-- The sum of the first passive port and the number of sessions is no machine word. -/
def Overflows : Prop :=
  UInt64.size ≤ config.passivePortBase.toNat + config.maxSessions.toNat

/-- All values but the passive ports are in range. -/
structure Admissible : Prop where
  controlPort_pos : 1 ≤ config.controlPort.toNat
  maxSessions_pos : 1 ≤ config.maxSessions.toNat
  passivePortBase_pos : 1 ≤ config.passivePortBase.toNat
  lineBufferSize_ge : 8 ≤ config.lineBufferSize.toNat
  chunkSize_pos : 1 ≤ config.chunkSize.toNat
  sessionTimeout_pos : 1 ≤ config.sessionTimeout.toNat
  accounts_length_le : config.accounts.length ≤ config.maxAccounts.toNat
  root_ne_nil : ∀ account ∈ config.accounts, account.root ≠ []

variable {config}

private theorem word_ne_zero_iff {n : UInt64} : n ≠ 0 ↔ 1 ≤ n.toNat := by
  rw [Nat.one_le_iff_ne_zero, ne_eq, ne_eq, ← UInt64.toNat_inj]
  rfl

private theorem port_ne_zero_iff {n : UInt16} : n ≠ 0 ↔ 1 ≤ n.toNat := by
  rw [Nat.one_le_iff_ne_zero, ne_eq, ne_eq, ← UInt16.toNat_inj]
  rfl

/-! ## The count -/

theorem exists_lastPassivePort_eq_ok (h : ¬config.Overflows)
    (hsessions : 1 ≤ config.maxSessions.toNat) :
    ∃ last, config.lastPassivePort = .ok last ∧ last.toNat = config.lastPort := by
  rw [Overflows, Nat.not_le] at h
  have hlast : config.lastPort < UInt64.size := by
    rw [lastPort]
    omega
  refine ⟨UInt64.ofNat config.lastPort, config.lastPassivePort_eq_ok_iff.2 ⟨h, ?_⟩,
    UInt64.toNat_ofNat_of_lt' hlast⟩
  rw [UInt64.toNat_ofNat_of_lt' hlast, lastPort]
  omega

/-- The check panics in the sum of the count and nowhere else. -/
theorem fault?_eq_error_iff_overflows {panic : Panic} :
    config.fault? = .error panic ↔
      panic = .sumOverflow ∧ config.controlPort ≠ 0 ∧ config.Overflows := by
  have hbase : config.passivePortBase.toNat < UInt16.size := config.passivePortBase.toNat_lt
  have hsessions : config.maxSessions.toNat < UInt64.size := config.maxSessions.toNat_lt
  rw [fault?_eq_error_iff, lastPassivePort_eq_error_iff, word_ne_zero_iff,
    port_ne_zero_iff (n := config.passivePortBase), Overflows]
  rw [UInt16.size] at hbase
  rw [UInt64.size] at hsessions ⊢
  constructor
  · rintro ⟨hcontrol, hpos, hpos', ⟨hover, rfl⟩ | ⟨hzero, rfl⟩⟩
    · exact ⟨rfl, hcontrol, hover⟩
    · omega
  · rintro ⟨rfl, hcontrol, hover⟩
    exact ⟨hcontrol, by omega, by omega, .inl ⟨hover, rfl⟩⟩

theorem fault?_eq_ok_none_iff_admissible :
    config.fault? = .ok none ↔ config.Admissible ∧ config.lastPort ≤ 65535 := by
  rw [config.fault?_eq_ok_none_iff]
  constructor
  · rintro ⟨h₁, h₂, h₃, ⟨last, hlast, h₄⟩, h₅, h₆, h₇, h₈, h₉⟩
    refine ⟨⟨port_ne_zero_iff.1 h₁, word_ne_zero_iff.1 h₂, port_ne_zero_iff.1 h₃,
      UInt64.le_iff_toNat_le.1 h₅, word_ne_zero_iff.1 h₆, word_ne_zero_iff.1 h₇, h₈, h₉⟩, ?_⟩
    have hcount := (config.lastPassivePort_eq_ok_iff.1 hlast).2
    have hle : last.toNat ≤ 65535 := UInt64.le_iff_toNat_le.1 h₄
    rw [lastPort]
    omega
  · rintro ⟨⟨h₁, h₂, h₃, h₅, h₆, h₇, h₈, h₉⟩, h₄⟩
    have hfits : ¬config.Overflows := by
      simp only [Overflows, lastPort, UInt64.size] at h₄ ⊢
      omega
    obtain ⟨last, hlast, hcount⟩ := exists_lastPassivePort_eq_ok hfits h₂
    exact ⟨port_ne_zero_iff.2 h₁, word_ne_zero_iff.2 h₂, port_ne_zero_iff.2 h₃,
      ⟨last, hlast, UInt64.le_iff_toNat_le.2 (hcount ▸ h₄)⟩, UInt64.le_iff_toNat_le.2 h₅,
      word_ne_zero_iff.2 h₆, word_ne_zero_iff.2 h₇, h₈, h₉⟩

/-! ## The ports -/

theorem passivePort_eq_ok (h : config.lastPort ≤ 65535) {slot : Nat}
    (hslot : slot < config.maxSessions.toNat) :
    ∃ port, DataChannel.passivePort config.passivePortBase slot = .ok port ∧
      port.toNat = config.passivePortBase.toNat + slot := by
  have hlt : config.passivePortBase.toNat + slot < UInt16.size := by
    simp only [lastPort, UInt16.size] at h ⊢
    omega
  have hport : DataChannel.passivePort config.passivePortBase slot =
      .ok (UInt16.ofNat (config.passivePortBase.toNat + slot)) := if_pos hlt
  exact ⟨_, hport, toNat_passivePort hport⟩

/-- No listener of the session is refused for want of a port. -/
def PortSupplied (config : Config) (session : Session) : Prop :=
  ∀ setting events result slot, setting.config = config →
    Exec (DataChannel.openPassive setting session) events result →
    result.1 ≠ .error (.passivePortOutOfRange slot)

theorem portSupplied (h : config.lastPort ≤ 65535) {session : Session}
    (hslot : session.slot < config.maxSessions.toNat) : config.PortSupplied session := by
  rintro setting events result slot rfl run herror
  obtain ⟨port, hport, -⟩ := passivePort_eq_ok h hslot
  obtain ⟨opening, -, hopen⟩ := exec_openPassive_run run
  cases hopen with
  | outOfRange range => cases hport.symm.trans range
  | refused | opened => cases herror

variable (config) in
/-- What the check of a configuration comes to, and what is to be had from one that passes. -/
structure Validation : Prop where
  /-- Values are compared as numbers. -/
  accepted_iff : config.fault? = .ok none ↔ config.Admissible ∧ config.lastPort ≤ 65535
  panic_iff (panic : Panic) : config.fault? = .error panic ↔
    panic = .sumOverflow ∧ config.controlPort ≠ 0 ∧ config.Overflows
  /-- Otherwise the count never leaves the machine words. -/
  counts : ¬config.Overflows → 1 ≤ config.maxSessions.toNat →
    ∃ last, config.lastPassivePort = .ok last ∧ last.toNat = config.lastPort
  passivePort_eq_ok : config.fault? = .ok none → ∀ slot < config.maxSessions.toNat,
    ∃ port, DataChannel.passivePort config.passivePortBase slot = .ok port ∧
      port.toNat = config.passivePortBase.toNat + slot
  portSupplied : config.fault? = .ok none → ∀ history server,
    Reachable history server → server.config = config →
    ∀ slot session, server.sessions.get? slot = some session → config.PortSupplied session

/-- What a configuration is accepted for, and what its sessions get from it. -/
theorem validation (config : Config) : config.Validation where
  accepted_iff := fault?_eq_ok_none_iff_admissible
  panic_iff _ := fault?_eq_error_iff_overflows
  counts := exists_lastPassivePort_eq_ok
  passivePort_eq_ok h _ hslot :=
    Config.passivePort_eq_ok (fault?_eq_ok_none_iff_admissible.1 h).2 hslot
  portSupplied h history server hreachable hconfig slot session get := by
    have hslot := hreachable.capacity_eq ▸ SessionTable.lt_capacity_of_get? get
    rw [hconfig, ← hreachable.placed slot session get] at hslot
    exact Config.portSupplied (fault?_eq_ok_none_iff_admissible.1 h).2 hslot

/-- As it comes, the sixteenth session has the sixteenth port. -/
theorem validation_default : ({} : Config).fault? = .ok none ∧
    ∃ port, DataChannel.passivePort 50000 15 = .ok port ∧ port.toNat = 50015 :=
  have hvalid : ({} : Config).fault? = .ok none := by decide
  ⟨hvalid, (validation {}).passivePort_eq_ok hvalid 15 (by decide)⟩

/-- A configuration with more sessions than there are ports is not rejected for them: the count of
its ports overflows. -/
theorem validation_overflow :
    let config : Config := { maxSessions := 18446744073709551615 }
    65535 < config.lastPort ∧ config.lastPassivePort = .error .sumOverflow ∧
      config.fault? = .error .sumOverflow := by
  decide

end Config

/-! ## The program -/

variable {document : Option Text} {environment : List (Text × Text)}

theorem Config.fault?_of_load {config : Config}
    (h : Config.load document environment = .ok (.ok config)) : config.fault? = .ok none := by
  unfold Config.load at h
  split at h
  · cases h
  · obtain ⟨fault?, hfault, hloaded⟩ := Panic.map_eq_ok_iff.1 h
    cases fault? with
    | some fault => cases hloaded
    | none =>
      cases hloaded
      exact hfault

/-- The server that the program starts has a valid configuration and the registry of its accounts,
and nothing has been done to it yet. -/
theorem reachable_of_prepare {server : Server}
    (h : prepare document environment = .ok (.ok server)) :
    Reachable [] server ∧ server.config.fault? = .ok none ∧
      server.config.registry = .ok (.ok server.accounts) := by
  obtain ⟨loaded, hload, h⟩ := Panic.bind_eq_ok_iff.1 h
  cases loaded with
  | error error => cases h
  | ok config =>
    obtain ⟨created, hregistry, h⟩ := Panic.bind_eq_ok_iff.1 h
    cases created with
    | error error => cases h
    | ok accounts =>
      obtain ⟨made, hnew, h⟩ := Panic.bind_eq_ok_iff.1 h
      cases h
      obtain ⟨-, -, -, rfl⟩ := Server.new_eq_ok_iff.1 hnew
      exact ⟨⟨config, accounts, .nil⟩, Config.fault?_of_load hload, hregistry⟩

end Ftp
