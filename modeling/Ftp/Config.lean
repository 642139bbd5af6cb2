import Ftp.Account
import Ftp.Address
import Ftp.Panic

/-!
# Configuration

The settings of a server with their defaults, what makes a configuration valid, and the values that
follow from it.
-/

namespace Ftp

structure Config where
  /-- The control listener and the passive listeners bind to this address. -/
  bindAddress : IPv4 := .any
  controlPort : UInt16 := 2121
  /-- The session in slot `n` listens for data on the port `n` after this one. -/
  passivePortBase : UInt16 := 50000
  /-- Announced to passive clients outside of the local network. -/
  externalAddress : Option IPv4 := none
  /-- The clients that may connect. Empty: every client may. -/
  allowedClients : List IPv4 := []
  maxSessions : UInt64 := 16
  maxAccounts : UInt64 := 10
  maxNameLength : UInt64 := 32
  maxPasswordLength : UInt64 := 32
  /-- The length of the longest server path that a command may name. -/
  maxPathLength : UInt64 := 512
  /-- The longest command line, with its CR LF. -/
  lineBufferSize : UInt64 := 512
  /-- The number of bytes that one step of a transfer moves at most. -/
  chunkSize : UInt64 := 8192
  /-- In seconds. -/
  sessionTimeout : UInt64 := 600
  /-- How long to wait for events while no transfer is going on, in milliseconds. -/
  pollInterval : UInt64 := 10
  /-- How long to wait for a data connection, in seconds. -/
  connectTimeout : UInt64 := 10
  /-- `SIZE`, `MDTM`, `MLST` and `MLSD` are available. -/
  extensions : Bool := true
  accounts : List Account := []
  deriving DecidableEq, Repr

/-- What is wrong with a configuration. -/
inductive ConfigFault where
  | controlPortZero
  | noSessions
  | passivePortBaseZero
  | passivePortsExceed (first : UInt16) (last : UInt64)
  | lineBufferTooSmall
  | chunkSizeZero
  | sessionTimeoutZero
  | tooManyAccounts (count : Nat) (limit : UInt64)
  | emptyRoot (name : Text)
  deriving DecidableEq, Repr

def ConfigFault.message : ConfigFault → String
  | .controlPortZero => "control_port cannot be 0"
  | .noSessions => "max_sessions must be greater than 0"
  | .passivePortBaseZero => "passive_port_base cannot be 0"
  | .passivePortsExceed first last => s!"passive ports {first}..={last} exceed 65535"
  | .lineBufferTooSmall => "rx_buffer_size must be at least 8"
  | .chunkSizeZero => "transfer_chunk_size must be greater than 0"
  | .sessionTimeoutZero => "session_timeout_secs must be greater than 0"
  | .tooManyAccounts count limit => s!"{count} accounts configured but max_accounts is {limit}"
  | .emptyRoot name => s!"account {String.ofList name} has an empty root"

namespace Config

variable (config : Config)

/-- The passive port of the last slot. -/
def lastPassivePort : Except Panic UInt64 := do
  checkedDifference (← checkedSum config.passivePortBase.toUInt64 config.maxSessions) 1

theorem lastPassivePort_eq_ok_iff {last : UInt64} :
    config.lastPassivePort = .ok last ↔
      config.passivePortBase.toNat + config.maxSessions.toNat < UInt64.size ∧
        config.passivePortBase.toNat + config.maxSessions.toNat = last.toNat + 1 := by
  simp only [lastPassivePort, Panic.bind_eq_ok_iff, checkedSum_eq_ok_iff,
    checkedDifference_eq_ok_iff, UInt16.toNat_toUInt64]
  constructor
  · rintro ⟨sum, hsum, hlast⟩
    exact ⟨hsum ▸ sum.toNat_lt, hsum.trans hlast⟩
  · rintro ⟨hlt, hlast⟩
    have hsum := UInt64.toNat_ofNat_of_lt' hlt
    exact ⟨_, hsum.symm, hsum.trans hlast⟩

theorem lastPassivePort_eq_error_iff {panic : Panic} :
    config.lastPassivePort = .error panic ↔
      UInt64.size ≤ config.passivePortBase.toNat + config.maxSessions.toNat ∧
          panic = .sumOverflow ∨
        config.passivePortBase.toNat + config.maxSessions.toNat = 0 ∧
          panic = .differenceOverflow := by
  simp only [lastPassivePort, Panic.bind_eq_error_iff, checkedSum_eq_ok_iff,
    checkedSum_eq_error_iff, checkedDifference_eq_error_iff, UInt16.toNat_toUInt64]
  refine or_congr_right ⟨?_, ?_⟩
  · rintro ⟨sum, hsum, hlt, rfl⟩
    exact ⟨hsum.trans (Nat.lt_one_iff.1 hlt), rfl⟩
  · rintro ⟨hzero, rfl⟩
    exact ⟨0, hzero, by decide, rfl⟩

/-- The first thing that is wrong with the configuration. -/
def fault? : Except Panic (Option ConfigFault) :=
  if config.controlPort = 0 then .ok (some .controlPortZero)
  else if config.maxSessions = 0 then .ok (some .noSessions)
  else if config.passivePortBase = 0 then .ok (some .passivePortBaseZero)
  else config.lastPassivePort.map fun last =>
    if 65535 < last then some (.passivePortsExceed config.passivePortBase last)
    else if config.lineBufferSize < 8 then some .lineBufferTooSmall
    else if config.chunkSize = 0 then some .chunkSizeZero
    else if config.sessionTimeout = 0 then some .sessionTimeoutZero
    else if config.maxAccounts.toNat < config.accounts.length then
      some (.tooManyAccounts config.accounts.length config.maxAccounts)
    else
      (config.accounts.find? fun account => account.root = []).map fun account =>
        .emptyRoot account.name

/-- Nothing is wrong with the configuration. -/
structure Valid : Prop where
  controlPort_ne_zero : config.controlPort ≠ 0
  maxSessions_ne_zero : config.maxSessions ≠ 0
  passivePortBase_ne_zero : config.passivePortBase ≠ 0
  lastPassivePort_le : ∃ last, config.lastPassivePort = .ok last ∧ last ≤ 65535
  lineBufferSize_ge : 8 ≤ config.lineBufferSize
  chunkSize_ne_zero : config.chunkSize ≠ 0
  sessionTimeout_ne_zero : config.sessionTimeout ≠ 0
  accounts_length_le : config.accounts.length ≤ config.maxAccounts.toNat
  root_ne_nil : ∀ account ∈ config.accounts, account.root ≠ []

section Checks

variable {p : Prop} [Decidable p] {fault : ConfigFault} {panic : Panic}

private theorem check_eq_ok_none_iff {rest : Except Panic (Option ConfigFault)} :
    (if p then .ok (some fault) else rest) = .ok none ↔ ¬p ∧ rest = .ok none := by
  by_cases hp : p <;> simp [hp]

private theorem check_eq_none_iff {rest : Option ConfigFault} :
    (if p then some fault else rest) = none ↔ ¬p ∧ rest = none := by
  by_cases hp : p <;> simp [hp]

private theorem check_eq_error_iff {rest : Except Panic (Option ConfigFault)} :
    (if p then .ok (some fault) else rest) = .error panic ↔ ¬p ∧ rest = .error panic := by
  by_cases hp : p <;> simp [hp]

end Checks

theorem fault?_eq_ok_none_iff : config.fault? = .ok none ↔ config.Valid := by
  simp only [fault?, check_eq_ok_none_iff, Panic.map_eq_ok_iff, check_eq_none_iff,
    Option.map_eq_none_iff, List.find?_eq_none, decide_eq_true_eq, UInt64.not_lt, Nat.not_lt]
  exact ⟨fun ⟨h₁, h₂, h₃, last, h, h₄, h₅, h₆, h₇, h₈, h₉⟩ =>
      ⟨h₁, h₂, h₃, ⟨last, h, h₄⟩, h₅, h₆, h₇, h₈, h₉⟩,
    fun ⟨h₁, h₂, h₃, ⟨last, h, h₄⟩, h₅, h₆, h₇, h₈, h₉⟩ =>
      ⟨h₁, h₂, h₃, last, h, h₄, h₅, h₆, h₇, h₈, h₉⟩⟩

theorem fault?_eq_error_iff {panic : Panic} :
    config.fault? = .error panic ↔ config.controlPort ≠ 0 ∧ config.maxSessions ≠ 0 ∧
      config.passivePortBase ≠ 0 ∧ config.lastPassivePort = .error panic := by
  simp only [fault?, check_eq_error_iff, Panic.map_eq_error_iff, ne_eq]

/-- The address of the control listener. -/
def controlEndpoint : Endpoint :=
  ⟨config.bindAddress, config.controlPort⟩

/-- After so many idle seconds a session is closed. Times are signed words, so no session lasts
longer than the greatest of them. -/
def idleLimit : Int :=
  min config.sessionTimeout.toNat Int64.maxValue.toInt

theorem idleLimit_le_iff {config : Config} {duration : Int}
    (h : duration < Int64.maxValue.toInt) :
    config.idleLimit ≤ duration ↔ config.sessionTimeout.toNat ≤ duration := by
  rw [idleLimit]
  omega

theorem idleLimit_pos {config : Config} (h : config.fault? = .ok none) : 0 < config.idleLimit := by
  have htimeout : config.sessionTimeout.toNat ≠ 0 := fun hzero =>
    (config.fault?_eq_ok_none_iff.1 h).sessionTimeout_ne_zero (UInt64.toNat_inj.1 hzero)
  have hlimit : (0 : Int) < Int64.maxValue.toInt := by decide
  rw [idleLimit]
  omega

/-- How long to wait for a data connection, in milliseconds. -/
def connectWait : Nat :=
  config.connectTimeout.toNat * 1000

def accountLimits : AccountLimits :=
  ⟨config.maxAccounts.toNat, config.maxNameLength.toNat, config.maxPasswordLength.toNat,
    config.maxPathLength.toNat⟩

/-- The registry with the configured accounts. -/
def registry : Except Panic (Except AccountError Registry) :=
  (Registry.empty config.accountLimits).map fun registry => registry.createAll config.accounts

end Config

end Ftp
