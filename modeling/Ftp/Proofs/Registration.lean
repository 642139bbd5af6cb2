import Mathlib.Data.List.Induction
import Mathlib.Data.List.Nodup
import Ftp.Config
import Ftp.Proofs.Login

/-!
# The law of the registry

A registry comes about by calls that create accounts, of which those that are refused do nothing. An
account is found under its name and under no other, and keeps its identifier whatever is created
later. So a list of accounts gives each name the number of its first occurrence, and the account of
its last one.

* `Registry.creation`: what a call comes to;
* `Registry.Sound.attempts`: no two accounts share a name, and all keep to the limits;
* `Registry.createAll_eq`: accounts for which there is room are refused only by the limits;
* `Registry.lawful_attempts`: the registry after any calls, and that of a configuration.
-/

namespace Ftp

/-- The account keeps to the limits. -/
structure AccountLimits.Admits (limits : AccountLimits) (account : Account) : Prop where
  name_ne_nil : account.name ≠ []
  name_le : Utf8.length account.name ≤ limits.nameLength
  password_le : Utf8.length account.password ≤ limits.passwordLength
  root_le : Utf8.length account.root ≤ limits.pathLength

/-- No later account of the list has the name. -/
def Account.Latest (account : Account) (accounts : List Account) : Prop :=
  ∃ before after, accounts = before ++ account :: after ∧
    ∀ later ∈ after, later.name ≠ account.name

namespace Registry

/-- The registry after a call that creates the account, or does not. -/
def attempt (registry : Registry) (account : Account) : Registry :=
  match registry.create account with
  | .ok (_, registry) => registry
  | .error _ => registry

/-- The registry after some calls. -/
def attempts (registry : Registry) (accounts : List Account) : Registry :=
  accounts.foldl attempt registry

/-- The identifier stands for an account of the name. -/
def Denotes (registry : Registry) (id : AccountId) (name : Text) : Prop :=
  ∃ account, registry.get? id = some account ∧ account.name = name

/-- No two accounts share a name, and all of them keep to the limits. -/
structure Sound (registry : Registry) : Prop where
  nodup : (registry.accounts.map Account.name).Nodup
  admits : ∀ account ∈ registry.accounts, registry.limits.Admits account
  length_le : registry.accounts.length ≤ registry.limits.accounts

/-! ## One call -/

theorem refusal?_eq_none_iff {limits : AccountLimits} {account : Account} :
    refusal? limits account = none ↔ limits.Admits account := by
  have hite : ∀ {p : Prop} [Decidable p] {error : AccountError} {rest : Option AccountError},
      (if p then some error else rest) = none ↔ ¬p ∧ rest = none := by
    intro p _ error rest
    by_cases hp : p <;> simp [hp]
  simp only [refusal?, hite, Nat.not_lt, and_true]
  exact ⟨fun ⟨h₁, h₂, h₃, h₄⟩ => ⟨h₁, h₂, h₃, h₄⟩, fun ⟨h₁, h₂, h₃, h₄⟩ => ⟨h₁, h₂, h₃, h₄⟩⟩

theorem refusal?_ne_registryFull {limits : AccountLimits} {account : Account} {limit : Nat} :
    refusal? limits account ≠ some (.registryFull limit) := by
  unfold refusal?
  split
  · simp
  split
  · simp
  split
  · simp
  split <;> simp

/-- What a call that creates an account comes to. -/
inductive Creation (registry : Registry) (account : Account) :
    Except AccountError (AccountId × Registry) → Prop
  | refused {error : AccountError} (refusal : refusal? registry.limits account = some error) :
    Creation registry account (.error error)
  | replaced {id : AccountId} (admits : registry.limits.Admits account)
    (found : registry.find? account.name = some id) :
    Creation registry account
      (.ok (id, { registry with accounts := registry.accounts.set id.index account }))
  | full (admits : registry.limits.Admits account) (new : registry.find? account.name = none)
    (full : registry.limits.accounts ≤ registry.accounts.length) :
    Creation registry account (.error (.registryFull registry.limits.accounts))
  | added (admits : registry.limits.Admits account) (new : registry.find? account.name = none)
    (room : registry.accounts.length < registry.limits.accounts) :
    Creation registry account (.ok (⟨registry.accounts.length⟩,
      { registry with accounts := registry.accounts ++ [account] }))

theorem creation (registry : Registry) (account : Account) :
    Creation registry account (registry.create account) := by
  unfold create
  split
  · rename_i error hrefusal
    exact .refused hrefusal
  · rename_i hrefusal
    have hadmits := refusal?_eq_none_iff.1 hrefusal
    split
    · rename_i id hfound
      exact .replaced hadmits hfound
    · rename_i hnew
      split
      · rename_i hfull
        exact .full hadmits hnew hfull
      · rename_i hroom
        exact .added hadmits hnew (Nat.lt_of_not_le hroom)

section Calls

variable {registry registry' : Registry} {account : Account} {id : AccountId} {name : Text}

theorem find?_eq_none_iff :
    registry.find? name = none ↔ name ∉ registry.accounts.map Account.name := by
  simp only [find?, Option.map_eq_none_iff, List.findIdx?_eq_none_iff, decide_eq_false_iff_not,
    List.mem_map, not_exists, not_and]

theorem Sound.find?_eq_some_iff (h : registry.Sound) :
    registry.find? name = some id ↔ registry.Denotes id name := by
  refine ⟨exists_of_find?, ?_⟩
  rintro ⟨account, hget, rfl⟩
  obtain ⟨hlt, hget⟩ := List.getElem?_eq_some_iff.1 hget
  refine Option.map_eq_some_iff.2 ⟨id.index, List.findIdx?_eq_some_iff_getElem.2
    ⟨hlt, by simp [hget], fun earlier hearlier heq => ?_⟩, rfl⟩
  -- No earlier account has the name, since no two accounts do.
  have hlt' : id.index < (registry.accounts.map Account.name).length := by simpa using hlt
  have hearlier' : earlier < (registry.accounts.map Account.name).length :=
    Nat.lt_trans hearlier hlt'
  have hindex : (registry.accounts.map Account.name)[earlier] =
      (registry.accounts.map Account.name)[id.index] := by
    simpa [hget] using heq
  exact absurd ((List.Nodup.getElem_inj_iff h.nodup).1 hindex) (Nat.ne_of_lt hearlier)

theorem get?_set (found : registry.find? account.name = some id) (other : AccountId) :
    ({ registry with accounts := registry.accounts.set id.index account } : Registry).get? other =
      if other = id then some account else registry.get? other := by
  obtain ⟨old, hold, -⟩ := exists_of_find? found
  have hlt : id.index < registry.accounts.length := (List.getElem?_eq_some_iff.1 hold).1
  split
  · rename_i heq
    rw [heq]
    exact List.getElem?_set_self hlt
  · rename_i hne
    refine List.getElem?_set_ne fun heq => hne ?_
    cases other
    cases id
    exact congrArg AccountId.mk heq.symm

theorem get?_concat (registry : Registry) (account : Account) (other : AccountId) :
    ({ registry with accounts := registry.accounts ++ [account] } : Registry).get? other =
      if other = ⟨registry.accounts.length⟩ then some account else registry.get? other := by
  split
  · rename_i heq
    rw [heq]
    exact List.getElem?_concat_length
  · rename_i hne
    have hindex : other.index ≠ registry.accounts.length := fun heq => hne (by rw [← heq])
    rcases Nat.lt_or_gt_of_ne hindex with hlt | hgt
    · exact List.getElem?_append_left hlt
    · have hnew : (registry.accounts ++ [account])[other.index]? = none :=
        List.getElem?_eq_none (by simp; omega)
      have hold : registry.accounts[other.index]? = none :=
        List.getElem?_eq_none (Nat.le_of_lt hgt)
      exact hnew.trans hold.symm

/-- A call that succeeds puts the account where it says, and changes nothing else. -/
theorem get?_of_create (h : registry.create account = .ok (id, registry')) (other : AccountId) :
    registry'.get? other = if other = id then some account else registry.get? other := by
  have hcreation := registry.creation account
  rw [h] at hcreation
  cases hcreation with
  | replaced _ found => exact get?_set found other
  | added => exact get?_concat registry account other

/-- It takes the identifier of its name, or the first one that is free. -/
theorem id_of_create (h : registry.create account = .ok (id, registry')) :
    registry.find? account.name = some id ∨
      registry.find? account.name = none ∧ id = ⟨registry.accounts.length⟩ := by
  have hcreation := registry.creation account
  rw [h] at hcreation
  cases hcreation with
  | replaced _ found => exact .inl found
  | added _ new => exact .inr ⟨new, rfl⟩

theorem names_set (found : registry.find? account.name = some id) :
    (registry.accounts.set id.index account).map Account.name =
      registry.accounts.map Account.name := by
  obtain ⟨old, hold, hname⟩ := exists_of_find? found
  obtain ⟨hlt, hold⟩ := List.getElem?_eq_some_iff.1 hold
  have hlt' : id.index < (registry.accounts.map Account.name).length := by simpa using hlt
  have hsame : account.name = (registry.accounts.map Account.name)[id.index] := by
    rw [List.getElem_map, hold, hname]
  rw [List.map_set, hsame]
  exact List.set_getElem_self hlt'

/-- A name that is new comes last. -/
theorem names_of_create (h : registry.create account = .ok (id, registry')) :
    registry'.accounts.map Account.name =
      if account.name ∈ registry.accounts.map Account.name then registry.accounts.map Account.name
      else registry.accounts.map Account.name ++ [account.name] := by
  have hcreation := registry.creation account
  rw [h] at hcreation
  cases hcreation with
  | replaced _ found =>
    have hmem : account.name ∈ registry.accounts.map Account.name :=
      Decidable.not_not.1 fun hnew => by simp [find?_eq_none_iff.2 hnew] at found
    rw [if_pos hmem]
    exact names_set found
  | added _ new =>
    rw [if_neg (find?_eq_none_iff.1 new)]
    exact List.map_append

theorem attempt_eq_of_ok (h : registry.create account = .ok (id, registry')) :
    registry.attempt account = registry' := by
  rw [attempt, h]

theorem attempt_eq_of_error {error : AccountError} (h : registry.create account = .error error) :
    registry.attempt account = registry := by
  rw [attempt, h]

theorem attempt_eq (registry : Registry) (account : Account) :
    registry.attempt account = registry ∨
      (∃ id, registry.limits.Admits account ∧ registry.find? account.name = some id ∧
        registry.attempt account =
          { registry with accounts := registry.accounts.set id.index account }) ∨
      (registry.limits.Admits account ∧ registry.find? account.name = none ∧
        registry.accounts.length < registry.limits.accounts ∧
        registry.attempt account =
          { registry with accounts := registry.accounts ++ [account] }) := by
  have hcreation := registry.creation account
  unfold attempt
  generalize registry.create account = result at hcreation ⊢
  cases hcreation with
  | refused | full => exact .inl rfl
  | @replaced id admits found => exact .inr (.inl ⟨id, admits, found, rfl⟩)
  | added admits new room => exact .inr (.inr ⟨admits, new, room, rfl⟩)

theorem limits_attempt (registry : Registry) (account : Account) :
    (registry.attempt account).limits = registry.limits := by
  rcases registry.attempt_eq account with heq | ⟨_, _, _, heq⟩ | ⟨_, _, _, heq⟩ <;> rw [heq]

theorem length_attempt_le (registry : Registry) (account : Account) :
    (registry.attempt account).accounts.length ≤ registry.accounts.length + 1 := by
  rcases registry.attempt_eq account with heq | ⟨_, _, _, heq⟩ | ⟨_, _, _, heq⟩ <;> simp [heq]

theorem Sound.attempt (h : registry.Sound) (account : Account) :
    (registry.attempt account).Sound := by
  rcases registry.attempt_eq account with heq | ⟨id, admits, found, heq⟩ | ⟨admits, new, room, heq⟩
  · rwa [heq]
  · rw [heq]
    refine ⟨?_, fun other hmem => ?_, ?_⟩
    · exact names_set found ▸ h.nodup
    · rcases List.mem_or_eq_of_mem_set hmem with hmem | rfl
      · exact h.admits other hmem
      · exact admits
    · exact Nat.le_trans (Nat.le_of_eq (List.length_set ..)) h.length_le
  · rw [heq]
    refine ⟨?_, fun other hmem => ?_, ?_⟩
    · have hnew := find?_eq_none_iff.1 new
      rw [List.map_append, List.nodup_append]
      refine ⟨h.nodup, List.nodup_singleton _, ?_⟩
      rintro name hname _ hlast rfl
      exact hnew (List.mem_singleton.1 hlast ▸ hname)
    · rcases List.mem_append.1 hmem with hmem | hmem
      · exact h.admits other hmem
      · exact List.mem_singleton.1 hmem ▸ admits
    · simpa using Nat.succ_le_of_lt room

/-- An identifier goes on standing for its name. -/
theorem Denotes.attempt (h : registry.Denotes id name) (account : Account) :
    (registry.attempt account).Denotes id name := by
  cases hcreate : registry.create account with
  | error error => rwa [attempt_eq_of_error hcreate]
  | ok created =>
    rw [attempt_eq_of_ok hcreate]
    obtain ⟨old, hold, hname⟩ := h
    unfold Denotes
    rw [get?_of_create hcreate]
    split
    · rename_i heq
      refine ⟨account, rfl, ?_⟩
      rcases id_of_create hcreate with hfound | ⟨-, hfree⟩
      · obtain ⟨same, hsame, hsameName⟩ := exists_of_find? hfound
        rw [← heq, hold] at hsame
        rw [← hsameName, ← Option.some.inj hsame, hname]
      · rw [heq, hfree] at hold
        exact absurd (List.getElem?_eq_some_iff.1 hold).1 (Nat.lt_irrefl _)
    · exact ⟨old, hold, hname⟩

theorem create_eq_registryFull_iff {limit : Nat} :
    registry.create account = .error (.registryFull limit) ↔
      registry.limits.Admits account ∧ registry.find? account.name = none ∧
        registry.limits.accounts ≤ registry.accounts.length ∧
        limit = registry.limits.accounts := by
  have hcreation := registry.creation account
  generalize registry.create account = result at hcreation
  cases hcreation with
  | refused refusal =>
    refine ⟨fun h => ?_, fun ⟨admits, _⟩ => ?_⟩
    · cases h
      exact absurd refusal refusal?_ne_registryFull
    · rw [refusal?_eq_none_iff.2 admits] at refusal
      cases refusal
  | replaced _ found => simp [found]
  | full admits new full =>
    exact ⟨fun h => by cases h; exact ⟨admits, new, full, rfl⟩, fun ⟨_, _, _, heq⟩ => heq ▸ rfl⟩
  | added _ _ room => simpa using fun _ _ hfull => absurd room (Nat.not_lt.2 hfull)

/-- A call can only be refused for its limits or for want of room. -/
theorem exists_create_iff :
    (∃ created, registry.create account = .ok created) ↔
      registry.limits.Admits account ∧
        (registry.find? account.name = none →
          registry.accounts.length < registry.limits.accounts) := by
  have hcreation := registry.creation account
  generalize registry.create account = result at hcreation
  cases hcreation with
  | refused refusal =>
    refine ⟨nofun, fun ⟨admits, _⟩ => ?_⟩
    rw [refusal?_eq_none_iff.2 admits] at refusal
    cases refusal
  | replaced admits found => simpa [found] using admits
  | full admits new full => simp [new, Nat.not_lt.2 full]
  | added admits _ room => simpa [room] using admits

end Calls

/-! ## Some calls -/

section Sequence

variable {registry : Registry} {account : Account} {accounts : List Account}

theorem attempts_concat (registry : Registry) (accounts : List Account) (account : Account) :
    registry.attempts (accounts ++ [account]) = (registry.attempts accounts).attempt account := by
  simp [attempts]

theorem limits_attempts (registry : Registry) (accounts : List Account) :
    (registry.attempts accounts).limits = registry.limits := by
  induction accounts generalizing registry with
  | nil => rfl
  | cons account rest ih => exact (ih _).trans (limits_attempt registry account)

theorem Sound.empty (limits : AccountLimits) : Sound ⟨limits, []⟩ :=
  ⟨List.nodup_nil, List.forall_mem_nil _, Nat.zero_le _⟩

theorem Sound.attempts (h : registry.Sound) (accounts : List Account) :
    (registry.attempts accounts).Sound := by
  induction accounts generalizing registry with
  | nil => exact h
  | cons account rest ih => exact ih (h.attempt account)

theorem Denotes.attempts {id : AccountId} {name : Text} (h : registry.Denotes id name)
    (accounts : List Account) : (registry.attempts accounts).Denotes id name := by
  induction accounts generalizing registry with
  | nil => exact h
  | cons account rest ih => exact ih (h.attempt account)

/-- As long as there is room, accounts are created up to the first that breaks a limit. -/
theorem createAll_eq
    (room : registry.accounts.length + accounts.length ≤ registry.limits.accounts) :
    registry.createAll accounts =
      match accounts.findSome? (refusal? registry.limits) with
      | some error => .error error
      | none => .ok (registry.attempts accounts) := by
  induction accounts generalizing registry with
  | nil => rfl
  | cons account rest ih =>
    have hcreation := registry.creation account
    have hstep : registry.createAll (account :: rest) =
        (registry.create account).map Prod.snd >>= fun registry => registry.createAll rest := rfl
    have hattempts : registry.attempts (account :: rest) =
        (registry.attempt account).attempts rest := rfl
    rw [hstep, hattempts, Registry.attempt]
    simp only [List.length_cons] at room
    generalize registry.create account = result at hcreation
    cases hcreation with
    | refused refusal =>
      rw [List.findSome?_cons, refusal]
      rfl
    | @replaced id admits found =>
      rw [List.findSome?_cons, refusal?_eq_none_iff.2 admits]
      have hroom : (registry.accounts.set id.index account).length + rest.length ≤
          registry.limits.accounts := by
        rw [List.length_set]
        omega
      exact ih hroom
    | full _ _ full => omega
    | added admits _ _ =>
      rw [List.findSome?_cons, refusal?_eq_none_iff.2 admits]
      have hroom : (registry.accounts ++ [account]).length + rest.length ≤
          registry.limits.accounts := by
        simp only [List.length_append, List.length_singleton]
        omega
      exact ih hroom

theorem length_attempts_le (registry : Registry) (accounts : List Account) :
    (registry.attempts accounts).accounts.length ≤ registry.accounts.length + accounts.length := by
  induction accounts generalizing registry with
  | nil => exact Nat.le_refl _
  | cons account rest ih =>
    have hstep := registry.length_attempt_le account
    have hrest := ih (registry.attempt account)
    have hattempts : registry.attempts (account :: rest) =
        (registry.attempt account).attempts rest := rfl
    rw [hattempts, List.length_cons]
    omega

theorem eraseDups_concat {names : List Text} {name : Text} :
    (names ++ [name]).eraseDups =
      if name ∈ names then names.eraseDups else names.eraseDups ++ [name] := by
  rw [List.eraseDups_append]
  split
  · rename_i hmem
    simp [List.removeAll, hmem]
  · rename_i hnew
    simp [List.removeAll, hnew, List.eraseDups_cons]

/-- With room for all of them, accounts that keep to the limits are all created. -/
theorem exists_create_attempts {limits : AccountLimits} (accounts : List Account)
    (admits : limits.Admits account) (room : accounts.length < limits.accounts) :
    ∃ id registry, (attempts ⟨limits, []⟩ accounts).create account = .ok (id, registry) := by
  have hlimits : (attempts ⟨limits, []⟩ accounts).limits = limits := limits_attempts _ accounts
  have hlength := length_attempts_le ⟨limits, []⟩ accounts
  have hroom : (attempts ⟨limits, []⟩ accounts).accounts.length < limits.accounts :=
    Nat.lt_of_le_of_lt (by simpa using hlength) room
  obtain ⟨⟨id, registry⟩, hcreate⟩ := exists_create_iff.2
    ⟨hlimits.symm ▸ admits, fun _ => hlimits.symm ▸ hroom⟩
  exact ⟨id, registry, hcreate⟩

/-- Names are then numbered in the order in which they occur first. -/
theorem names_attempts {limits : AccountLimits}
    (admits : ∀ account ∈ accounts, limits.Admits account)
    (room : accounts.length ≤ limits.accounts) :
    (attempts ⟨limits, []⟩ accounts).accounts.map Account.name =
      (accounts.map Account.name).eraseDups := by
  induction accounts using List.reverseRecOn with
  | nil => rfl
  | append_singleton accounts account ih =>
    simp only [List.length_append, List.length_singleton] at room
    simp only [List.mem_append, List.mem_singleton, or_imp, forall_and, forall_eq] at admits
    have hnames := ih admits.1 (by omega)
    obtain ⟨id, registry, hcreate⟩ := exists_create_attempts accounts admits.2 room
    rw [attempts_concat, attempt_eq_of_ok hcreate, names_of_create hcreate, hnames,
      List.map_append, List.map_singleton, eraseDups_concat]
    simp only [List.mem_eraseDups]

/-- And an account of the registry is the last one of its name. -/
theorem latest_of_get?_attempts {limits : AccountLimits}
    (admits : ∀ account ∈ accounts, limits.Admits account)
    (room : accounts.length ≤ limits.accounts) {id : AccountId}
    (h : (attempts ⟨limits, []⟩ accounts).get? id = some account) :
    account.Latest accounts := by
  induction accounts using List.reverseRecOn generalizing id account with
  | nil => simp [attempts, get?] at h
  | append_singleton accounts last ih =>
    simp only [List.length_append, List.length_singleton] at room
    simp only [List.mem_append, List.mem_singleton, or_imp, forall_and, forall_eq] at admits
    obtain ⟨new, registry, hcreate⟩ := exists_create_attempts accounts admits.2 room
    rw [attempts_concat, attempt_eq_of_ok hcreate, get?_of_create hcreate] at h
    split at h
    · exact ⟨accounts, [], by rw [Option.some.inj h], List.forall_mem_nil _⟩
    · rename_i hne
      obtain ⟨before, after, haccounts, hafter⟩ := ih admits.1 (by omega) h
      refine ⟨before, after ++ [last], by simp [haccounts], fun later hlater => ?_⟩
      rcases List.mem_append.1 hlater with hlater | hlater
      · exact hafter later hlater
      -- Another account of that name would have been replaced.
      intro heq
      rw [List.mem_singleton.1 hlater] at heq
      have hsound := (Sound.empty limits).attempts accounts
      have hfound := hsound.find?_eq_some_iff.2 ⟨account, h, heq.symm⟩
      rcases id_of_create hcreate with hnew | ⟨hnew, -⟩
      · exact hne (Option.some.inj (hfound.symm.trans hnew))
      · cases hfound.symm.trans hnew

end Sequence

/-! ## The law -/

/-- What holds of a registry with these limits, and of every call that it may serve. -/
structure Lawful (limits : AccountLimits) (registry : Registry) : Prop where
  limits_eq : registry.limits = limits
  sound : registry.Sound
  find?_eq_some_iff (name : Text) (id : AccountId) :
    registry.find? name = some id ↔ registry.Denotes id name
  /-- What an identifier stands for is settled once and for all. -/
  lasting (id : AccountId) (name : Text) (later : List Account) :
    registry.Denotes id name → (registry.attempts later).Denotes id name
  /-- A call that succeeds gives the identifier of the name, or the first one that is free, and
  changes nothing else. -/
  created (account : Account) (id : AccountId) (registry' : Registry) :
    registry.create account = .ok (id, registry') →
      (registry.find? account.name = some id ∨
        registry.find? account.name = none ∧ id = ⟨registry.accounts.length⟩) ∧
      registry'.limits = limits ∧
      ∀ other, registry'.get? other = if other = id then some account else registry.get? other
  /-- An account can be replaced at any time. -/
  exists_create_iff (account : Account) :
    (∃ created, registry.create account = .ok created) ↔ limits.Admits account ∧
      (registry.find? account.name = none → registry.accounts.length < limits.accounts)
  /-- A call that fails changes nothing. -/
  failed (account : Account) (error : AccountError) :
    registry.create account = .error error → registry.attempt account = registry
  create_eq_registryFull_iff (account : Account) (limit : Nat) :
    registry.create account = .error (.registryFull limit) ↔
      limits.Admits account ∧ registry.find? account.name = none ∧
        limits.accounts ≤ registry.accounts.length ∧ limit = limits.accounts

end Registry

/-- Room for as many accounts as the limits allow may be asked for. -/
def AccountLimits.Fit (limits : AccountLimits) : Prop :=
  Allocatable limits.accounts Registry.accountSize

/-- What comes of the accounts of a configuration. -/
structure Config.Provisions (config : Config) : Prop where
  /-- There is no registry, not even a refused one, if the accounts are allowed to be too many for
  the memory. -/
  eq_panic_iff (panic : Panic) :
    config.registry = .error panic ↔ panic = .capacityOverflow ∧ ¬config.accountLimits.Fit
  ne_registryFull (limit : Nat) : config.registry ≠ .ok (.error (.registryFull limit))
  /-- The registry is refused for the first account that breaks a limit. -/
  eq_error_iff (error : AccountError) :
    config.registry = .ok (.error error) ↔ config.accountLimits.Fit ∧
      ∃ before account after, config.accounts = before ++ account :: after ∧
        (∀ earlier ∈ before, config.accountLimits.Admits earlier) ∧
        Registry.refusal? config.accountLimits account = some error
  exists_eq_ok_iff :
    (∃ registry, config.registry = .ok (.ok registry)) ↔ config.accountLimits.Fit ∧
      ∀ account ∈ config.accounts, config.accountLimits.Admits account
  eq_ok (registry : Registry) :
    config.registry = .ok (.ok registry) →
      Registry.Lawful config.accountLimits registry ∧
      registry.accounts.map Account.name = (config.accounts.map Account.name).eraseDups ∧
      ∀ id account, registry.get? id = some account → account.Latest config.accounts

namespace Registry

theorem lawful_of_sound {limits : AccountLimits} {registry : Registry} (h : registry.Sound)
    (hlimits : registry.limits = limits) : Lawful limits registry where
  limits_eq := hlimits
  sound := h
  find?_eq_some_iff _ _ := h.find?_eq_some_iff
  lasting _ _ later hdenotes := hdenotes.attempts later
  created account id registry' hcreate :=
    ⟨id_of_create hcreate, by rw [← attempt_eq_of_ok hcreate, limits_attempt, hlimits],
      get?_of_create hcreate⟩
  exists_create_iff _ := hlimits ▸ exists_create_iff
  failed _ _ := attempt_eq_of_error
  create_eq_registryFull_iff _ _ := hlimits ▸ create_eq_registryFull_iff

theorem empty_eq_ok_iff {limits : AccountLimits} {registry : Registry} :
    empty limits = .ok registry ↔ limits.Fit ∧ ⟨limits, []⟩ = registry :=
  allocate_eq_ok_iff

theorem empty_eq_error_iff {limits : AccountLimits} {panic : Panic} :
    empty limits = .error panic ↔ panic = .capacityOverflow ∧ ¬limits.Fit :=
  allocate_eq_error_iff.trans and_comm

theorem lawful_attempts_empty (limits : AccountLimits) (calls : List Account) :
    Lawful limits (attempts ⟨limits, []⟩ calls) :=
  lawful_of_sound ((Sound.empty limits).attempts calls) (limits_attempts _ calls)

end Registry

namespace Config

variable {config : Config}

theorem registry_eq_iff (h : config.fault? = .ok none)
    {outcome : Except AccountError Registry} :
    config.registry = .ok outcome ↔ config.accountLimits.Fit ∧
      (match config.accounts.findSome? (Registry.refusal? config.accountLimits) with
      | some error => .error error
      | none => .ok (Registry.attempts ⟨config.accountLimits, []⟩ config.accounts)) = outcome := by
  have hroom : config.accounts.length ≤ config.accountLimits.accounts :=
    (config.fault?_eq_ok_none_iff.1 h).accounts_length_le
  have hcreate : Registry.createAll ⟨config.accountLimits, []⟩ config.accounts = _ :=
    Registry.createAll_eq (by simpa using hroom)
  simp only [registry, Panic.map_eq_ok_iff, Registry.empty_eq_ok_iff, and_assoc, exists_and_left,
    exists_eq_left', hcreate]

theorem registry_eq_error_iff (h : config.fault? = .ok none) {error : AccountError} :
    config.registry = .ok (.error error) ↔ config.accountLimits.Fit ∧
      config.accounts.findSome? (Registry.refusal? config.accountLimits) = some error := by
  rw [registry_eq_iff h]
  cases config.accounts.findSome? (Registry.refusal? config.accountLimits) <;> simp

theorem registry_eq_ok_iff (h : config.fault? = .ok none) {registry : Registry} :
    config.registry = .ok (.ok registry) ↔ config.accountLimits.Fit ∧
      (∀ account ∈ config.accounts, config.accountLimits.Admits account) ∧
        registry = Registry.attempts ⟨config.accountLimits, []⟩ config.accounts := by
  simp only [← Registry.refusal?_eq_none_iff, ← List.findSome?_eq_none_iff]
  rw [registry_eq_iff h]
  cases config.accounts.findSome? (Registry.refusal? config.accountLimits) <;> simp [eq_comm]

theorem provisions (h : config.fault? = .ok none) : config.Provisions where
  eq_panic_iff _ := Panic.map_eq_error_iff.trans Registry.empty_eq_error_iff
  ne_registryFull limit hfull := by
    obtain ⟨account, -, hrefusal⟩ :=
      List.exists_of_findSome?_eq_some ((registry_eq_error_iff h).1 hfull).2
    exact Registry.refusal?_ne_registryFull hrefusal
  eq_error_iff error := by
    rw [registry_eq_error_iff h, List.findSome?_eq_some_iff]
    simp only [Registry.refusal?_eq_none_iff, and_comm]
  exists_eq_ok_iff := by simp only [registry_eq_ok_iff h, exists_and_left, exists_eq, and_true]
  eq_ok registry hok := by
    obtain ⟨-, hadmits, rfl⟩ := (registry_eq_ok_iff h).1 hok
    have hroom := (config.fault?_eq_ok_none_iff.1 h).accounts_length_le
    exact ⟨Registry.lawful_attempts_empty _ _, Registry.names_attempts hadmits hroom,
      fun _ _ hget => Registry.latest_of_get?_attempts hadmits hroom hget⟩

end Config

/-- A registry is to be had exactly if its limits fit. After any calls it keeps to its law, and that
of a configuration without a fault comes of its accounts as it should. -/
theorem Registry.lawful_attempts (limits : AccountLimits) (calls : List Account) :
    (∀ panic, empty limits = .error panic ↔ panic = .capacityOverflow ∧ ¬limits.Fit) ∧
      (∀ registry, empty limits = .ok registry → Lawful limits (registry.attempts calls)) ∧
      ∀ config : Config, config.fault? = .ok none → config.Provisions := by
  refine ⟨fun _ => empty_eq_error_iff, fun registry hempty => ?_, fun _ => Config.provisions⟩
  obtain ⟨-, rfl⟩ := empty_eq_ok_iff.1 hempty
  exact lawful_attempts_empty limits calls

/-- A name that is configured twice keeps its number and gets the later root. -/
theorem Registry.lawful_attempts_repeated :
    let early : Account := ⟨"ada", "", "/old", .all⟩
    let other : Account := ⟨"bob", "", "/", .empty⟩
    let late : Account := ⟨"ada", "key", "/new", .empty⟩
    let config : Config := { accounts := [early, other, late] }
    empty ⟨1, 8, 8, 8⟩ = .ok ⟨⟨1, 8, 8, 8⟩, []⟩ ∧
      Lawful ⟨1, 8, 8, 8⟩ (attempts ⟨⟨1, 8, 8, 8⟩, []⟩ [early, other, late]) ∧
      attempts ⟨⟨1, 8, 8, 8⟩, []⟩ [early, other, late] = ⟨⟨1, 8, 8, 8⟩, [late]⟩ ∧
      config.fault? = .ok none ∧ config.Provisions ∧
      config.registry = .ok (.ok ⟨config.accountLimits, [late, other]⟩) := by
  intro early other late config
  obtain ⟨-, hlawful, hprovisions⟩ :=
    Registry.lawful_attempts ⟨1, 8, 8, 8⟩ [early, other, late]
  have hempty : empty ⟨1, 8, 8, 8⟩ = .ok ⟨⟨1, 8, 8, 8⟩, []⟩ := by decide
  have hvalid : config.fault? = .ok none := by decide
  exact ⟨hempty, hlawful _ hempty, by decide, hvalid, hprovisions config hvalid, by decide⟩

/-- No limit is too large for the check of a configuration, but there are some for which no registry
can be made, though the only account keeps to all of them. -/
theorem Config.registry_overflow :
    let ada : Account := ⟨"ada", "", "/", .all⟩
    let config : Config := { maxAccounts := 18446744073709551615, accounts := [ada] }
    config.fault? = .ok none ∧ config.accountLimits.Admits ada ∧
      config.registry = .error .capacityOverflow := by
  intro ada config
  exact ⟨by decide, Registry.refusal?_eq_none_iff.1 (by decide), by decide⟩

end Ftp
