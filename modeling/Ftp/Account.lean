import Ftp.Account.Rights
import Ftp.Panic
import Ftp.Text.Utf8

/-!
# Accounts

The registry holds the accounts that can log in, in the order of their creation. An account's
identifier is its position, and positions never change: creating an account under a name that is
taken replaces that account in place.
-/

namespace Ftp

/-- An account that can log in. -/
structure Account where
  name : Text
  /-- Empty: every password is accepted. -/
  password : Text
  /-- The server directory that holds everything the account can reach. -/
  root : Text
  rights : Rights
  deriving DecidableEq, Repr

/-- The place of an account in the registry. -/
structure AccountId where
  index : Nat
  deriving DecidableEq, Repr

/-- Accounts are numbered from one. -/
def AccountId.number (id : AccountId) : Nat :=
  id.index + 1

/-- What a registry accepts. Lengths are counted in bytes of UTF-8. -/
structure AccountLimits where
  accounts : Nat
  nameLength : Nat
  passwordLength : Nat
  pathLength : Nat
  deriving DecidableEq, Repr

/-- Why an account cannot be created. -/
inductive AccountError where
  | registryFull (limit : Nat)
  | emptyName
  | nameTooLong (limit : Nat)
  | passwordTooLong (name : Text) (limit : Nat)
  | rootTooLong (name : Text) (limit : Nat)
  deriving DecidableEq, Repr

def AccountError.message : AccountError → String
  | .registryFull limit => s!"account registry is full ({limit} accounts)"
  | .emptyName => "account name must not be empty"
  | .nameTooLong limit => s!"account name exceeds {limit} characters"
  | .passwordTooLong name limit =>
    s!"password for account {String.ofList name} exceeds {limit} characters"
  | .rootTooLong name limit =>
    s!"root path for account {String.ofList name} exceeds {limit} characters"

/-- The accounts of a server. -/
structure Registry where
  limits : AccountLimits
  accounts : List Account := []
  deriving DecidableEq, Repr

namespace Registry

/-- What an account takes of memory, in bytes, its texts apart. -/
def accountSize : Nat := 80

/-- A registry without accounts. Room for as many as it may ever hold is set aside at once. -/
def empty (limits : AccountLimits) : Except Panic Registry :=
  allocate limits.accounts accountSize { limits }

variable (registry : Registry)

/-- The first limit that an account breaks, whatever the registry holds. -/
def refusal? (limits : AccountLimits) (account : Account) : Option AccountError :=
  if account.name = [] then some .emptyName
  else if limits.nameLength < Utf8.length account.name then some (.nameTooLong limits.nameLength)
  else if limits.passwordLength < Utf8.length account.password then
    some (.passwordTooLong account.name limits.passwordLength)
  else if limits.pathLength < Utf8.length account.root then
    some (.rootTooLong account.name limits.pathLength)
  else none

/-- The account with the name. -/
def find? (name : Text) : Option AccountId :=
  (registry.accounts.findIdx? fun account => account.name = name).map AccountId.mk

def get? (id : AccountId) : Option Account :=
  registry.accounts[id.index]?

/-- Adds an account, or replaces the one with its name. -/
def create (account : Account) : Except AccountError (AccountId × Registry) :=
  match refusal? registry.limits account with
  | some error => .error error
  | none =>
    match registry.find? account.name with
    | some id => .ok (id, { registry with accounts := registry.accounts.set id.index account })
    | none =>
      if registry.limits.accounts ≤ registry.accounts.length then
        .error (.registryFull registry.limits.accounts)
      else
        .ok (⟨registry.accounts.length⟩,
          { registry with accounts := registry.accounts ++ [account] })

/-- Adds accounts in order, up to the first that is refused. -/
def createAll (accounts : List Account) : Except AccountError Registry :=
  accounts.foldlM (fun registry account => (registry.create account).map Prod.snd) registry

/-- The account exists and the password opens it. -/
def acceptsPassword (id : AccountId) (password : Text) : Bool :=
  match registry.get? id with
  | some account => account.password = [] || account.password = password
  | none => false

/-- The account exists and holds every right of `needed`. -/
def grants (id : AccountId) (needed : Rights) : Bool :=
  match registry.get? id with
  | some account => account.rights.contains needed
  | none => false

/-- The root directory of the account. -/
def root? (id : AccountId) : Option Text :=
  (registry.get? id).map Account.root

end Registry

end Ftp
