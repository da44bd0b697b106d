/-! Claims: exclusive rights to a name, kept in a guard until they are released. -/

namespace Gutter

/-- A right to `name`. -/
structure Claim (α : Type) where
  name : α
  released : Bool
deriving DecidableEq, Repr

/-- The names that are claimed; each stands in it once. -/
structure Guard (α : Type) where
  names : List α
deriving DecidableEq, Repr

namespace Guard

variable {α : Type} [DecidableEq α]

def empty : Guard α := ⟨[]⟩

def contains (guard : Guard α) (name : α) : Bool := guard.names.contains name

/-- The guard with `name` in it. -/
def mark (guard : Guard α) (name : α) : Guard α :=
  if guard.contains name then guard else ⟨guard.names ++ [name]⟩

/-- The guard without `name`. -/
def erase (guard : Guard α) (name : α) : Guard α := ⟨guard.names.filter (· ≠ name)⟩

/-- Claims a name, unless it is claimed. -/
def acquire? (guard : Guard α) (name : α) : Option (Guard α × Claim α) :=
  if guard.contains name then none else some (guard.mark name, ⟨name, false⟩)

/-- Gives a claim back. A claim that was released before changes nothing. -/
def release (guard : Guard α) (claim : Claim α) : Guard α × Claim α :=
  if claim.released then (guard, claim)
  else (guard.erase claim.name, { claim with released := true })

end Guard

/-- What is said when a name is claimed already; `name` is quoted as it is shown. -/
def claimedMessage (name : String) : String :=
  "refresh already in progress for document " ++ name

/-- Why something that is done with claims breaks off: a name is claimed already, or something else
went wrong. -/
inductive Claim.Fault (α : Type)
  | claimed (name : α)
  | other (message : String)
deriving DecidableEq, Repr

/-- What is said about a fault, if names are shown in this way. -/
def Claim.Fault.message {α : Type} (shown : α → String) : Claim.Fault α → String
  | .claimed name => claimedMessage (shown name)
  | .other message => message

/-- A guard, and all claims there have been on its names, by number. -/
structure Ledger (α : Type) where
  guard : Guard α
  claims : List (Claim α)
deriving DecidableEq, Repr

namespace Ledger

variable {α : Type} [DecidableEq α]

def empty : Ledger α := ⟨.empty, []⟩

/-- Claims a name. A claim has the next number. -/
def acquire (ledger : Ledger α) (name : α) : Ledger α × Option (Claim.Fault α) :=
  match ledger.guard.acquire? name with
  | some (guard, claim) => (⟨guard, ledger.claims ++ [claim]⟩, none)
  | none => (ledger, some (.claimed name))

/-- Gives the claim with this number back. -/
def release (ledger : Ledger α) (number : Nat) : Ledger α :=
  match ledger.claims[number]? with
  | some claim =>
    let (guard, claim) := ledger.guard.release claim
    ⟨guard, ledger.claims.set number claim⟩
  | none => ledger

/-- Does something for which there is a claim, and gives the claim back in the end, even if it breaks
off. -/
def within (ledger : Ledger α) (number : Nat)
    (body : Ledger α → Ledger α × Option (Claim.Fault α)) : Ledger α × Option (Claim.Fault α) :=
  let (after, fault) := body ledger
  (after.release number, fault)

end Ledger

end Gutter
