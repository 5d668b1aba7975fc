import P4475.Lib.Index

/-!
# Pending work by ticket

A caller submits work, is given a ticket, and later redeems it. The work is kept by
ticket, and next to it the ticket of each user who waits; `key` reads the user off the
work.
-/

namespace P4475.Lib

structure Pending (κ τ β : Type) where
  byTicket : Map τ β
  byUser : Map κ τ

/-- Why a ticket cannot be redeemed. -/
inductive TakeError (κ τ : Type)
  | unknownTicket (ticket : τ)
  | indexMismatch (user : κ) (expected : τ) (actual : Option τ)
  deriving DecidableEq

namespace Pending

variable {κ τ β : Type} [DecidableEq κ] [DecidableEq τ]

def empty : Pending κ τ β := ⟨∅, ∅⟩

/-- Whether a user waits. -/
def waits (p : Pending κ τ β) (user : κ) : Bool := (p.byUser.lookup user).isSome

/-- Submit work under a ticket. -/
def submit (key : β → κ) (p : Pending κ τ β) (ticket : τ) (work : β) : Pending κ τ β :=
  ⟨p.byTicket.insert ticket work, p.byUser.insert (key work) ticket⟩

/-- Redeem a ticket: both entries go, also where they disagree. -/
def take (key : β → κ) (p : Pending κ τ β) (ticket : τ) :
    Except (TakeError κ τ) β × Pending κ τ β :=
  match p.byTicket.lookup ticket with
  | none => (.error (.unknownTicket ticket), p)
  | some work =>
    let actual := p.byUser.lookup (key work)
    let next : Pending κ τ β := ⟨p.byTicket.erase ticket, p.byUser.erase (key work)⟩
    if actual = some ticket then (.ok work, next)
    else (.error (.indexMismatch (key work) ticket actual), next)

end Pending

end P4475.Lib
