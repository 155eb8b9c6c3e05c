import Mathlib.Tactic

/-!
# Leases

A lease is `vacant`, `held` by an owner, `parked` (given back, to be claimed again) or `closed`. `Move` is
what may happen to it: anybody who is allowed to may claim it until it is closed, and only its holder parks
or closes it.

`Fenced` relates a lease to the history of its claims: who holds it made the last of them. Every move keeps
that, and none leaves the closed state.
-/

namespace KiCore.Lib

inductive Lease (ω : Type) where
  | vacant
  | held (owner : ω)
  | parked
  | closed
  deriving DecidableEq

namespace Lease

/-- What may happen to a lease, with who claims it. -/
inductive Move {ω : Type} : Lease ω → Option ω → Lease ω → Prop where
  | keep {l} : Move l none l
  | claim {l owner} : l ≠ closed → Move l (some owner) (held owner)
  | park {owner} : Move (held owner) none parked
  | close {owner} : Move (held owner) none closed
  | skip : Move vacant none closed

/-- Who holds the lease made the last of its claims. -/
def Fenced {ω : Type} (l : Lease ω) (claims : List ω) : Prop :=
  ∀ owner, l = held owner → claims.getLast? = some owner

variable {ω : Type} {l l' : Lease ω} {claimant : Option ω} {claims : List ω}

lemma fenced_vacant : Fenced (vacant : Lease ω) claims := by
  intro owner e
  cases e

lemma Move.fenced (mv : Move l claimant l') (fenced : Fenced l claims) :
    Fenced l' (claims ++ claimant.toList) := by
  intro owner e
  cases mv with
  | keep => rw [Option.toList_none, List.append_nil]; exact fenced owner e
  | claim =>
    cases e
    rw [Option.toList_some, List.getLast?_concat]
  | park => cases e
  | close => cases e
  | skip => cases e

lemma Move.of_closed (mv : Move closed claimant l') : l' = closed := by
  cases mv with
  | keep => rfl
  | claim ne => exact absurd rfl ne

end Lease

end KiCore.Lib
