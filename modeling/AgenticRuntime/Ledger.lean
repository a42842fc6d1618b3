/-
A total to which several parties contribute, with what each of them put in.

Whatever only ever deposits keeps the total equal to the sum of the shares and
never lowers it. Nothing here depends on who deposits or on how.
-/

import Mathlib.Algebra.BigOperators.Pi
import Mathlib.Algebra.Order.BigOperators.Group.Finset
import Mathlib.Algebra.Order.Pi

structure Ledger (Party Amount : Type*) where
  total : Amount
  share : Party → Amount

namespace Ledger

variable {Party Amount : Type*}

def Balanced [Fintype Party] [AddCommMonoid Amount] (ledger : Ledger Party Amount) : Prop :=
  ledger.total = ∑ party, ledger.share party

def deposit [DecidableEq Party] [Add Amount] (ledger : Ledger Party Amount) (party : Party)
    (amount : Amount) : Ledger Party Amount :=
  { total := ledger.total + amount
    share := Function.update ledger.share party (ledger.share party + amount) }

/-- `after` is `before` or one deposit later. -/
def Extends [DecidableEq Party] [Add Amount] (before after : Ledger Party Amount) : Prop :=
  after = before ∨ ∃ party amount, after = before.deposit party amount

section

variable [DecidableEq Party] {before after : Ledger Party Amount}

theorem deposit_balanced [Fintype Party] [AddCommMonoid Amount] {ledger : Ledger Party Amount}
    (balanced : ledger.Balanced) (party : Party) (amount : Amount) :
    (ledger.deposit party amount).Balanced := by
  have moved : ∀ other, (ledger.deposit party amount).share other =
      ledger.share other + if other = party then amount else 0 := by
    intro other
    simp only [deposit, Function.update_apply]
    split
    · rename_i same
      rw [same]
    · rw [add_zero]
  change ledger.total + amount = ∑ other, (ledger.deposit party amount).share other
  simp only [moved, Finset.sum_add_distrib, Finset.sum_ite_eq', Finset.mem_univ, if_true]
  rw [balanced]

theorem Extends.balanced [Fintype Party] [AddCommMonoid Amount] (extended : before.Extends after)
    (balanced : before.Balanced) : after.Balanced := by
  rcases extended with same | ⟨party, amount, deposited⟩
  · rw [same]
    exact balanced
  · rw [deposited]
    exact deposit_balanced balanced party amount

theorem Extends.total_le [AddCommMonoid Amount] [PartialOrder Amount] [CanonicallyOrderedAdd Amount]
    (extended : before.Extends after) : before.total ≤ after.total := by
  rcases extended with same | ⟨party, amount, deposited⟩
  · rw [same]
  · rw [deposited]
    exact le_self_add

end

end Ledger
