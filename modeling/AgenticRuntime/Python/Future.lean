/-
An `asyncio.Future`, and the order in which a task takes what was done to it.

A future is settled once. A cancellation reaches a suspended task when it next
runs, and is thrown there even if what the task waited for has settled since.
-/

namespace Python

inductive Future (α ε : Type) where
  | pending
  | result (value : α)
  | exception (error : ε)
  | cancelled
  deriving DecidableEq, Repr

namespace Future

variable {α ε : Type}

/-- `future.done()` -/
def done : Future α ε → Bool
  | pending => false
  | _ => true

/-- `if not future.done(): future.set_exception(error)` -/
def reject (future : Future α ε) (error : ε) : Future α ε :=
  match future with
  | pending => exception error
  | settled => settled

/-- `future.cancel()`, which does nothing to a settled future. -/
def cancel : Future α ε → Future α ε
  | pending => cancelled
  | settled => settled

@[simp]
theorem reject_done (future : Future α ε) (error : ε) : (future.reject error).done = true := by
  cases future <;> rfl

@[simp]
theorem cancel_done (future : Future α ε) : future.cancel.done = true := by
  cases future <;> rfl

theorem done_of_ne_pending {future : Future α ε} (settled : future ≠ pending) :
    future.done = true := by
  cases future with
  | pending => exact absurd rfl settled
  | result value => rfl
  | exception error => rfl
  | cancelled => rfl

theorem reject_eq_result {future : Future α ε} {error : ε} {value : α} :
    future.reject error = result value ↔ future = result value := by
  cases future <;> simp [reject]

theorem cancel_eq_result {future : Future α ε} {value : α} :
    future.cancel = result value ↔ future = result value := by
  cases future <;> simp [cancel]

end Future

end Python
