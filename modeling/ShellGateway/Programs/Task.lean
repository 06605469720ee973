/-!
# Supervised tasks

A task runs on its own until it ends, breaks down or is stopped. Whoever waits
for it learns its result only in the first case; a breakdown never spreads.
-/

namespace ShellGateway.Programs

/-- How a task ended. -/
inductive TaskEnd (α : Type) where
  | finished (result : α)
  | brokeDown
  /-- It was stopped. Who waits for it is told the number of the task. -/
  | stopped (task : Nat)
  deriving DecidableEq, Repr

/-- What whoever waits for a task learns. -/
def TaskEnd.result? {α : Type} : TaskEnd α → Option α
  | finished result => some result
  | brokeDown => none
  | stopped _ => none

end ShellGateway.Programs
