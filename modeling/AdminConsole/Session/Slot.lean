/-!
# Session/Slot — places for the parts of a session

A place that was never set is told apart from one that was set to nothing: both hold nothing, but
only the second one is listed among the session's keys.
-/

namespace AdminConsole

/-- A place for a part of a session. -/
inductive Slot (α : Type) where
  | absent
  | empty
  | held (a : α)
  deriving DecidableEq, Repr, Inhabited

namespace Slot

variable {α : Type}

/-- What the place holds. -/
def get? : Slot α → Option α
  | held a => some a
  | _ => none

/-- Whether the place was set, be it to nothing. -/
def isPresent : Slot α → Bool
  | absent => false
  | _ => true

/-- The place, set to nothing if it was never set. -/
def orEmpty : Slot α → Slot α
  | absent => empty
  | s => s

@[simp] theorem get?_held (a : α) : (held a).get? = some a := rfl

@[simp] theorem get?_empty : (empty : Slot α).get? = none := rfl

@[simp] theorem get?_orEmpty (s : Slot α) : s.orEmpty.get? = s.get? := by cases s <;> rfl

@[simp] theorem isPresent_orEmpty (s : Slot α) : s.orEmpty.isPresent = true := by cases s <;> rfl

end Slot

end AdminConsole
