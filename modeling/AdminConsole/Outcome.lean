import AdminConsole.Fault.Basic
import AdminConsole.Text.Case

/-!
# Outcome — results of user actions

An editing session never shows anything itself: it returns an outcome, or for a batch of
independent writes a batch outcome that keeps each failure with the entity that caused it.
-/

namespace AdminConsole

/-- How an action ended. -/
inductive OutcomeKind where
  | success
  /-- The input was refused before anything was sent. -/
  | validation
  /-- The server refused or could not be reached. -/
  | remote
  /-- Nothing had to be done. -/
  | skipped
  | custom (name : String)
  deriving DecidableEq, Repr, Inhabited

namespace OutcomeKind

/-- The name of a kind. -/
def name : OutcomeKind → String
  | success => "success"
  | validation => "validation"
  | remote => "remote"
  | skipped => "skipped"
  | custom name => name

/-- The kind with a name. -/
def ofName (name : String) : OutcomeKind :=
  match name with
  | "success" => success
  | "validation" => validation
  | "remote" => remote
  | "skipped" => skipped
  | name => custom name

end OutcomeKind

/-- The result of one user action. -/
structure Outcome where
  kind : OutcomeKind
  message : String
  error : Option Fault := none
  deriving DecidableEq, Repr, Inhabited

namespace Outcome

/-- Whether the action succeeded. -/
def ok (o : Outcome) : Bool := o.kind == .success

def success (message : String) : Outcome := { kind := .success, message }

/-- The outcome of an input that was refused. -/
def validationFailure (message : String) : Outcome := { kind := .validation, message }

/-- The outcome of a failed remote call. -/
def remoteFailure (message : String) (error : Fault) : Outcome :=
  { kind := .remote, message, error := some error }

/-- The outcome of an action with nothing to do. -/
def skipped (message : String) : Outcome := { kind := .skipped, message }

end Outcome

/-- Texts in order of their code points. -/
def sortTexts (ss : List String) : List String := ss.mergeSort fun a b => decide (a ≤ b)

/-- The result of independent writes, one per entity. -/
structure BatchOutcome where
  action : String
  subject : Value
  succeeded : List String := []
  failed : List (String × Fault) := []
  deriving DecidableEq, Repr, Inhabited

namespace BatchOutcome

/-- Whether no write failed. -/
def ok (b : BatchOutcome) : Bool := b.failed.isEmpty

/-- Whether some writes failed and some did not. -/
def isPartial (b : BatchOutcome) : Bool := !b.failed.isEmpty && !b.succeeded.isEmpty

/-- The number of writes. -/
def total (b : BatchOutcome) : Nat := b.succeeded.length + b.failed.length

/-- The names of the failed entities, sorted. -/
def failedNames (b : BatchOutcome) : List String := sortTexts (Entries.keys b.failed)

/-- The name of the action at the start of a sentence; acronyms stay as they are. -/
def title (b : BatchOutcome) : String := Text.upperFirst b.action

/-- **The summary of a batch.** -/
def message (b : BatchOutcome) : String :=
  let count := Decimal.intText b.succeeded.length
  if b.total = 0 then "No " ++ b.action ++ " needed for \"" ++ b.subject.plain ++ "\""
  else if b.ok then
    b.title ++ " done for \"" ++ b.subject.plain ++ "\" (" ++ count ++ " entities)"
  else
    let names := joinTexts ", " b.failedNames
    if b.isPartial then
      b.title ++ " partially failed for \"" ++ b.subject.plain ++ "\": " ++ count
        ++ " succeeded, failed for " ++ names
    else b.title ++ " failed for \"" ++ b.subject.plain ++ "\": " ++ names

/-- The error of the first failed entity by name. -/
def firstError (b : BatchOutcome) : Option Fault :=
  b.failedNames.head?.bind fun name => Entries.get? name b.failed

/-- The batch as a single outcome. -/
def asOutcome (b : BatchOutcome) : Outcome :=
  if b.ok then .success b.message
  else { kind := .remote, message := b.message, error := b.firstError }

/-- Records a write that succeeded. -/
def addSuccess (b : BatchOutcome) (entity : String) : BatchOutcome :=
  { b with succeeded := b.succeeded ++ [entity] }

/-- Records a write that failed. -/
def addFailure (b : BatchOutcome) (entity : String) (error : Fault) : BatchOutcome :=
  { b with failed := Entries.put entity error b.failed }

end BatchOutcome

end AdminConsole
