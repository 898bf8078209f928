import AdminConsole.Fault.ConsoleError

/-!
# Fault/Basic — everything that can go wrong

A step of the console ends with a value or with a fault: one of the console's own errors, a failed
validation, or a mishap. Only the first kind is caught by the editing sessions.
-/

namespace AdminConsole

/-- A failure of a step. -/
inductive Fault where
  | console (error : ConsoleError)
  | invalid (record : Invalid)
  | mishap (m : Mishap)
  deriving DecidableEq, Repr, Inhabited

namespace Fault

/-- The name of a fault's class. -/
def kind : Fault → String
  | console e => e.kind
  | invalid _ => "ValidationError"
  | mishap m => m.kind

/-- The text of a fault. -/
def text : Fault → String
  | console e => e.message
  | invalid r =>
    let count := r.messages.length
    Decimal.natText count
      ++ (if count = 1 then " validation error for " else " validation errors for ")
      ++ r.model ++ "\n" ++ joinTexts "\n" r.messages
  | mishap m => m.text

/-- The console error in a fault. -/
def console? : Fault → Option ConsoleError
  | console e => some e
  | _ => none

/-- A fault as the source of a wrapping error. -/
def origin (f : Fault) : Origin :=
  match f with
  | invalid r => ⟨f.kind, f.text, some r.messages⟩
  | _ => ⟨f.kind, f.text, none⟩

/-! ## Misused values -/

/-- The fault of asking for something that a value's kind does not have. -/
def noAttribute (v : Value) (name : String) : Fault := .mishap (.noAttribute v.kindName name)

/-- The fault of walking through a value that is no collection. -/
def notIterable (v : Value) : Fault := .mishap (.notIterable v.kindName)

/-- The fault of using a value with parts as a key. -/
def unhashable (v : Value) : Fault := .mishap (.unhashable v.kindName)

end Fault

end AdminConsole
