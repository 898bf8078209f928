import AdminConsole.Fault.Basic
import AdminConsole.Json.Writer

/-!
# Json/Body — JSON text of values that may not have one

Bytes, dates and sets have no JSON text, nor have values inside themselves, nor are dates and bytes
names of members. In the body of a request, infinite and undefined numbers have none either.
-/

namespace AdminConsole.Json

/-- The fault of a value without JSON text. -/
def notWritable (v : Value) : Fault :=
  .mishap (.other "TypeError" ("Object of type " ++ v.kindName ++ " is not JSON serializable"))

/-- The fault of a key that is no name. -/
def notAName (k : Scalar) : Fault :=
  .mishap (.other "TypeError"
    ("keys must be str, int, float, bool or None, not " ++ (Value.scalar k).kindName))

/-- Checks a scalar; `strict` refuses infinite and undefined numbers. -/
def checkScalar (strict : Bool) : Scalar → Except Fault Unit
  | .real x => if strict && !x.isFinite then .error (.mishap .realNotJson) else .ok ()
  | .bytes bs => .error (notWritable (.scalar (.bytes bs)))
  | .date d => .error (notWritable (.scalar (.date d)))
  | .moment t => .error (notWritable (.scalar (.moment t)))
  | _ => .ok ()

/-- Checks a key. -/
def checkKey (strict : Bool) : Scalar → Except Fault Unit
  | .bytes bs => .error (notAName (.bytes bs))
  | .date d => .error (notAName (.date d))
  | .moment t => .error (notAName (.moment t))
  | k => checkScalar strict k

mutual

/-- Checks that a value has JSON text; the first part without one is the fault. -/
def checkValue (strict : Bool) : Value → Except Fault Unit
  | .scalar s => checkScalar strict s
  | .list xs => checkItems strict xs
  | .map es => checkMembers strict es
  | .set ms => .error (notWritable (.set ms))
  | .enclosing _ => .error (.mishap .endless)

/-- Checks the items of a list. -/
def checkItems (strict : Bool) : List Value → Except Fault Unit
  | [] => .ok ()
  | x :: rest => do
    checkValue strict x
    checkItems strict rest

/-- Checks the members of a mapping. -/
def checkMembers (strict : Bool) : List (Scalar × Value) → Except Fault Unit
  | [] => .ok ()
  | (k, v) :: rest => do
    checkKey strict k
    checkValue strict v
    checkMembers strict rest

end

/-- **The compact JSON text of a request's body.** -/
def body (v : Value) : Except Fault String := do
  checkValue true v
  return compact v

/-- The indented JSON text of a value, for editing. -/
def editable (v : Value) : Except Fault String := do
  checkValue false v
  return indented v

end AdminConsole.Json
