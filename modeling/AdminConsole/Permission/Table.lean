import AdminConsole.Permission.Matrix
import AdminConsole.Table
import AdminConsole.Value.Order

/-!
# Permission/Table — the matrix and its pending changes as tables

The matrix is shown with one row per entity and one column per permission, and edited in that form.
The pending table has one row per changed flag.
-/

namespace AdminConsole

namespace Matrix

/-! ## The matrix -/

/-- The shown flags of an entity, all off without a cell. -/
def shownRow (m : Matrix) (entity : String) : List Bool :=
  let flags := (Entries.get? entity m.current).getD []
  Flags.vocabulary.map fun p => flags.isSet (.text p)

/-- **The matrix of some entities.** -/
def table (m : Matrix) (entities : List String) : Table :=
  { columns := Flags.vocabulary
    rows := entities.map fun e => (m.shownRow e).map .bool
    index := some entities }

/-- One edited row: an entity, and whether each permission is on. -/
abbrev EditedRow := String × List Bool

/-- Sets the flags of one row where they differ from `shown`. Returns the number of changes; a
refused change ends it. -/
def applyCells (entity : String) (shown : Flags) :
    List (String × Bool) → Nat → Matrix → Except Fault Nat × Matrix
  | [], n, m => (.ok n, m)
  | (permission, value) :: rest, n, m =>
    if shown.isSet (.text permission) = value then applyCells entity shown rest n m
    else match m.setPermission entity permission value with
      | .ok (m, _) => applyCells entity shown rest (n + 1) m
      | .error f => (.error f, m)

/-- Sets the flags of edited rows; rows of entities without a cell are skipped. -/
def applyRows : List EditedRow → Nat → Matrix → Except Fault Nat × Matrix
  | [], n, m => (.ok n, m)
  | (entity, values) :: rest, n, m =>
    match Entries.get? entity m.current with
    | none => applyRows rest n m
    | some shown =>
      match applyCells entity shown (Flags.vocabulary.zip values) n m with
      | (.ok n, m) => applyRows rest n m
      | (.error f, m) => (.error f, m)

/-- **Takes over an edited table.** Returns how many cells changed. -/
def applyEdits (m : Matrix) (rows : List EditedRow) : Except Fault Nat × Matrix :=
  applyRows rows 0 m

end Matrix

/-! ## Pending changes -/

/-- A flag whose pending value differs from the baseline; null stands for a missing flag. -/
structure PendingChange where
  entity : String
  permission : Scalar
  before : Value
  after : Value
  deriving DecidableEq, Repr, Inhabited

namespace PendingChange

/-- The changed flags of one entity. -/
def ofFlags (entity : String) (baseline pending : Flags) : Except Fault (List PendingChange) := do
  let names ← Scalar.sorted (Flags.names pending baseline)
  return names.filterMap fun permission =>
    let before := (Entries.get? permission baseline).getD .null
    let after := (Entries.get? permission pending).getD .null
    if before.same after then none else some ⟨entity, permission, before, after⟩

/-- **The changed flags of all pending entities**, by entity and permission. -/
def all (baseline pending : PermissionRows) : Except Fault (List PendingChange) := do
  let changes ← (sortTexts (Entries.keys pending)).mapM fun entity =>
    ofFlags entity ((Entries.get? entity baseline).getD [])
      ((Entries.get? entity pending).getD [])
  return changes.flatten

/-! ## Rows of any kind -/

/-- The changed flags of one entity, from values that may be no permission sets. -/
def ofValues (entity : String) (baseline pending : Value) : Except Fault (List PendingChange) := do
  let ks ← pending.walkedKeys
  let ls ← baseline.walkedKeys
  match baseline, pending with
  | .map f, .map g => ofFlags entity f g
  | .map _, v | v, _ => do
    let names ← Scalar.sorted (ks ++ ls).eraseDups
    if names.isEmpty then return [] else .error (.noAttribute v "get")

/-- **The changed flags in rows of any kind.** Only mappings have rows to look up. -/
def read (baseline pending : Value) : Except Fault (List PendingChange) := do
  let entities ← Scalar.sorted (← pending.walkedKeys)
  let changes ← entities.mapM fun
    | .text entity => do
      let current ← match pending.member? entity with
        | some v => pure v
        | none => .error (.mishap (.wrongIndex pending.kindName))
      match baseline with
      | .map _ => ofValues entity ((baseline.member? entity).getD .empty) current
      | v => .error (.noAttribute v "get")
    | _ => .error (.mishap (.wrongIndex pending.kindName))
  return changes.flatten

/-- A change as a document. -/
def toValue (c : PendingChange) : Value :=
  .object [("entity", .text c.entity), ("permission", .scalar c.permission),
    ("before", c.before), ("after", c.after)]

end PendingChange

/-- The pending changes of a matrix as a table. -/
def Matrix.pendingTable (m : Matrix) : Except Fault Table := do
  let changes ← PendingChange.all m.baseline m.pending
  return .ofRows ["entity", "permission", "before", "after"]
    (changes.map fun c => [.text c.entity, .scalar c.permission, c.before, c.after])

end AdminConsole
