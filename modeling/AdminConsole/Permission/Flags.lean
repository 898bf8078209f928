import AdminConsole.Value.Pairs

/-!
# Permission/Flags — permission sets

A permission set maps the names of permissions to flags; a missing flag counts as false. Two sets
are equal when all their flags count the same.
-/

namespace AdminConsole

/-- The flags of one entity, by permission. -/
abbrev Flags := List (Scalar × Value)

namespace Flags

/-- The permissions that the matrix shows, in order of its columns. -/
def vocabulary : List String := [
  "read", "create", "update", "delete", "owning_read", "owning_write", "owning_update",
  "owning_delete"]

/-- What a permission allows. -/
def descriptions : List (String × String) := [
  ("read", "Allows reading all records of the entity."),
  ("create", "Allows creating new records in the entity."),
  ("update", "Allows updating any record of the entity."),
  ("delete", "Allows deleting any record of the entity."),
  ("owning_read", "Allows reading only records owned by the user."),
  ("owning_write", "Allows creating records owned by the user."),
  ("owning_update", "Allows updating only records owned by the user."),
  ("owning_delete", "Allows deleting only records owned by the user.")]

/-- The stored value of a flag. -/
def stored (f : Flags) (name : Scalar) : Value := (Entries.get? name f).getD (.bool false)

/-- **Whether a flag counts as set.** -/
def isSet (f : Flags) (name : Scalar) : Bool := (f.stored name).truthy

/-- The names of the flags of two sets, each once. -/
def names (a b : Flags) : List Scalar :=
  Entries.keys a ++ (Entries.keys b).filter fun k => !Entries.has k a

/-- Whether all flags of two sets count the same. -/
def same (a b : Flags) : Bool := (names a b).all fun n => a.isSet n == b.isSet n

/-- Whether two sets are equal; nothing equals only nothing. -/
def same? : Option Flags → Option Flags → Bool
  | none, none => true
  | some a, some b => same a b
  | _, _ => false

/-- **Whether two values stand for equal sets.** Null equals only null. The names of the flags are
what the values hold, and only mappings have flags to look up. -/
def sameValues (a b : Value) : Except Fault Bool :=
  if a.isNull || b.isNull then .ok (a.isNull && b.isNull)
  else do
    let ks ← a.walkedKeys
    let ls ← b.walkedKeys
    match a, b with
    | .map f, .map g => return same f g
    | .map _, v | v, _ => if (ks ++ ls).isEmpty then return true else .error (.noAttribute v "get")

/-- The set with one flag turned over. -/
def flip (f : Flags) (name : Scalar) : Flags := Entries.put name (.bool (!f.isSet name)) f

end Flags

end AdminConsole
