import AdminConsole.Number.Decimal
import AdminConsole.Schema.Field
import AdminConsole.Value.Basic

/-!
# Schema/Edit — edits of a schema tree

Every edit returns a new tree; levels off the edited path are left as they are. An edit at a path
that is not there changes nothing.
-/

namespace AdminConsole

namespace Fields

/-! ## Editing one level at the end of a path -/

/-- The level with `f` under `key`, at the place where `key` is. -/
def replaceAt (key : String) (f : Field) (fields : Fields) : Fields :=
  fields.map fun (k, g) => (k, if k = key then f else g)

/-- Applies an edit to the level below a path. Nothing comes out if the path is not there or the
edit has nothing to do. -/
def editAt (edit : Fields → Option Fields) : KeyPath → Fields → Option Fields
  | [], fields => edit fields
  | key :: rest, fields =>
    match Entries.get? key fields with
    | none => none
    | some f =>
      match editAt edit rest f.subfields with
      | none => none
      | some children => some (replaceAt key { f with children := some children } fields)

/-- Splits a path into the path of the parent and the last key. -/
def splitLast : KeyPath → Option (KeyPath × String)
  | [] => none
  | [key] => some ([], key)
  | key :: rest => (splitLast rest).map fun (parent, last) => (key :: parent, last)

/-- Applies an edit that knows the last key to the level that holds it. -/
def editEntry (edit : String → Fields → Option Fields) (path : KeyPath) (fields : Fields) :
    Fields :=
  match splitLast path with
  | none => fields
  | some (parent, key) => (editAt (edit key) parent fields).getD fields

/-! ## Renaming -/

/-- Puts `f` under its name in place of `key`; another entry under that name goes. -/
def renameInPlace (key : String) (f : Field) : Fields → Fields
  | [] => []
  | (k, g) :: rest =>
    if k = key then (f.name, f) :: renameInPlace key f rest
    else if k = f.name then renameInPlace key f rest
    else (k, g) :: renameInPlace key f rest

/-- Puts `f` under its name at the front; the entries under `key` and that name go. -/
def renameToFront (key : String) (f : Field) (fields : Fields) : Fields :=
  (f.name, f) :: fields.filter fun (k, _) => decide (k ≠ key ∧ k ≠ f.name)

/-- **Puts `f` at a path under its own name**, in place or at the front of its level. -/
def rename (path : KeyPath) (f : Field) (toFront : Bool) (fields : Fields) : Fields :=
  editEntry (fun key level =>
    if Entries.has key level then
      some (if toFront then renameToFront key f level else renameInPlace key f level)
    else none) path fields

/-! ## Updating -/

/-- Changes to a field; what is `none` stays. -/
structure Patch where
  name : Option String := none
  type : Option String := none
  required : Option Bool := none
  children : Option (Option Fields) := none
  deriving Inhabited

/-- The patch that an object describes, with the children that it names. Members that a field does
not have are left out, and so is a type that is no text. -/
def Patch.ofMembers (es : List (Scalar × Value)) (children : Option (Option Fields)) : Patch :=
  { name := (Entries.get? (.text "name") es).bind Value.text?
    type := (Entries.get? (.text "type") es).bind Value.text?
    required := (Entries.get? (.text "required") es).map Value.truthy
    children := children }

/-- The field with a patch applied; a type that the editor does not offer is ignored. -/
def Patch.apply (p : Patch) (f : Field) : Field :=
  { name := p.name.getD f.name
    type := match p.type with
      | some t => if Field.types.contains t then t else f.type
      | none => f.type
    required := p.required.getD f.required
    children := p.children.getD f.children }

/-- **Patches the field at a path.** A new name moves the field to that key. -/
def update (path : KeyPath) (p : Patch) (fields : Fields) : Fields :=
  editEntry (fun key level =>
    match Entries.get? key level with
    | none => none
    | some f =>
      let updated := p.apply f
      some (if updated.name = key then replaceAt key updated level
        else renameInPlace key updated level)) path fields

/-! ## Deleting -/

/-- **Removes the field at a path** with everything below it. -/
def delete (path : KeyPath) (fields : Fields) : Fields :=
  editEntry (fun key level =>
    if Entries.has key level then some (Entries.erase key level) else none) path fields

/-! ## Adding -/

/-- The alphabet of made-up names. -/
def nameAlphabet : List Char := "0123456789abcdefghijklmnopqrstuvwxyz".toList

/-- A made-up name from four choices out of the alphabet. -/
def syntheticName (choice : Nat → Nat) : String :=
  let letter (i : Nat) : Char := nameAlphabet.getD (choice i % 36) '0'
  "newField_" ++ String.ofList [letter 0, letter 1, letter 2, letter 3]

/-- How many names are tried before one is made longer. -/
def maxAttempts : Nat := 100

/-- The first name from the `attempt`-th on that is free, and the number of names drawn. When no
attempt is left, the last name is made longer by the size of the level. -/
def freeName (names : Nat → String) (level : Fields) (attempt : Nat) : Nat → String × Nat
  | 0 =>
    let last := names attempt
    if Entries.has last level then
      (last ++ "_" ++ Decimal.intText level.length, attempt + 1)
    else (last, attempt + 1)
  | left + 1 =>
    let name := names attempt
    if Entries.has name level then freeName names level (attempt + 1) left else (name, attempt + 1)

/-- A level with a text leaf under `key` in front; a field that is there already moves there. -/
def addFront (key : String) (level : Fields) : Fields :=
  match Entries.get? key level with
  | some f => (key, f) :: Entries.erase key level
  | none => (key, { name := key }) :: level

/-- The name for a new field of a level, and the number of names drawn. -/
def newName (names : Nat → String) (level : Fields) : String × Nat :=
  freeName names level 0 (maxAttempts - 1)

/-- The level at a path, empty for a leaf. -/
def levelAt (fields : Fields) : KeyPath → Option Fields
  | [] => some fields
  | key :: rest =>
    match Entries.get? key fields with
    | none => none
    | some f => levelAt f.subfields rest

/-- **Adds a text leaf in front of the level at a path.** Returns the new tree, the new key, and the
number of names drawn. -/
def addChild (names : Nat → String) (parent : KeyPath) (fields : Fields) :
    Fields × Option String × Nat :=
  match levelAt fields parent with
  | none => (fields, none, 0)
  | some level =>
    let (key, drawn) := newName names level
    ((editAt (fun level => some (addFront key level)) parent fields).getD fields, some key, drawn)

end Fields

end AdminConsole
