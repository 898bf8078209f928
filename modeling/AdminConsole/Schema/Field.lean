import AdminConsole.Entries

/-!
# Schema/Field — trees of schema fields

A schema is an ordered mapping from keys to fields; a field has a type, a required mark and, if it
is composite, a mapping of child fields. Fields are addressed by key paths from the top level.
-/

namespace AdminConsole

/-- A schema field. -/
structure Field where
  name : String
  type : String := "string"
  required : Bool := false
  children : Option (List (String × Field)) := none
  deriving Repr, Inhabited

/-- The fields of one level, by key. -/
abbrev Fields := List (String × Field)

/-- A path of keys from the top level. -/
abbrev KeyPath := List String

namespace Field

/-- The types that the editor offers. -/
def types : List String := ["string", "number", "boolean", "object", "array"]

/-- The type of a field that names none. -/
def defaultType : String := "string"

/-- Whether a field can hold children, if only none. -/
def isComposite (f : Field) : Bool := f.children.isSome

/-- The children of a field, none for a leaf. -/
def subfields (f : Field) : Fields := f.children.getD []

mutual

/-- Decides whether two fields are the same, children included. -/
def decEq : (a b : Field) → Decidable (a = b)
  | ⟨n, t, r, none⟩, ⟨n', t', r', none⟩ =>
    decidable_of_iff (n = n' ∧ t = t' ∧ r = r') (by simp)
  | ⟨n, t, r, some cs⟩, ⟨n', t', r', some cs'⟩ =>
    match decEqFields cs cs' with
    | isTrue h => decidable_of_iff (n = n' ∧ t = t' ∧ r = r') (by simp [h])
    | isFalse h => isFalse (by simp [h])
  | ⟨_, _, _, none⟩, ⟨_, _, _, some _⟩ => isFalse (by simp)
  | ⟨_, _, _, some _⟩, ⟨_, _, _, none⟩ => isFalse (by simp)

/-- Decides whether two levels are the same, order included. -/
def decEqFields : (a b : Fields) → Decidable (a = b)
  | [], [] => isTrue rfl
  | (k, f) :: r, (k', f') :: r' =>
    match decEq f f', decEqFields r r' with
    | isTrue h, isTrue h' => decidable_of_iff (k = k') (by simp [h, h'])
    | isFalse h, _ => isFalse (by simp [h])
    | _, isFalse h => isFalse (by simp [h])
  | [], _ :: _ => isFalse (by simp)
  | _ :: _, [] => isFalse (by simp)

end

instance : DecidableEq Field := decEq

end Field

namespace Fields

/-! ## Looking up -/

/-- The field at a non-empty path. -/
def findFrom (fields : Fields) (key : String) : KeyPath → Option Field
  | [] => Entries.get? key fields
  | next :: rest =>
    match Entries.get? key fields with
    | some f => findFrom f.subfields next rest
    | none => none

/-- **The field at a path**; no field is at the empty path. -/
def find? (fields : Fields) : KeyPath → Option Field
  | [] => none
  | key :: rest => findFrom fields key rest

mutual

/-- A field and everything below it, with paths that continue `path`. -/
def listField (path : KeyPath) : Field → List (KeyPath × Field)
  | ⟨name, type, required, none⟩ => [(path, ⟨name, type, required, none⟩)]
  | ⟨name, type, required, some cs⟩ =>
    (path, ⟨name, type, required, some cs⟩) :: listLevel path cs

/-- The fields of a level and everything below them. -/
def listLevel (path : KeyPath) : Fields → List (KeyPath × Field)
  | [] => []
  | (key, f) :: rest => listField (path ++ [key]) f ++ listLevel path rest

end

/-- **All fields with their paths**, each before what is below it. -/
def list (fields : Fields) : List (KeyPath × Field) := listLevel [] fields

end Fields

end AdminConsole
