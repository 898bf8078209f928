import AdminConsole.Fault.Basic
import AdminConsole.Schema.Field

/-!
# Schema/Wire — schemas as documents

The server's form of a level is an object with one member per key:
`name`, `type`, `required`, and `fields` where there are children. Reading is lenient: members that
are no objects are left out, and a missing type is `string`.
-/

namespace AdminConsole

namespace Fields

/-- The members that every field has. -/
def wireHead (key type : String) (required : Bool) : List (String × Value) :=
  [("name", .text key), ("type", .text (if type.isEmpty then Field.defaultType else type)),
    ("required", .bool required)]

mutual

/-- A field under `key` as a document. -/
def fieldToWire (key : String) : Field → Value
  | ⟨_, type, required, none⟩ => .object (wireHead key type required)
  | ⟨_, type, required, some []⟩ => .object (wireHead key type required)
  | ⟨_, type, required, some (c :: cs)⟩ =>
    .object (wireHead key type required ++ [("fields", .map (levelToWire (c :: cs)))])

/-- The fields of a level as members. -/
def levelToWire : Fields → List (Scalar × Value)
  | [] => []
  | (key, f) :: rest => (.text key, fieldToWire key f) :: levelToWire rest

end

/-- **A level as a document.** -/
def toWire (fields : Fields) : Value := .map (levelToWire fields)

/-- The type that a document names. -/
def wireType (es : List (Scalar × Value)) : String :=
  match Entries.get? (.text "type") es with
  | some (.text t) => if t.isEmpty then Field.defaultType else t
  | _ => Field.defaultType

/-- Whether a document marks its field as required. -/
def wireRequired (es : List (Scalar × Value)) : Bool :=
  match Entries.get? (.text "required") es with
  | some v => v.truthy
  | none => false

mutual

/-- The field that a document under `key` describes. -/
def fieldFromWire (key : String) : Value → Option Field
  | .map es => some
      { name := key
        type := wireType es
        required := wireRequired es
        children := childrenFromWire es }
  | _ => none

/-- The children that a field's members list, if there are any. -/
def childrenFromWire : List (Scalar × Value) → Option Fields
  | [] => none
  | (k, v) :: rest =>
    if k = .text "fields" then
      match v with
      | .map [] => none
      | .map (e :: es) => some (Entries.ofPairs (levelFromWire (e :: es)))
      | _ => none
    else childrenFromWire rest

/-- The fields that some members describe, member by member. -/
def levelFromWire : List (Scalar × Value) → Fields
  | [] => []
  | (.text key, v) :: rest =>
    match fieldFromWire key v with
    | some f => (key, f) :: levelFromWire rest
    | none => levelFromWire rest
  | _ :: rest => levelFromWire rest

end

mutual

/-- All parts of a field. -/
def fieldParts : Field → Value
  | ⟨name, type, required, children⟩ =>
    .object [("name", .text name), ("type", .text type), ("required", .bool required),
      ("children", childrenParts children)]

/-- All parts of the children of a field, null for a leaf. -/
def childrenParts : Option Fields → Value
  | none => .null
  | some fields => .list (levelParts fields)

/-- The parts of the fields of a level, each with its key. -/
def levelParts : Fields → List Value
  | [] => []
  | (k, f) :: rest => .list [.text k, fieldParts f] :: levelParts rest

end

/-- All parts of the fields of a level. -/
def parts (fields : Fields) : Value := .list (levelParts fields)

/-- **The fields that a document describes**; a document that is no object describes none. -/
def ofWire : Value → Fields
  | .map es => Entries.ofPairs (levelFromWire es)
  | _ => []

end Fields

/-- A schema: the entity it belongs to, its fields, and whether it is managed by hand. -/
structure SchemaTree where
  entity : String
  fields : Fields
  manual : Bool := false
  deriving DecidableEq, Repr, Inhabited

namespace SchemaTree

/-- The schema in a server's answer; an answer without a name belongs to `entity`. -/
def ofWire (payload : Value) (entity : Value := .null) : Except Fault SchemaTree :=
  match payload with
  | .map es =>
    let named := ((Entries.get? (.text "id") es).getD .null).orElse (entity.orElse (.text ""))
    let fields := ((Entries.get? (.text "fields") es).getD .null).orElse .empty
    .ok { entity := named.plain
          fields := Fields.ofWire fields
          manual := ((Entries.get? (.text "_manual") es).getD (.bool false)).truthy }
  | v => .error (.noAttribute v "get")

/-- A schema as a document. -/
def toWire (t : SchemaTree) : Value :=
  .object [("id", .text t.entity), ("fields", t.fields.toWire)]

/-- All parts of a schema. -/
def parts (t : SchemaTree) : Value :=
  .object [("entity_id", .text t.entity), ("manual", .bool t.manual), ("fields", t.fields.parts)]

end SchemaTree

end AdminConsole
