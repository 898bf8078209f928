import AdminConsole.Record.Check

/-!
# Record/Access — one user's permissions on one entity

Rows of the access control list, and the permission rows of a subject by entity.
-/

namespace AdminConsole

/-- Permissions of one user on one entity. -/
structure AccessEntry where
  id : Option String
  username : String
  entity : String
  permissions : List (String × Bool)
  deriving DecidableEq, Repr, Inhabited

namespace AccessEntry

/-- Checks the flags of a row one by one. -/
def checkFlags : List (Scalar × Value) → Record.Field (List (String × Bool))
  | [] => .ok []
  | (k, v) :: rest =>
    match k with
    | .text name =>
      let flag := Record.located ("permissions." ++ name) (Record.flag v)
      match flag, checkFlags rest with
      | .ok b, .ok flags => .ok ((name, b) :: flags)
      | flag, flags => .error (Record.messages flag ++ Record.messages flags)
    | k => .error (("permissions." ++ k.plain ++ ".[key]: Input should be a valid string")
        :: Record.messages (checkFlags rest))

/-- The permissions of an entry, none if the member is missing. -/
def permissionsOf (es : List (Scalar × Value)) : Record.Field (List (String × Bool)) :=
  match Entries.get? (.text "permissions") es with
  | none => .ok []
  | some (.map flags) => checkFlags flags
  | some _ => .error ["permissions: Input should be a valid dictionary"]

/-- Checks an entry. -/
def ofValue (v : Value) : Except Invalid AccessEntry :=
  match v with
  | .map es =>
    let id := Record.optional es "id" none Record.optionalText
    let username := Record.required es "username" Record.text
    let entity := Record.required es "entity" Record.text
    let permissions := permissionsOf es
    match id, username, entity, permissions with
    | .ok id, .ok username, .ok entity, .ok permissions =>
      .ok { id, username, entity, permissions }
    | id, username, entity, permissions =>
      .error ⟨"AclEntry", Record.messages id ++ Record.messages username
        ++ Record.messages entity ++ Record.messages permissions⟩
  | _ => .error ⟨"AclEntry", [Record.notARecord "AclEntry"]⟩

/-- The members of an entry. -/
def toValue (e : AccessEntry) : Value :=
  .object [("id", .ofText? e.id), ("username", .text e.username), ("entity", .text e.entity),
    ("permissions", .object (e.permissions.map fun (k, b) => (k, .bool b)))]

/-- **The permission rows by entity**; the last entry of an entity counts. -/
def rows (entries : List AccessEntry) : List (String × List (String × Bool)) :=
  Entries.ofPairs (entries.map fun e => (e.entity, e.permissions))

/-- Permission rows as a document. -/
def rowsValue (rows : List (String × List (String × Bool))) : Value :=
  .object (rows.map fun (entity, flags) =>
    (entity, .object (flags.map fun (name, b) => (name, .bool b))))

end AccessEntry

end AdminConsole
