import AdminConsole.Api.Client
import AdminConsole.Record.Access
import AdminConsole.Record.EntityType
import AdminConsole.Record.Hook
import AdminConsole.Record.User
import AdminConsole.Schema.Wire
import AdminConsole.Value.Pairs

/-!
# Api/Calls — what the server can be asked

Each call is a request and a way to read its answer. An answer of the wrong shape is a console
error that says which call it belongs to.
-/

namespace AdminConsole

/-- A call: a request, and how to read the value in its answer. -/
structure Call (α : Type) where
  method : String
  path : String
  payload : Value := .null
  read : Value → Except Fault α

namespace Call

/-- A call whose answer does not matter. -/
def command (method path : String) (payload : Value := .null) : Call Unit :=
  { method, path, payload, read := fun _ => .ok () }

/-- **Makes a call.** -/
def run {σ α : Type} (call : Call α) (wire : Http.Wire σ) (c : Client) (st : σ) :
    Except Fault α × Client × σ :=
  let (answer, c, st) := c.send wire call.method call.path call.payload st
  (answer.bind call.read, c, st)

/-! ## Reading answers -/

/-- The fault of an answer in the wrong shape. -/
def wrongShape (method path : String) (f : Fault) : Fault :=
  .console (.format method path f.origin none)

/-- The fault of an answer of the wrong kind. -/
def wrongKind (method path expected : String) (v : Value) : Fault :=
  wrongShape method path
    (.mishap (.other "TypeError" ("expected " ++ expected ++ ", got " ++ v.kindName)))

/-- Reads one record. -/
def readRecord {α : Type} (check : Value → Except Invalid α) (method path : String) (v : Value) :
    Except Fault α :=
  match check v with
  | .ok a => .ok a
  | .error e => .error (wrongShape method path (.invalid e))

/-- Reads a list of records; the first wrong one is the fault. -/
def readRecords {α : Type} (check : Value → Except Invalid α) (method path : String) (v : Value) :
    Except Fault (List α) :=
  match v with
  | .list rows => rows.mapM (readRecord check method path)
  | v => .error (wrongKind method path "a list" v)

/-! ## Signing in and out -/

/-- Signs in. The answer is the account. -/
def login (username password : Value) : Call Value :=
  { method := "POST", path := "/admin/login"
    payload := .object [("username", username), ("password", password)]
    read := fun v => .ok (v.orElse .empty) }

/-- Signs out. -/
def logout : Call Unit := command "GET" "/admin/logout"

/-- Asks who is signed in. -/
def me : Call Value := { method := "GET", path := "/admin/me", read := .ok }

/-! ## Entity types and schemas -/

/-- Lists the entity types. -/
def listEntityTypes : Call (List EntityType) :=
  { method := "GET", path := "/api/entity/types", read := EntityType.ofListing }

/-- Loads the schema of an entity. -/
def loadSchema (entity : Value) : Call SchemaTree :=
  { method := "GET", path := "/api/" ++ entity.plain ++ "/schema"
    read := fun v => SchemaTree.ofWire (v.orElse .empty) entity }

/-- Replaces the schema of an entity as a whole. -/
def replaceSchema (entity : String) (fields : Value) : Call Unit :=
  command "PUT" ("/api/" ++ entity ++ "/schema") (.object [("fields", fields)])

/-- Creates an entity type without fields. -/
def createEntityType (entity : String) : Call Unit :=
  command "POST" ("/api/" ++ entity ++ "/create") (.object [("fields", .empty)])

/-- Drops an entity type. -/
def dropEntityType (entity : String) : Call Unit := command "DELETE" ("/api/" ++ entity)

/-! ## Records -/

/-- Runs a query. An answer that is no list holds no records. -/
def queryRecords (query : Value) : Call (List Value) :=
  { method := "POST", path := "/api/query", payload := query
    read := fun v => .ok (v.items?.getD []) }

/-- Deletes a record. -/
def deleteRecord (entity id : String) : Call Unit :=
  command "DELETE" ("/api/" ++ entity ++ "/" ++ id)

/-! ## Permissions -/

/-- Loads the permissions of a user, one entry per entity. -/
def loadAccess (username : String) : Call (List AccessEntry) :=
  let path := "/api/acl/" ++ username
  { method := "GET", path
    read := fun v => readRecords AccessEntry.ofValue "GET" path (v.orElse (.list [])) }

/-- Loads the permission rows of a user by entity. -/
def loadPermissions (username : String) : Call Value :=
  let call := loadAccess username
  { method := call.method, path := call.path
    read := fun v => (call.read v).map fun entries =>
      AccessEntry.rowsValue (AccessEntry.rows entries) }

/-- Writes the permissions of a user on an entity. -/
def writePermissions (username entity : String) (flags : List (Scalar × Value)) : Call Unit :=
  command "PUT" ("/api/acl/" ++ username ++ "/" ++ entity) (.object [("permissions", .map flags)])

/-- Puts the permissions of a user on an entity back to the server's defaults. -/
def resetPermissions (username entity : String) : Call Unit :=
  command "PUT" ("/api/acl/" ++ username ++ "/" ++ entity ++ "/default")

/-! ## Hooks -/

/-- Lists the hooks of an entity. -/
def listHooks (entity : String) : Call (List StoredHook) :=
  let path := "/api/hook/" ++ entity
  { method := "GET", path
    read := fun v => readRecords StoredHook.ofValue "GET" path (v.orElse (.list [])) }

/-- Loads a hook. -/
def loadHook (id : String) : Call StoredHook :=
  let path := "/api/hook/id/" ++ id
  { method := "GET", path
    read := fun v => readRecord StoredHook.ofValue "GET" path (v.orElse .empty) }

/-- Creates a hook, not enabled and with an empty script. -/
def createHook (entity event name : Value) : Call Unit :=
  command "POST" ("/api/hook/" ++ entity.plain) (.object [
    ("name", name), ("entity", entity), ("event", event), ("priority", .int 1),
    ("script", .text ""), ("language", .text "javascript"), ("bypass_acl", .bool true),
    ("enabled", .bool false)])

/-- Saves a hook. -/
def saveHook (id : String) (hook : Value) : Call Unit := command "PUT" ("/api/hook/id/" ++ id) hook

/-- Deletes a hook. -/
def deleteHook (id : String) : Call Unit := command "DELETE" ("/api/hook/id/" ++ id)

/-! ## Users -/

/-- The path of the user accounts. -/
def usersPath : String := "/api/security/user"

/-- Reads the list of accounts. -/
def readUsers (v : Value) : Except Fault (List User) :=
  match v.orElse .empty with
  | .map es =>
    readRecords User.ofValue "GET" usersPath
      (((Entries.get? (.text "users") es).getD .null).orElse (.list []))
  | v => .error (wrongKind "GET" usersPath "an object" v)

/-- Lists the user accounts. -/
def listUsers : Call (List User) := { method := "GET", path := usersPath, read := readUsers }

/-- Creates an account. -/
def createUser (username password role : Value) : Call Unit :=
  command "POST" usersPath
    (.object [("username", username), ("password", password), ("role", role)])

/-- Gives an account another password. -/
def changePassword (username : String) (password : Value) : Call Unit :=
  command "PUT" (usersPath ++ "/" ++ username ++ "/password") (.object [("password", password)])

/-- Gives an account another role. -/
def changeRole (username : String) (role : Value) : Call Unit :=
  command "PUT" (usersPath ++ "/" ++ username ++ "/role") (.object [("role", role)])

/-- Deletes an account. -/
def deleteUser (username : String) : Call Unit := command "DELETE" (usersPath ++ "/" ++ username)

end Call

end AdminConsole
