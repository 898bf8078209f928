import AdminConsole.Session.Basic
import AdminConsole.Settings.Cache

/-!
# Session/Steps — how a session changes

Steps of the session as a whole: its start and end, moving between pages, signing in and out, and
handing out the editing sessions of the pages, which are made on first use.
-/

namespace AdminConsole.Session

variable {κ : Type}

/-! ## Start and end -/

/-- The id of a session that was not given one. -/
def freshId : Value := .text "generated"

/-- Gives a session without an id a fresh one. -/
def ensureId (s : Session κ) : Session κ :=
  if (s.note idKey).truthy then s else s.setNote idKey freshId

/-- The notes of a new session, apart from its id. -/
def firstNotes : List (String × Value) := [
  (pageKey, .text firstPage), (accountKey, .null), (entityKey, .null), (hookEntityKey, .null),
  (hookIdKey, .null), (idKey, .null)]

/-- The role fields, none if they were never set. -/
def firstRoles : Slot (Entries String OptimisticField) → Slot (Entries String OptimisticField)
  | .absent => .held []
  | roles => roles

/-- **Gives every part that was never set its first value.** -/
def start (s : Session κ) : Session κ :=
  let s := firstNotes.foldl (fun s (name, v) => s.ensureNote name v) s
  ensureId { s with
    client := s.client.orEmpty
    schema := s.schema.orEmpty
    matrix := s.matrix.orEmpty
    hookForm := s.hookForm.orEmpty
    roles := firstRoles s.roles }

/-- Closes a connection. -/
def close (s : Session κ) (c : κ) : Session κ := { s with closed := s.closed ++ [c] }

/-- **Forgets everything and starts anew**; the connection is closed. -/
def reset (s : Session κ) : Session κ :=
  let s := match s.client.get? with
    | some c => s.close c
    | none => s
  start { closed := s.closed }

/-! ## Pages, account, connection -/

/-- Goes to a page. -/
def setPage (s : Session κ) (page : Value) : Session κ :=
  if (s.note pageKey).same page then s else s.setNote pageKey page

/-- Notes who is signed in. An account that is given must be a mapping. -/
def setAccount (s : Session κ) (account : Value) : Except Fault (Session κ) :=
  if account.truthy && !account.isMap then .error (.noAttribute account "get")
  else .ok (s.setNote accountKey account)

/-- Puts another connection in place; one that was there is closed. -/
def setClient [DecidableEq κ] (s : Session κ) (c : Option κ) : Session κ :=
  let s := match s.client.get? with
    | some old => if c = some old then s else s.close old
    | none => s
  { s with client := match c with
      | some c => .held c
      | none => .empty }

/-! ## Schema -/

/-- **Opens the editing session of a schema**; edits of another schema are given up. -/
def openSchema (s : Session κ) (tree : SchemaTree) : Session κ :=
  { s with schema := .held (.opened tree) }.setNote entityKey (.text tree.entity)

/-- Puts the editing session of the schema back after work on it. -/
def setSchema (s : Session κ) (t : SchemaSession) : Session κ := { s with schema := .held t }

/-- Works on the editing session of the schema, if there is one. -/
def editSchema (s : Session κ) (step : SchemaSession → SchemaSession) : Session κ :=
  match s.schema.get? with
  | some t => s.setSchema (step t)
  | none => s

/-- Closes the editing session of the schema. -/
def closeSchema (s : Session κ) : Session κ := { s with schema := .empty }.setNote entityKey .null

/-! ## Permissions -/

/-- **The permission matrix**; a new one runs as many writes at a time as the settings say. -/
def openMatrix (s : Session κ) (c : Settings.Cache) :
    Except Fault Matrix × Session κ × Settings.Cache :=
  match s.matrix.get? with
  | some m => (.ok m, s, c)
  | none =>
    match c.value "api" "max_parallel_writes" (.int 4) with
    | (.error f, c) => (.error f, s, c)
    | (.ok v, c) =>
      match Matrix.create v with
      | .error f => (.error f, s, c)
      | .ok m => (.ok m, { s with matrix := .held m }, c)

/-- Puts the matrix back after work on it. -/
def setMatrix (s : Session κ) (m : Matrix) : Session κ := { s with matrix := .held m }

/-! ## Hooks -/

/-- The hook form, a new one if there is none. -/
def form (s : Session κ) : HookForm := s.hookForm.get?.getD {}

/-- Puts the hook form back after work on it. -/
def setForm (s : Session κ) (f : HookForm) : Session κ := { s with hookForm := .held f }

/-- **Selects the entity whose hooks are listed.** Another entity drops the hook that is edited. -/
def setHookEntity (s : Session κ) (entity : Value) : Session κ :=
  if entity.same s.hookEntity then s
  else
    let s := (s.setNote hookEntityKey entity).setNote hookIdKey .null
    s.setForm s.form.clear

/-- Selects the hook that is edited. -/
def setHookId (s : Session κ) (id : Value) : Session κ := s.setNote hookIdKey id

/-! ## Roles -/

/-- The role fields by user. -/
def roleFields (s : Session κ) : Entries String OptimisticField := s.roles.get?.getD []

/-- Puts a role field back after work on it. -/
def setRoleField (s : Session κ) (user : String) (f : OptimisticField) : Session κ :=
  { s with roles := .held (Entries.put user f s.roleFields) }

/-- **The role field of a user.** One without a change in flight takes the role that the server
reports. -/
def roleField (s : Session κ) (user : String) (role : Value) : OptimisticField × Session κ :=
  let f := match Entries.get? user s.roleFields with
    | none => { committed := role, label := "role" }
    | some f => if f.inFlight then f else { f with committed := role }
  (f, s.setRoleField user f)

/-- Drops the role field of a user. -/
def dropRoleField (s : Session κ) (user : String) : Session κ :=
  match s.roles with
  | .held fields => { s with roles := .held (Entries.erase user fields) }
  | _ => s

end AdminConsole.Session
