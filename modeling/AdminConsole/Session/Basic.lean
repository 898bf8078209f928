import AdminConsole.Hook.Form
import AdminConsole.Optimistic
import AdminConsole.Permission.Matrix
import AdminConsole.Schema.Session
import AdminConsole.Session.Slot

/-!
# Session/Basic — what the console remembers of one user

A session holds plain notes by name (the current page, the account, what is selected, what is typed
into a search) and the editing sessions of the pages. The connection to the server is of any type
`κ`; the session only keeps it, and lists those that it has closed.
-/

namespace AdminConsole

/-- What the console remembers between two runs. -/
structure Session (κ : Type) where
  notes : Entries String Value := []
  client : Slot κ := .absent
  schema : Slot SchemaSession := .absent
  matrix : Slot Matrix := .absent
  hookForm : Slot HookForm := .absent
  roles : Slot (Entries String OptimisticField) := .absent
  closed : List κ := []
  deriving DecidableEq, Repr, Inhabited

namespace Session

variable {κ : Type}

/-! ## Names -/

def pageKey : String := "current_page"

def accountKey : String := "account"

def clientKey : String := "api_client"

def entityKey : String := "selected_entity"

def schemaKey : String := "schema_session"

def matrixKey : String := "acl_tracker"

def hookEntityKey : String := "hook_entity"

def hookFormKey : String := "hook_session"

def hookIdKey : String := "selected_hook_id"

def rolesKey : String := "role_fields"

def idKey : String := "session_id"

/-- The pages of the console. -/
def pages : List String := ["entities", "records", "acl", "hooks", "users"]

/-- The page of a new session. -/
def firstPage : String := "entities"

/-! ## Notes -/

/-- The note under a name. -/
def note? (s : Session κ) (name : String) : Option Value := Entries.get? name s.notes

/-- The note under a name, null if there is none. -/
def note (s : Session κ) (name : String) : Value := (s.note? name).getD .null

/-- Writes a note. -/
def setNote (s : Session κ) (name : String) (v : Value) : Session κ :=
  { s with notes := Entries.put name v s.notes }

/-- Takes a note away. -/
def dropNote (s : Session κ) (name : String) : Session κ :=
  { s with notes := Entries.erase name s.notes }

/-- Writes a note if there is none under its name. -/
def ensureNote (s : Session κ) (name : String) (v : Value) : Session κ :=
  if Entries.has name s.notes then s else s.setNote name v

@[simp] theorem note_setNote_self (s : Session κ) (name : String) (v : Value) :
    (s.setNote name v).note name = v := by
  simp [note, note?, setNote]

theorem note_setNote_of_ne (s : Session κ) {name other : String} (h : other ≠ name) (v : Value) :
    (s.setNote name v).note other = s.note other := by
  simp [note, note?, setNote, Entries.get?_put_of_ne h]

/-! ## What the session tells -/

/-- The current page. -/
def page (s : Session κ) : Value := (s.note? pageKey).getD (.text firstPage)

/-- The account of the signed-in user. -/
def account (s : Session κ) : Value := s.note accountKey

/-- Whether somebody is signed in. -/
def isAuthenticated (s : Session κ) : Bool := s.account.truthy

/-- The entity whose schema is edited. -/
def entity (s : Session κ) : Value := s.note entityKey

/-- The entity whose hooks are listed. -/
def hookEntity (s : Session κ) : Value := s.note hookEntityKey

/-- The hook that is edited. -/
def hookId (s : Session κ) : Value := s.note hookIdKey

/-- The session's id. -/
def id (s : Session κ) : Value := (s.note idKey).orElse (.text "unknown")

/-- The names of all parts that were set, sorted. -/
def keys (s : Session κ) : List String :=
  let slots := [(clientKey, s.client.isPresent), (schemaKey, s.schema.isPresent),
    (matrixKey, s.matrix.isPresent), (hookFormKey, s.hookForm.isPresent),
    (rolesKey, s.roles.isPresent)]
  sortTexts (Entries.keys s.notes ++ (slots.filter Prod.snd).map Prod.fst)

/-- **Whether some page holds edits that were not committed**, or a hook draft that breaks a
rule. -/
def hasUnsavedChanges (s : Session κ) : Bool :=
  s.schema.get?.any SchemaSession.isDirty || s.matrix.get?.any Matrix.isDirty
    || s.hookForm.get?.any HookForm.needsAttention

end Session

end AdminConsole
