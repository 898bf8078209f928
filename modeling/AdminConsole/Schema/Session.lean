import AdminConsole.Outcome
import AdminConsole.Schema.Changes
import AdminConsole.Schema.Edit

/-!
# Schema/Session — editing the schema of one entity

A session holds the schema that the server last acknowledged and the schema being edited. A commit
sends the edited schema as a whole and then loads it again; whatever fails, no edit is lost.
-/

namespace AdminConsole

/-- An editing session of one schema. -/
structure SchemaSession where
  baseline : SchemaTree
  tree : SchemaTree
  deriving DecidableEq, Repr, Inhabited

namespace SchemaSession

/-- A session without edits. -/
def opened (tree : SchemaTree) : SchemaSession := ⟨tree, tree⟩

/-- The entity that the session edits. -/
def entity (s : SchemaSession) : String := s.baseline.entity

/-- The edited schema, as it is sent. -/
def payload (s : SchemaSession) : Value := s.tree.fields.toWire

/-- Whether the edited schema differs from the acknowledged one. -/
def isDirty (s : SchemaSession) : Bool := !s.payload.same s.baseline.fields.toWire

/-- The changes against the acknowledged schema, in words. -/
def changes (s : SchemaSession) : Except Fault (List String) :=
  SchemaChanges.lines s.baseline.fields.toWire s.payload

/-! ## Edits -/

/-- Applies an edit to the fields. -/
def modify (s : SchemaSession) (edit : Fields → Fields) : SchemaSession :=
  { s with tree := { s.tree with fields := edit s.tree.fields } }

def update (s : SchemaSession) (path : KeyPath) (p : Fields.Patch) : SchemaSession :=
  s.modify (Fields.update path p)

/-- Gives the field at a path another name; an empty name is not taken. -/
def rename (s : SchemaSession) (path : KeyPath) (name : String) : SchemaSession :=
  match Fields.find? s.tree.fields path with
  | none => s
  | some f =>
    if name.isEmpty then s else s.modify (Fields.rename path { f with name := name } false)

def delete (s : SchemaSession) (path : KeyPath) : SchemaSession := s.modify (Fields.delete path)

/-- Adds a field below a path. Returns the new key and the number of names drawn. -/
def add (s : SchemaSession) (names : Nat → String) (parent : KeyPath) :
    SchemaSession × Option String × Nat :=
  let (fields, key, drawn) := Fields.addChild names parent s.tree.fields
  ({ s with tree := { s.tree with fields := fields } }, key, drawn)

/-- Goes back to the acknowledged schema. -/
def discard (s : SchemaSession) : SchemaSession := { s with tree := s.baseline }

/-! ## Commit -/

/-- The remote calls of a commit, with the state `σ` of whatever answers them. -/
structure Remote (σ : Type) where
  /-- Replaces the schema of an entity. -/
  replace : String → Value → σ → Except Fault Unit × σ
  /-- Loads the schema of an entity. -/
  load : String → σ → Except Fault SchemaTree × σ

/-- The session after the server has taken the edited schema. -/
def acknowledged (s : SchemaSession) : SchemaSession := { s with baseline := s.tree }

/-- **Sends the edited schema and loads it again.** A console error becomes an outcome; any other
fault ends the commit where it stands. -/
def commit {σ : Type} (remote : Remote σ) (s : SchemaSession) (st : σ) :
    Except Fault Outcome × SchemaSession × σ :=
  let entity := s.entity
  match remote.replace entity s.payload st with
  | (.error (.console e), st) =>
    (.ok (.remoteFailure ("Failed to update schema for \"" ++ entity ++ "\"") (.console e)), s, st)
  | (.error f, st) => (.error f, s, st)
  | (.ok (), st) =>
    match remote.load entity st with
    | (.error (.console e), st) =>
      (.ok (.remoteFailure ("Schema updated for \"" ++ entity ++ "\", but reloading it failed")
        (.console e)), s.acknowledged, st)
    | (.error f, st) => (.error f, s.acknowledged, st)
    | (.ok tree, st) =>
      (.ok (.success ("Schema updated for \"" ++ entity ++ "\"")), opened tree, st)

end SchemaSession

end AdminConsole
