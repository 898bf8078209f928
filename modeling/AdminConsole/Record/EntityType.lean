import AdminConsole.Json.Reader
import AdminConsole.Record.Check
import AdminConsole.Value.Pairs

/-!
# Record/EntityType — the list of entity types

The server lists entity types as names, as schema documents, or as schema documents in JSON text.
Entries that are neither are left out of the list.
-/

namespace AdminConsole

/-- An entity type: its name, and whether its schema is managed by hand. -/
structure EntityType where
  id : String
  manual : Bool
  deriving DecidableEq, Repr, Inhabited

namespace EntityType

/-- Checks a summary; `_manual` counts before `manual`. -/
def ofValue (v : Value) : Except Invalid EntityType :=
  match v with
  | .map es =>
    let id := Record.required es "id" Record.text
    let name := if Entries.has (.text "_manual") es then "_manual" else "manual"
    let manual := Record.optional es name false Record.flag
    match id, manual with
    | .ok id, .ok manual => .ok { id, manual }
    | id, manual =>
      .error ⟨"EntityTypeSummary", Record.messages id ++ Record.messages manual⟩
  | _ => .error ⟨"EntityTypeSummary", [Record.notARecord "EntityTypeSummary"]⟩

/-- The members of a summary. -/
def toValue (t : EntityType) : Value :=
  .object [("id", .text t.id), ("manual", .bool t.manual)]

/-- The document behind a listed entry: a text is read as JSON, and is a bare name if it is none. -/
def document (raw : Value) : Except Fault Value :=
  match raw with
  | .text s =>
    match Json.read s with
    | .ok v => .ok v
    | .error (.malformed ..) => .ok (.object [("id", raw)])
    | .error (.mishap m) => .error (.mishap m)
  | v => .ok v

/-- The entity type of a listed entry, if it names one. -/
def ofEntry (raw : Value) : Except Fault (Option EntityType) :=
  if !raw.truthy || raw == .text "null" then .ok none
  else do
    let v ← document raw
    match ofValue v with
    | .ok t => .ok (some t)
    | .error _ => .ok none

/-- The entity types of some listed entries. -/
def ofEntries : List Value → Except Fault (List EntityType)
  | [] => .ok []
  | raw :: rest => do
    let t ← ofEntry raw
    let ts ← ofEntries rest
    return t.toList ++ ts

/-- **The entity types that a listing names**, in its order. -/
def ofListing (payload : Value) : Except Fault (List EntityType) :=
  match payload with
  | .map _ =>
    let listed := ((payload.member? "entities").getD .null).orElse (.list [])
    match listed.sequence? with
    | some raws => ofEntries raws
    | none => .error (.notIterable listed)
  | _ => .ok []

end EntityType

end AdminConsole
