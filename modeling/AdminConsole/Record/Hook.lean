import AdminConsole.Record.Check

/-!
# Record/Hook — read hooks as the server stores them

A stored hook loads whatever event, priority and language it holds; a hook that is about to be
saved must keep the editor's rules for these three fields. All other fields have the same rules.
-/

namespace AdminConsole

/-- A read hook. -/
structure StoredHook where
  id : Option String
  entity : String
  name : String
  event : String
  priority : Int
  language : String
  script : String
  bypassAcl : Bool
  enabled : Bool
  deriving DecidableEq, Repr, Inhabited

namespace StoredHook

/-- The events that the editor offers. -/
def events : List String := ["pre_read", "post_read"]

/-- The languages that the editor offers. -/
def languages : List String := ["javascript"]

/-- The least priority that the editor offers. -/
def minPriority : Int := 1

/-- The greatest priority that the editor offers. -/
def maxPriority : Int := 100

/-- The record's members, for the wire and for answers. -/
def toValue (h : StoredHook) : Value :=
  .object [("id", .ofText? h.id), ("entity", .text h.entity), ("name", .text h.name),
    ("event", .text h.event), ("priority", .int h.priority), ("language", .text h.language),
    ("script", .text h.script), ("bypass_acl", .bool h.bypassAcl), ("enabled", .bool h.enabled)]

/-- The rules of the three fields that the editor restricts. -/
structure Rules where
  model : String
  event : Record.Check String
  priority : Record.Check Int
  language : Record.Check String

/-- The rules for a stored hook. -/
def lenient : Rules := ⟨"HookRecord", Record.text, Record.integer, Record.text⟩

/-- The rules for a hook that is saved. -/
def strict : Rules :=
  { model := "HookInput"
    event := Record.oneOf events "'pre_read' or 'post_read'"
    priority := Record.integerBetween minPriority maxPriority
    language := Record.oneOf languages "'javascript'" }

/-- **Checks a record under some rules.** -/
def check (rules : Rules) (v : Value) : Except Invalid StoredHook :=
  match v with
  | .map es =>
    let id := Record.optional es "id" none Record.optionalText
    let entity := Record.required es "entity" Record.text
    let name := Record.optional es "name" "" Record.textOrNull
    let event := Record.optional es "event" "post_read" rules.event
    let priority := Record.optional es "priority" 1 rules.priority
    let language := Record.optional es "language" "javascript" rules.language
    let script := Record.optional es "script" "" Record.textOrNull
    let bypassAcl := Record.optional es "bypass_acl" false Record.flag
    let enabled := Record.optional es "enabled" true Record.flag
    match id, entity, name, event, priority, language, script, bypassAcl, enabled with
    | .ok id, .ok entity, .ok name, .ok event, .ok priority, .ok language, .ok script,
        .ok bypassAcl, .ok enabled =>
      .ok { id, entity, name, event, priority, language, script, bypassAcl, enabled }
    | id, entity, name, event, priority, language, script, bypassAcl, enabled =>
      .error ⟨rules.model, Record.messages id ++ Record.messages entity ++ Record.messages name
        ++ Record.messages event ++ Record.messages priority ++ Record.messages language
        ++ Record.messages script ++ Record.messages bypassAcl ++ Record.messages enabled⟩
  | _ => .error ⟨rules.model, [Record.notARecord rules.model]⟩

/-- A hook as the server sent it. -/
def ofValue (v : Value) : Except Invalid StoredHook := check lenient v

end StoredHook

end AdminConsole
