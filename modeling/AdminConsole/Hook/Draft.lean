import AdminConsole.Hook.Script
import AdminConsole.Record.Hook
import AdminConsole.Value.Pairs

/-!
# Hook/Draft — editable copies of hooks

A draft holds whatever was stored or typed; the rules for saving say which drafts may be sent.
-/

namespace AdminConsole

/-- The members of a hook that the editor changes. -/
inductive HookMember where
  | name
  | event
  | priority
  | language
  | script
  | bypassAcl
  | enabled
  deriving DecidableEq, Repr, Inhabited

namespace HookMember

/-- All members, in the order in which they are listed. -/
def all : List HookMember := [name, event, priority, language, script, bypassAcl, enabled]

/-- The name of a member. -/
def key : HookMember → String
  | name => "name"
  | event => "event"
  | priority => "priority"
  | language => "language"
  | script => "script"
  | bypassAcl => "bypass_acl"
  | enabled => "enabled"

/-- The member with a name. -/
def ofKey? (key : String) : Option HookMember := all.find? fun m => m.key == key

end HookMember

/-- An editable copy of a hook. -/
structure HookDraft where
  id : Value
  entity : Value
  name : Value
  event : Value
  priority : Value
  language : Value
  script : Value
  bypassAcl : Value
  enabled : Value
  deriving DecidableEq, Repr, Inhabited

namespace HookDraft

/-- The value of a member. -/
def get (d : HookDraft) : HookMember → Value
  | .name => d.name
  | .event => d.event
  | .priority => d.priority
  | .language => d.language
  | .script => d.script
  | .bypassAcl => d.bypassAcl
  | .enabled => d.enabled

/-- The draft with another value of a member. -/
def set (d : HookDraft) (m : HookMember) (v : Value) : HookDraft :=
  match m with
  | .name => { d with name := v }
  | .event => { d with event := v }
  | .priority => { d with priority := v }
  | .language => { d with language := v }
  | .script => { d with script := v }
  | .bypassAcl => { d with bypassAcl := v }
  | .enabled => { d with enabled := v }

@[simp] theorem get_set_self (d : HookDraft) (m : HookMember) (v : Value) :
    (d.set m v).get m = v := by
  cases m <;> rfl

theorem get_set_of_ne (d : HookDraft) {m n : HookMember} (h : n ≠ m) (v : Value) :
    (d.set m v).get n = d.get n := by
  cases m <;> cases n <;> first | rfl | exact absurd rfl h

/-- **The draft of a stored record**, with defaults for what is missing or empty. -/
def ofRecord (record : Value) : Except Fault HookDraft := do
  let es ← (record.orElse .empty).toMapping
  let found (key : String) : Value := (Entries.get? (.text key) es).getD .null
  return {
    id := found "id"
    entity := (found "entity").orElse (.text "")
    name := (found "name").orElse (.text "")
    event := (found "event").orElse (.text "post_read")
    priority := if (found "priority").isNull then .int 1 else found "priority"
    language := (found "language").orElse (.text "javascript")
    script := (found "script").orElse (.text "")
    bypassAcl := .bool ((Entries.get? (.text "bypass_acl") es).getD (.bool false)).truthy
    enabled := .bool ((Entries.get? (.text "enabled") es).getD (.bool true)).truthy }

/-- The members of a draft, as they are sent. -/
def toValue (d : HookDraft) : Value :=
  .object [("id", d.id), ("entity", d.entity), ("name", d.name), ("event", d.event),
    ("priority", d.priority), ("language", d.language), ("script", d.script),
    ("bypass_acl", d.bypassAcl), ("enabled", d.enabled)]

/-- Whether two drafts have the same content. -/
def same (a b : HookDraft) : Bool := a == b || a.toValue.same b.toValue

/-- Whether the draft's event is one that the editor offers. -/
def hasKnownEvent (d : HookDraft) : Bool :=
  StoredHook.events.any fun e => d.event.same (.text e)

/-- The name to show for a draft: its name, or its id. -/
def title (d : HookDraft) : Value := d.name.orElse d.id

/-- The messages of the rules for a hook that is saved. -/
def recordProblems (d : HookDraft) : List String :=
  match StoredHook.check StoredHook.strict d.toValue with
  | .ok _ => []
  | .error e => e.messages

/-- **All rules that a draft breaks**; none if it may be sent. -/
def problems (d : HookDraft) : Except Fault (List String) := do
  let script ← HookScript.check d.event d.script
  match script with
  | some message =>
    if !message.isEmpty && d.hasKnownEvent then return d.recordProblems ++ [message]
    else return d.recordProblems
  | none => return d.recordProblems

end HookDraft

end AdminConsole
