import AdminConsole.Diff
import AdminConsole.Schema.Wire

/-!
# Schema/Changes — what was changed in a schema

A diff of two schema documents in words, one line per change. In the path of a change, field keys
and the member `fields` alternate, so a field that is itself called `fields` is told apart by its
place.
-/

namespace AdminConsole

namespace SchemaPath

/-- The member that holds the children of a field. -/
def childrenKey : String := "fields"

/-- Splits what follows the first key into further keys and a member name. -/
def splitAfter (keys : List String) : List Value → List String × Option String
  | [] => (keys, none)
  | [token] => (keys, some token.plain)
  | token :: key :: rest =>
    if token.same (.text childrenKey) then splitAfter (keys ++ [key.plain]) rest
    else (keys, some token.plain)

/-- **Splits the path of a change** into the keys of a field and the member that changed, if it is
not the field itself. -/
def split : List Value → List String × Option String
  | [] => ([], none)
  | token :: rest => splitAfter [token.plain] rest

end SchemaPath

namespace SchemaChanges

/-- The longest text of a value in a line. -/
def maxLength : Nat := 60

/-- A value in a line. -/
def valueText : Option Value → String
  | none | some .null => "null"
  | some (.bool b) => if b then "true" else "false"
  | some v =>
    let s := v.plain
    if maxLength < s.length then String.ofList (s.toList.take (maxLength - 3)) ++ "..." else s

/-- The names under a member that was added or removed as a whole. -/
def childNames (v : Option Value) : Except Fault (List String) :=
  let v := (v.getD .null).orElse .empty
  match v.sequence? with
  | some xs => .ok (xs.map Value.plain)
  | none => .error (.notIterable v)

/-- The lines for one entry that was added or removed: `verb` and `link` are the words for it. -/
def entryLines (verb link : String) (path : List Value) (v : Option Value) :
    Except Fault (List String) :=
  let (keys, member) := SchemaPath.split path
  let field := joinTexts "." keys
  match member with
  | none => .ok [verb ++ " field '" ++ field ++ "'"]
  | some a =>
    if a = SchemaPath.childrenKey then do
      let names ← childNames v
      return names.map fun name => verb ++ " field '" ++ field ++ "." ++ name ++ "'"
    else .ok [verb ++ " " ++ a ++ " " ++ link ++ " '" ++ field ++ "'"]

/-- The line for one value that changed. -/
def changeLine (c : Change) : String :=
  let (keys, member) := SchemaPath.split c.path
  let what := match member with
    | some a => if a.isEmpty then "value" else a
    | none => "value"
  "Changed " ++ what ++ " of '" ++ joinTexts "." keys ++ "': " ++ valueText c.old ++ " -> "
    ++ valueText c.new

/-- Runs a step that yields lines over a list and joins them. -/
def collect {α : Type} (step : α → Except Fault (List String)) : List α → Except Fault (List String)
  | [] => .ok []
  | a :: rest => do
    let lines ← step a
    let more ← collect step rest
    return lines ++ more

/-- **The changes between two schema documents**: removals, additions, then changed values. -/
def lines (old new : Value) : Except Fault (List String) := do
  let d := Diff.between old new
  let removed ← collect (fun c => entryLines "Removed" "of" c.path c.old) d.removed
  let added ← collect (fun c => entryLines "Added" "to" c.path c.new) d.added
  return removed ++ added ++ d.valueChanges.map changeLine ++ d.kindChanges.map changeLine

/-- Lines as a list for display. -/
def display (lines : List String) : String :=
  if lines.isEmpty then "✅ **No changes detected**"
  else joinTexts "\n" (lines.map fun line => "- " ++ line)

end SchemaChanges

end AdminConsole
