import AdminConsole.Text.Search
import AdminConsole.Value.Pairs

/-!
# Value/Search — searching among values

What is typed into a search field is a text, or nothing; the names that it is looked for in are
texts as well, but a value of any kind may stand in either place.
-/

namespace AdminConsole.Value

/-- A typed text, which counts as empty if nothing is given. -/
def typedText (v : Value) : Except Fault String :=
  match v.orElse (.text "") with
  | .text s => .ok s
  | v => .error (.noAttribute v "strip")

/-- Whether a name contains a text in lower case. -/
def nameHas (needle : List Char) : Value → Except Fault Bool
  | .text name => .ok (Text.occursIn needle (Text.lower name).toList)
  | v => .error (.noAttribute v "lower")

/-- **The names that contain the query**, in their order; an empty query keeps whatever is there. -/
def filterNames (names query : Value) : Except Fault (List Value) := do
  let xs ← names.walked
  let needle := (Text.lower (Text.trim (← query.typedText))).toList
  if needle.isEmpty then return xs
  xs.filterM (nameHas needle)

end AdminConsole.Value
