import AdminConsole.Text.Blank
import AdminConsole.Text.Case

/-!
# Text/Search — filtering a list of names

A search is a case-blind substring test, with blanks around the typed text dropped; an empty
search keeps every name.
-/

namespace AdminConsole.Text

/-- Whether `needle` occurs somewhere in `cs`. -/
def occursIn (needle : List Char) : List Char → Bool
  | [] => needle.isEmpty
  | c :: rest => needle.isPrefixOf (c :: rest) || occursIn needle rest

/-- The names that contain the query, in their order. -/
def filterNames (names : List String) (query : String) : List String :=
  let needle := (lower (trim query)).toList
  if needle.isEmpty then names
  else names.filter fun name => occursIn needle (lower name).toList

end AdminConsole.Text
