import AdminConsole.Fault.Basic
import AdminConsole.Json.Reader

/-!
# Records/Query — queries for records

A query is an object that names an entity. What is typed into the editor is read as JSON; what is
wrong with it is said in one line.
-/

namespace AdminConsole.Query

/-- The most records that a query asks for by default. -/
def defaultLimit : Value := .int 50

/-- The query for the records of an entity. -/
def build (entity limit : Value) : Value := .object [("entity", entity), ("limit", limit)]

/-- What is wrong with a text that is no JSON. -/
def malformedMessage (text : String) (trouble : Json.Trouble) (rest : List Char) : String :=
  "Invalid JSON query: " ++ trouble.message ++ " (line "
    ++ Decimal.intText (Json.lineOf text rest) ++ ")"

/-- **Reads a query**, or says what is wrong with it. -/
def read (text : String) : Except Fault (Except String Value) :=
  match Json.read text with
  | .error (.malformed trouble rest) => .ok (.error (malformedMessage text trouble rest))
  | .error (.mishap m) => .error (.mishap m)
  | .ok (.map es) =>
    if ((Entries.get? (.text "entity") es).getD .null).truthy then .ok (.ok (.map es))
    else .ok (.error "The query must name an entity")
  | .ok _ => .ok (.error "The query must be a JSON object")

end AdminConsole.Query
