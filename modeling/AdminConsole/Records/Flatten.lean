import AdminConsole.Fault.Basic
import AdminConsole.Table

/-!
# Records/Flatten — documents as rows of a table

A nested object spreads over columns named by the path to its parts, joined with dots, which come
after the plain members; lists stay in one cell. A missing record is a row without cells. Columns
are in order of first appearance, `id` first.
-/

namespace AdminConsole.Records

/-- The column for a key below another column. -/
def columnName (above : String) (key : Scalar) : String :=
  if above.isEmpty then key.plain else above ++ "." ++ key.plain

mutual

/-- Adds the parts of a value under a column to the cells so far. -/
def flattenInto (column : String) (cells : List (String × Value)) : Value → List (String × Value)
  | .map es => flattenEntries column cells es
  | v => Entries.put column v cells

/-- Adds the parts of some members. -/
def flattenEntries (above : String) (cells : List (String × Value)) :
    List (Scalar × Value) → List (String × Value)
  | [] => cells
  | (k, v) :: rest => flattenEntries above (flattenInto (columnName above k) cells v) rest

end

/-- The cells of one document: its plain members, then the parts of its objects. -/
def cells (document : Value) : List (String × Value) :=
  match document with
  | .map es =>
    let plain := (es.filter fun (_, v) => !v.isMap).map fun (k, v) => (k.plain, v)
    let nested := flattenEntries "" [] (es.filter fun (_, v) => v.isMap)
    nested.foldl (fun cs (k, v) => Entries.put k v cs) plain
  | _ => []

/-- Adds the names that are not there yet. -/
def addNew (names more : List String) : List String :=
  more.foldl (fun ns n => if ns.contains n then ns else ns ++ [n]) names

/-- The cells of one record; only an object has any, and only a missing record may be none. -/
def rowCells (record : Value) : Except Fault (List (String × Value)) :=
  if record.isMap || Table.isMissing record then .ok (cells record)
  else .error (.mishap (.notRecord record.kindName))

/-- **The table of some records.** -/
def table (records : List Value) : Except Fault Table := do
  let rows ← records.mapM rowCells
  let found := rows.foldl (fun ns row => addNew ns (Entries.keys row)) []
  let columns := if found.contains "id" then "id" :: found.filter (· != "id") else found
  return .ofRows columns (rows.map fun row => columns.map fun c => (Entries.get? c row).getD .null)

/-- The table of whatever holds records: a list of them, or a single one. -/
def tableOf (v : Value) : Except Fault Table :=
  match v.orElse (.list []) with
  | .list records => table records
  | .map es => table [.map es]
  | _ => .error (.mishap .notRecords)

end AdminConsole.Records
