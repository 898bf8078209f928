import AdminConsole.Value.Display

/-!
# Table — tables for display

A table has named columns and rows of cells; a missing cell is null. A column of integers that has
a missing cell or a fraction somewhere is shown as numbers with a fraction throughout; any other
mixed column keeps its cells as they are.
-/

namespace AdminConsole

/-- A table. -/
structure Table where
  columns : List String
  rows : List (List Value)
  index : Option (List String) := none
  deriving DecidableEq, Repr, Inhabited

namespace Table

/-! ## Columns of numbers -/

/-- Whether a cell has no content. -/
def isMissing : Value → Bool
  | .null => true
  | .real x => x.isNaN
  | _ => false

/-- The first integer beyond the signed ones of the machine. -/
def signedLimit : Int := Nat.pow 2 63

/-- Whether a cell is a number or missing. -/
def isNumeric : Value → Bool
  | .null => true
  | .int n => -signedLimit ≤ n && n < 2 * signedLimit
  | .real _ => true
  | _ => false

/-- Whether a cell is an integer. -/
def isInteger : Value → Bool
  | .int _ => true
  | _ => false

/-- Whether the integers of a column fit one machine type: none beyond the signed range beside a
negative one. -/
def fitsMachine (cells : List Value) : Bool :=
  !(cells.any (fun | .int n => signedLimit ≤ n | _ => false)
    && cells.any (fun | .int n => n < 0 | _ => false))

/-- An integer cell as a number with a fraction. -/
def widen : Value → Value
  | .int n => .real (Binary64.ofInt n)
  | v => v

/-- A column as it is shown. -/
def settle (cells : List Value) : List Value :=
  if cells.all isNumeric && !cells.all isInteger && fitsMachine cells then
    cells.map fun v => if isMissing v then .null else widen v
  else cells.map fun v => if isMissing v then .null else v

/-! ## Rows -/

/-- The cells of one column. -/
def column (rows : List (List Value)) (i : Nat) : List Value := rows.map fun row => row.getD i .null

/-- Puts columns side by side. -/
def ofColumns (height : Nat) (columns : List (List Value)) : List (List Value) :=
  (List.range height).map fun i => columns.map fun c => c.getD i .null

/-- **A table of some rows**, each column as it is shown. -/
def ofRows (columns : List String) (rows : List (List Value)) : Table :=
  let settled := (List.range columns.length).map fun i => settle (column rows i)
  { columns, rows := ofColumns rows.length settled }

/-- The table as a document. -/
def toValue (t : Table) : Value :=
  .object ([("columns", .texts t.columns), ("rows", .list (t.rows.map Value.list))]
    ++ match t.index with
      | some names => [("index", .texts names)]
      | none => [])

end Table

end AdminConsole
