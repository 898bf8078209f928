import AdminConsole.Yaml.Token.Quoted

/-!
# Yaml/Token/Block — literal and folded scalars

A block scalar is the lines below its mark that are indented more than what is around it. A literal
one keeps its line breaks; in a folded one a break between two lines that begin with no blank
becomes a space. The mark says whether breaks at the end are kept, dropped, or cut to one.
-/

namespace AdminConsole.Yaml

/-- What becomes of line breaks at the end. -/
inductive Chomping where
  | keep
  | clip
  | strip
  deriving DecidableEq, Repr, Inhabited

/-- The first line of a block scalar: its chomping, and an indentation if one is given. -/
structure BlockHeader where
  chomping : Chomping
  indent : Option Nat

/-- The chomping that a sign stands for. -/
def chomping? : Option Char → Option Chomping
  | some '+' => some .keep
  | some '-' => some .strip
  | _ => none

/-- The digit that a character is. -/
def digitOf? (c : Option Char) : Option Nat := c.bind Decimal.digit?

/-- Reads the sign and the digit after a block mark, in either order; a zero is refused. -/
def readBlockHeader (c : Cursor) : Reading BlockHeader :=
  let (chomping, indent, after) :=
    match chomping? c.next with
    | some sign =>
      match digitOf? c.advance.next with
      | some n => (some sign, some n, c.advanceBy 2)
      | none => (some sign, none, c.advance)
    | none =>
      match digitOf? c.next with
      | none => (none, none, c)
      | some n =>
        match chomping? c.advance.next with
        | some sign => (some sign, some n, c.advanceBy 2)
        | none => (none, some n, c.advance)
  if indent == some 0 || !endsName after.next then malformed
  else match finishLine after with
    | .error e => .error e
    | .ok after => .ok (⟨chomping.getD .clip, indent⟩, after)

/-- Finds the indentation of the first line with content: the line breaks before it, and the most
spaces on a line so far. -/
def findIndent : Nat → List Char → Nat → Cursor → List Char × Nat × Cursor
  | 0, breaks, most, c => (breaks, most, c)
  | fuel + 1, breaks, most, c =>
    if c.next == some ' ' then
      let c := c.advance
      findIndent fuel breaks (max most c.column) c
    else match c.takeBreak with
      | (some ch, after) => findIndent fuel (breaks ++ [ch]) most after
      | (none, _) => (breaks, most, c)

/-- Steps over spaces up to a column. -/
def indentTo (column : Nat) : Nat → Cursor → Cursor
  | 0, c => c
  | fuel + 1, c =>
    if c.column < column && c.next == some ' ' then indentTo column fuel c.advance else c

/-- Reads empty lines before a line at a column. -/
def readEmptyLines (column : Nat) : Nat → List Char → Cursor → List Char × Cursor
  | 0, breaks, c => (breaks, c)
  | fuel + 1, breaks, c =>
    let c := indentTo column column c
    match c.takeBreak with
    | (some ch, after) => readEmptyLines column fuel (breaks ++ [ch]) after
    | (none, _) => (breaks, c)

/-- Whether a line begins with a blank. -/
def beginsBlank (c : Cursor) : Bool :=
  match c.next with
  | some ch => isBlankChar ch
  | none => false

/-- What stands between two lines. -/
def betweenLines (fold : Bool) (lineBreak : Option Char) (blankAround : Bool) (breaks : List Char) :
    List Char :=
  if fold && lineBreak == some '\n' && !blankAround then
    if breaks.isEmpty then [' '] else breaks
  else lineBreak.toList ++ breaks

/-- What stands at the end. -/
def Chomping.ending (chomping : Chomping) (lineBreak : Option Char) (breaks : List Char) :
    List Char :=
  match chomping with
  | .strip => []
  | .clip => lineBreak.toList
  | .keep => lineBreak.toList ++ breaks

/-- Reads the lines at a column, the first of which begins here. -/
def readLines (fold : Bool) (chomping : Chomping) (column : Nat) :
    Nat → List Char → Cursor → List Char × Cursor
  | 0, read, c => (read, c)
  | fuel + 1, read, c =>
    let (line, ended) := c.takeWhile fun ch => !isBreak ch
    let (lineBreak, after) := ended.takeBreak
    let (breaks, after) := readEmptyLines column (after.rest.length + 1) [] after
    let read := read ++ line
    if after.column = column && !after.rest.isEmpty then
      readLines fold chomping column fuel
        (read ++ betweenLines fold lineBreak (beginsBlank c || beginsBlank after) breaks) after
    else (read ++ chomping.ending lineBreak breaks, after)

/-- **Reads a block scalar** inside an indentation. -/
def readBlock (fold : Bool) (indent : Int) (c : Cursor) : Reading Token :=
  match readBlockHeader c.advance with
  | .error e => .error e
  | .ok (header, c) =>
    let least := max 1 (indent + 1).toNat
    let (breaks, column, c) := match header.indent with
      | some n =>
        let column := least + n - 1
        let (breaks, c) := readEmptyLines column (c.rest.length + 1) [] c
        (breaks, column, c)
      | none =>
        let (breaks, most, c) := findIndent (c.rest.length + 1) [] 0 c
        (breaks, max least most, c)
    if c.column = column && !c.rest.isEmpty then
      let (text, after) := readLines fold header.chomping column (c.rest.length + 1) breaks c
      .ok (.scalar (String.ofList text) false, after)
    else
      .ok (.scalar (String.ofList (header.chomping.ending none breaks)) false, c)

end AdminConsole.Yaml
