import AdminConsole.Yaml.Token.Quoted

/-!
# Yaml/Token/Plain — scalars without quotes

A plain scalar ends at a colon before a blank, at a comment, and at a line that is indented too
little; inside flow collections it also ends at their marks. Line breaks in it are folded.
-/

namespace AdminConsole.Yaml

/-- A character that parts or closes a flow collection, or opens one. -/
def isFlowMark (c : Char) : Bool := [',', '[', ']', '\x7b', '\x7d'].contains c

/-- Whether a colon before this character ends a plain scalar. -/
def endsKey (inFlow : Bool) (after : Option Char) : Bool :=
  endsWord after || (inFlow && match after with
    | some c => isFlowMark c
    | none => false)

/-- The characters of a plain scalar up to a blank or its end. -/
def plainWord (inFlow : Bool) : List Char → List Char
  | [] => []
  | c :: rest =>
    if isBlankChar c || isBreak c then []
    else if c == ':' && endsKey inFlow rest.head? then []
    else if inFlow && (isFlowMark c || c == '?') then []
    else c :: plainWord inFlow rest

/-- What stands between two words of a plain scalar. -/
structure PlainGap where
  /-- What it stands for; nothing ends the scalar. -/
  text : List Char
  /-- Whether a line ended in it. -/
  brokeLine : Bool
  after : Cursor

/-- Reads line breaks and spaces; nothing comes out at a document marker. -/
def readPlainBreaks : Nat → List Char → Cursor → Option (List Char) × Cursor
  | 0, read, c => (some read, c)
  | fuel + 1, read, c =>
    if c.next == some ' ' then readPlainBreaks fuel read c.advance
    else match c.takeBreak with
      | (some ch, after) =>
        if after.seesMarker then (none, after) else readPlainBreaks fuel (read ++ [ch]) after
      | (none, _) => (some read, c)

/-- Reads what stands after a word of a plain scalar. -/
def readPlainGap (c : Cursor) : PlainGap :=
  let (spaces, after) := c.takeWhile (· == ' ')
  match after.takeBreak with
  | (none, _) => ⟨spaces, false, after⟩
  | (some first, after) =>
    if after.seesMarker then ⟨[], true, after⟩
    else match readPlainBreaks (after.rest.length + 1) [] after with
      | (none, after) => ⟨[], true, after⟩
      | (some breaks, after) => ⟨folded first breaks, true, after⟩

/-- What reading a plain scalar returns: its text, whether a line ended after its last word, and
the place after it. -/
abbrev PlainReading := List Char × Bool × Cursor

/-- Reads the words of a plain scalar. `gap` stands before the next word, and `brokeLine` says
whether a line ended in it. -/
def readPlainWords (inFlow : Bool) (indent : Int) :
    Nat → List Char → List Char → Bool → Cursor → PlainReading
  | 0, read, _, brokeLine, c => (read, brokeLine, c)
  | fuel + 1, read, gap, brokeLine, c =>
    let word := if c.next == some '#' then [] else plainWord inFlow c.rest
    if word.isEmpty then (read, brokeLine, c)
    else
      let read := read ++ gap ++ word
      let g := readPlainGap (c.advanceBy word.length)
      if g.text.isEmpty || g.after.next == some '#' || (!inFlow && (g.after.column : Int) < indent)
      then (read, g.brokeLine, g.after)
      else readPlainWords inFlow indent fuel read g.text g.brokeLine g.after

/-- **Reads a plain scalar** inside an indentation. Says also whether a line ended after it. -/
def readPlain (inFlow : Bool) (indent : Int) (c : Cursor) : Token × Bool × Cursor :=
  let (text, brokeLine, after) :=
    readPlainWords inFlow (indent + 1) (c.rest.length + 1) [] [] false c
  (.scalar (String.ofList text) true, brokeLine, after)

end AdminConsole.Yaml
