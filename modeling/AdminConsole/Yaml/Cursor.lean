/-!
# Yaml/Cursor — places in a settings file

A cursor stands before the characters that are left and knows its line and column. Line breaks are
the line feed, the carriage return (with a line feed after it), the next-line character, and the
line and paragraph separators; the last two are kept where lines are folded.
-/

namespace AdminConsole.Yaml

/-- A place in a text. -/
structure Cursor where
  rest : List Char
  index : Nat := 0
  line : Nat := 0
  column : Nat := 0
  deriving DecidableEq, Repr, Inhabited

/-! ## Classes of characters, the end of the text included -/

/-- Whether a character ends a line. -/
def isBreak (c : Char) : Bool :=
  c == '\n' || c == '\r' || c == '\u0085' || c == '\u2028' || c == '\u2029'

/-- The end of the text, or a line break. -/
def endsLine : Option Char → Bool
  | none => true
  | some c => isBreak c

/-- The end of the text, a line break, or a space. -/
def endsName : Option Char → Bool
  | some ' ' => true
  | c => endsLine c

/-- The end of the text, a line break, a space, or a tab. -/
def endsWord : Option Char → Bool
  | some '\t' => true
  | c => endsName c

/-- A letter, a digit, a hyphen or an underscore. -/
def isNameChar (c : Char) : Bool :=
  ('0' ≤ c && c ≤ '9') || ('A' ≤ c && c ≤ 'Z') || ('a' ≤ c && c ≤ 'z') || c == '-' || c == '_'

/-- A hexadecimal digit. -/
def isHexDigit (c : Char) : Bool :=
  ('0' ≤ c && c ≤ '9') || ('A' ≤ c && c ≤ 'F') || ('a' ≤ c && c ≤ 'f')

namespace Cursor

/-- The start of a text. -/
def start (cs : List Char) : Cursor := { rest := cs }

/-- The character ahead by `n`. -/
def peek (c : Cursor) (n : Nat) : Option Char := c.rest[n]?

/-- The next character. -/
def next (c : Cursor) : Option Char := c.rest.head?

/-- Whether the next characters are these. -/
def sees (c : Cursor) (word : List Char) : Bool := word.isPrefixOf c.rest

/-- Steps over one character. A carriage return before a line feed ends no line by itself. -/
def advance (c : Cursor) : Cursor :=
  match c.rest with
  | [] => c
  | ch :: rest =>
    if isBreak ch && !(ch == '\r' && rest.head? == some '\n') then
      { rest, index := c.index + 1, line := c.line + 1, column := 0 }
    else if ch == '\ufeff' then { c with rest, index := c.index + 1 }
    else { c with rest, index := c.index + 1, column := c.column + 1 }

/-- Steps over some characters. -/
def advanceBy : Nat → Cursor → Cursor
  | 0, c => c
  | n + 1, c => advanceBy n c.advance

/-- The characters of a class from here on, and the place after them. -/
def takeWhile (p : Char → Bool) (c : Cursor) : List Char × Cursor :=
  let taken := c.rest.takeWhile p
  (taken, c.advanceBy taken.length)

/-- The place after the characters of a class. -/
def dropWhile (p : Char → Bool) (c : Cursor) : Cursor := (c.takeWhile p).2

/-- The place after spaces. -/
def dropSpaces (c : Cursor) : Cursor := c.dropWhile (· == ' ')

/-- The place at the end of the line. -/
def dropLine (c : Cursor) : Cursor := c.dropWhile fun ch => !isBreak ch

/-- Steps over a line break, if there is one, and says what is kept of it. -/
def takeBreak (c : Cursor) : Option Char × Cursor :=
  match c.rest with
  | '\r' :: '\n' :: _ => (some '\n', c.advanceBy 2)
  | ch :: _ =>
    if ch == '\u2028' || ch == '\u2029' then (some ch, c.advance)
    else if isBreak ch then (some '\n', c.advance)
    else (none, c)
  | [] => (none, c)

/-- Whether a document marker stands here: three of one character, and then the end of a word. -/
def seesMarker (c : Cursor) : Bool :=
  (c.sees ['-', '-', '-'] || c.sees ['.', '.', '.']) && endsWord (c.peek 3)

end Cursor

end AdminConsole.Yaml
