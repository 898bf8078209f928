import AdminConsole.Text.Quoted
import AdminConsole.Value.Display

/-!
# Json/Writer — writing JSON text

Compact text puts nothing between tokens and keeps characters outside ASCII; indented text puts
each item on a line of its own and escapes them. Members are written in the mapping's order.
-/

namespace AdminConsole.Json

/-! ## Texts -/

/-- An escape by code. -/
def codeEscape (n : Nat) : List Char := '\\' :: 'u' :: Text.hexDigits 4 n

/-- The escape of a character outside ASCII, as a pair of halves where one code is too short. -/
def asciiEscape (c : Char) : List Char :=
  let n := c.toNat
  if n < 0x10000 then codeEscape n
  else codeEscape (0xd800 + (n - 0x10000) / 1024) ++ codeEscape (0xdc00 + (n - 0x10000) % 1024)

/-- One character of a text; `ascii` escapes what is outside ASCII. -/
def writeChar (ascii : Bool) (c : Char) : List Char :=
  match c with
  | '\x22' => ['\\', '\x22']
  | '\\' => ['\\', '\\']
  | '\n' => ['\\', 'n']
  | '\r' => ['\\', 'r']
  | '\t' => ['\\', 't']
  | '\x08' => ['\\', 'b']
  | '\x0c' => ['\\', 'f']
  | c =>
    if c.toNat < 32 then codeEscape c.toNat
    else if ascii && 126 < c.toNat then asciiEscape c
    else [c]

/-- A text in quotes. -/
def writeText (ascii : Bool) (s : String) : String :=
  String.ofList ('\x22' :: (s.toList.flatMap (writeChar ascii) ++ ['\x22']))

/-! ## Scalars -/

/-- The text of a number, with words for the special values. -/
def writeReal (x : Binary64) : String :=
  if x.isNaN then "NaN"
  else if x.isInfinite then (if x.isNegative then "-Infinity" else "Infinity")
  else Decimal.realText x

/-- The text of a scalar; dates are written as texts. -/
def writeScalar (ascii : Bool) : Scalar → String
  | .null => "null"
  | .bool b => if b then "true" else "false"
  | .int n => Decimal.intText n
  | .real x => writeReal x
  | .text s => writeText ascii s
  | .bytes bs => writeText ascii (Text.quotedBytes bs)
  | .date d => writeText ascii d.iso
  | .moment t => writeText ascii t.iso

/-- The name under which a key is written. -/
def keyName : Scalar → String
  | .text s => s
  | .null => "null"
  | .bool b => if b then "true" else "false"
  | .int n => Decimal.intText n
  | .real x => writeReal x
  | s => s.plain

/-! ## Layout -/

/-- How values are laid out: whether characters outside ASCII are escaped, and the number of
blanks per level, if each item has its own line. -/
structure Layout where
  ascii : Bool
  indent : Option Nat

/-- A line break with the blanks of a level. -/
def Layout.lineBreak (l : Layout) (level : Nat) : String :=
  match l.indent with
  | none => ""
  | some n => "\n" ++ String.ofList (List.replicate (n * level) ' ')

/-- What stands between a name and its value. -/
def Layout.colon (l : Layout) : String := if l.indent.isSome then ": " else ":"

/-- Written items between brackets, on the lines of `level`. -/
def Layout.block (l : Layout) (opening closing : String) (level : Nat) (items : List String) :
    String :=
  if items.isEmpty then opening ++ closing
  else
    opening ++ l.lineBreak (level + 1) ++ joinTexts ("," ++ l.lineBreak (level + 1)) items
      ++ l.lineBreak level ++ closing

mutual

/-- A value at a level of nesting. -/
def write (l : Layout) : Nat → Value → String
  | _, .scalar s => writeScalar l.ascii s
  | level, .list xs => l.block "[" "]" level (writeItems l (level + 1) xs)
  | level, .map es => l.block "\x7b" "\x7d" level (writeMembers l (level + 1) es)
  | level, .set ms => l.block "[" "]" level (ms.map (writeScalar l.ascii))
  | _, .enclosing _ => "null"

/-- The items of a list. -/
def writeItems (l : Layout) : Nat → List Value → List String
  | _, [] => []
  | level, x :: xs => write l level x :: writeItems l level xs

/-- The members of a mapping. -/
def writeMembers (l : Layout) : Nat → List (Scalar × Value) → List String
  | _, [] => []
  | level, (k, v) :: rest =>
    (writeText l.ascii (keyName k) ++ l.colon ++ write l level v) :: writeMembers l level rest

end

/-- **Compact JSON text.** -/
def compact (v : Value) : String := write ⟨false, none⟩ 0 v

/-- JSON text in ASCII with two blanks per level. -/
def indented (v : Value) : String := write ⟨true, some 2⟩ 0 v

end AdminConsole.Json
