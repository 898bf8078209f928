import AdminConsole.Text.Halves
import AdminConsole.Yaml.Token.Name

/-!
# Yaml/Token/Quoted — scalars in quotes

In single quotes a doubled quote stands for one; in double quotes a backslash begins an escape.
Inside both, a line break with the blanks around it is folded: a single one becomes a space, of
several the first goes.
-/

namespace AdminConsole.Yaml

/-- Whether a character is a space or a tab. -/
def isBlankChar (c : Char) : Bool := c == ' ' || c == '\t'

/-- What an escaped character stands for. -/
def escapes : List (Char × Char) := [
  ('0', '\x00'), ('a', '\x07'), ('b', '\x08'), ('t', '\t'), ('\t', '\t'), ('n', '\n'),
  ('v', '\x0b'), ('f', '\x0c'), ('r', '\r'), ('e', '\x1b'), (' ', ' '), ('\x22', '\x22'),
  ('\\', '\\'), ('/', '/'), ('N', '\u0085'), ('_', '\u00a0'), ('L', '\u2028'), ('P', '\u2029')]

/-- The number of digits of an escape by code. -/
def codeLength? : Char → Option Nat
  | 'x' => some 2
  | 'u' => some 4
  | 'U' => some 8
  | _ => none

/-- The character of a code; a code beyond all characters is no text. -/
def charOfCode (n : Nat) : Except Refusal Char :=
  if n ≤ 0x10ffff then .ok (Text.charOfCode n)
  else if n ≤ 0x7fffffff then
    .error (.mishap (.other "ValueError" "chr() arg not in range(0x110000)"))
  else .error (.mishap (.other "OverflowError" "signed integer is greater than maximum"))

/-- Reads the line breaks after a first one, blanks between them dropped; no document marker may
begin a line. -/
def readBreaks : Nat → List Char → Cursor → Reading (List Char)
  | 0, _, _ => malformed
  | fuel + 1, read, c =>
    if c.seesMarker then malformed
    else
      let c := c.dropWhile isBlankChar
      match c.takeBreak with
      | (some ch, after) => readBreaks fuel (read ++ [ch]) after
      | (none, _) => .ok (read, c)

/-- What a first line break and those after it stand for. -/
def folded (first : Char) (more : List Char) : List Char :=
  if first != '\n' then first :: more else if more.isEmpty then [' '] else more

/-- Reads an escape, with `c` after the backslash. -/
def readEscape (c : Cursor) : Reading (List Char) :=
  match c.next with
  | none => malformed
  | some ch =>
    match escapes.lookup ch with
    | some meant => .ok ([meant], c.advance)
    | none =>
      match codeLength? ch with
      | some n =>
        let ds := (c.rest.drop 1).take n
        if ds.length = n && ds.all isHexDigit then
          match charOfCode (hexOf ds) with
          | .ok meant => .ok ([meant], c.advanceBy (n + 1))
          | .error e => .error e
        else malformed
      | none =>
        match c.takeBreak with
        | (some _, after) => readBreaks (after.rest.length + 1) [] after
        | (none, _) => malformed

/-- Whether a character stands for itself inside quotes. -/
def isQuotable (double : Bool) (c : Char) : Bool :=
  !(isBlankChar c || isBreak c) && if double then c != '\x22' && c != '\\' else c != '\x27'

/-- Reads what is in quotes up to the closing one. -/
def readInside (double : Bool) : Nat → List Char → Cursor → Reading String
  | 0, _, _ => malformed
  | fuel + 1, read, c =>
    match c.rest with
    | [] => malformed
    | ch :: more =>
      if double && ch == '\x22' then .ok (String.ofList read, c.advance)
      else if double && ch == '\\' then
        match readEscape c.advance with
        | .ok (meant, after) => readInside double fuel (read ++ meant) after
        | .error e => .error e
      else if !double && ch == '\x27' then
        if more.head? == some '\x27' then readInside double fuel (read ++ ['\x27']) (c.advanceBy 2)
        else .ok (String.ofList read, c.advance)
      else if isBlankChar ch || isBreak ch then
        let (blanks, after) := c.takeWhile isBlankChar
        match after.takeBreak with
        | (some first, after) =>
          match readBreaks (after.rest.length + 1) [] after with
          | .ok (breaks, after) => readInside double fuel (read ++ folded first breaks) after
          | .error e => .error e
        | (none, _) =>
          if after.rest.isEmpty then malformed else readInside double fuel (read ++ blanks) after
      else
        let (plain, after) := c.takeWhile (isQuotable double)
        readInside double fuel (read ++ plain) after

/-- **Reads a scalar in quotes.** -/
def readQuoted (double : Bool) (c : Cursor) : Reading Token :=
  match readInside double (c.rest.length + 1) [] c.advance with
  | .ok (text, after) => .ok (.scalar text false, after)
  | .error e => .error e

end AdminConsole.Yaml
