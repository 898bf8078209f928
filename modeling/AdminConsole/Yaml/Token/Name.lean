import AdminConsole.Text.Digit
import AdminConsole.Text.Utf8
import AdminConsole.Yaml.Cursor
import AdminConsole.Yaml.Token

/-!
# Yaml/Token/Name — anchors, tags and directives

Readers of the tokens that name things. Each starts at the token's first character and returns the
place after the token.
-/

namespace AdminConsole.Yaml

/-- What a reader returns: something, and the place after it. -/
abbrev Reading (α : Type) := Except Refusal (α × Cursor)

/-- The refusal of a text that does not keep the grammar. -/
def malformed {α : Type} : Except Refusal α := .error .malformed

/-- The number in decimal digits. -/
def decimalOf (ds : List Char) : Nat := Decimal.ofDigits (ds.filterMap Decimal.digit?)

/-- The number in hexadecimal digits. -/
def hexOf (ds : List Char) : Nat :=
  ds.foldl (fun n c => n * 16 + (Text.hexDigit? c).getD 0) 0

/-! ## Anchors and aliases -/

/-- What may follow a name: the end of a word, or a character that begins something else. -/
def endsAnchor (c : Option Char) : Bool :=
  endsWord c || match c with
    | some c => ['?', ':', ',', ']', '\x7d', '%', '@', '\x60'].contains c
    | none => false

/-- Reads the name of an anchor or alias. -/
def readAnchor (c : Cursor) : Reading String :=
  let (name, after) := c.advance.takeWhile isNameChar
  if name.isEmpty || !endsAnchor after.next then malformed
  else .ok (String.ofList name, after)

/-! ## Tags -/

/-- The characters of an address. -/
def isAddressChar (c : Char) : Bool :=
  isNameChar c || [';', '/', '?', ':', '@', '&', '=', '+', '$', ',', '.', '!', '~', '*', '\x27',
    '(', ')', '[', ']'].contains c

/-- Reads bytes written as a percent sign and two hexadecimal digits. -/
def readEscapes : Nat → List UInt8 → Cursor → Reading (List UInt8)
  | 0, bytes, c => .ok (bytes.reverse, c)
  | fuel + 1, bytes, c =>
    match c.rest with
    | '%' :: a :: b :: _ =>
      if isHexDigit a && isHexDigit b then
        readEscapes fuel (UInt8.ofNat (hexOf [a, b]) :: bytes) (c.advanceBy 3)
      else malformed
    | '%' :: _ => malformed
    | _ => .ok (bytes.reverse, c)

/-- Reads an address; escaped bytes must be well formed text. -/
def readAddress : Nat → List Char → Cursor → Reading (List Char)
  | 0, read, c => .ok (read, c)
  | fuel + 1, read, c =>
    let (plain, after) := c.takeWhile isAddressChar
    if after.next == some '%' then
      match readEscapes after.rest.length [] after with
      | .error e => .error e
      | .ok (bytes, after) =>
        match Text.utf8Text? bytes with
        | some cs => readAddress fuel (read ++ plain ++ cs) after
        | none => malformed
    else .ok (read ++ plain, after)

/-- Reads an address that is not empty; an escape counts even if it stands for nothing. -/
def readAddress1 (c : Cursor) : Reading String :=
  match readAddress (c.rest.length + 1) [] c with
  | .error e => .error e
  | .ok (cs, after) => if after.index = c.index then malformed else .ok (String.ofList cs, after)

/-- Reads a tag handle: an exclamation mark, and a name with another one after it if there is a
name. -/
def readHandle (c : Cursor) : Reading String :=
  if c.next != some '!' then malformed
  else if c.peek 1 == some ' ' then .ok ("!", c.advance)
  else
    let (name, after) := c.advance.takeWhile isNameChar
    if after.next == some '!' then
      .ok (String.ofList ('!' :: (name ++ ['!'])), after.advance)
    else malformed

/-- Whether an exclamation mark stands before the end of the name. -/
def hasHandle (cs : List Char) : Bool :=
  (cs.takeWhile fun ch => !endsName (some ch)).contains '!'

/-- Reads a tag between angle brackets, as it is. -/
def readVerbatimTag (c : Cursor) : Reading Token :=
  match readAddress1 (c.advanceBy 2) with
  | .error e => .error e
  | .ok (suffix, after) =>
    if after.next == some '>' then .ok (.tag none suffix, after.advance) else malformed

/-- Reads a tag with a handle, the short one if no other is there. -/
def readShortTag (c : Cursor) : Reading Token :=
  match (if hasHandle (c.rest.drop 1) then readHandle c else .ok ("!", c.advance)) with
  | .error e => .error e
  | .ok (handle, after) =>
    match readAddress1 after with
    | .error e => .error e
    | .ok (suffix, after) => .ok (.tag (some handle) suffix, after)

/-- **Reads a tag.** -/
def readTag (c : Cursor) : Reading Token :=
  let tag :=
    if c.peek 1 == some '<' then readVerbatimTag c
    else if endsWord (c.peek 1) then .ok (.tag none "!", c.advance)
    else readShortTag c
  match tag with
  | .error e => .error e
  | .ok (t, after) => if endsName after.next then .ok (t, after) else malformed

/-! ## Directives -/

/-- Reads a number. -/
def readNumber (c : Cursor) : Reading Nat :=
  let (ds, after) := c.takeWhile Char.isDigit
  if ds.isEmpty then malformed else .ok (decimalOf ds, after)

/-- Reads a version: two numbers with a point between them. -/
def readVersion (c : Cursor) : Reading Directive :=
  match readNumber c.dropSpaces with
  | .error e => .error e
  | .ok (major, after) =>
    if after.next != some '.' then malformed
    else match readNumber after.advance with
      | .error e => .error e
      | .ok (_, after) =>
        if endsName after.next then .ok (.version major, after) else malformed

/-- Reads a tag handle and what it stands for. -/
def readHandleMeaning (c : Cursor) : Reading Directive :=
  match readHandle c.dropSpaces with
  | .error e => .error e
  | .ok (name, after) =>
    if after.next != some ' ' then malformed
    else match readAddress1 after.dropSpaces with
      | .error e => .error e
      | .ok (expansion, after) =>
        if endsName after.next then .ok (.handle name expansion, after) else malformed

/-- Steps over spaces, a comment and the end of the line; nothing else may be there. -/
def finishLine (c : Cursor) : Except Refusal Cursor :=
  let c := c.dropSpaces
  let c := if c.next == some '#' then c.dropLine else c
  if endsLine c.next then .ok c.takeBreak.2 else malformed

/-- **Reads a directive.** -/
def readDirective (c : Cursor) : Reading Token :=
  let (name, after) := c.advance.takeWhile isNameChar
  if name.isEmpty || !endsName after.next then malformed
  else
    let body :=
      if name == "YAML".toList then readVersion after
      else if name == "TAG".toList then readHandleMeaning after
      else .ok (.other, after.dropLine)
    match body with
    | .error e => .error e
    | .ok (d, after) =>
      match finishLine after with
      | .error e => .error e
      | .ok after => .ok (.directive d, after)

end AdminConsole.Yaml
