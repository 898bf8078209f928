import AdminConsole.Fault.Mishap
import AdminConsole.Text.Digit
import AdminConsole.Text.Halves

/-!
# Json/Reader — reading JSON text

A reader takes the characters that are left and returns a value with the characters after it. An
error keeps the characters from the place it stands at, which gives its line. Beyond the standard
grammar, `NaN`, `Infinity` and `-Infinity` are numbers; of members with one name the last value
counts, at the first one's place. An integer of more than 4300 digits is not read, nor are lists and
objects nested too deep.
-/

namespace AdminConsole.Json

/-! ## Errors -/

/-- What can be wrong with a text. -/
inductive Trouble where
  | expectingValue
  | expectingName
  | expectingColon
  | expectingComma
  | unterminatedText
  | controlCharacter
  | badEscape
  | badCodeEscape
  | extraData
  | byteOrderMark
  deriving DecidableEq, Repr, Inhabited

/-- The words for a trouble. -/
def Trouble.message : Trouble → String
  | expectingValue => "Expecting value"
  | expectingName => "Expecting property name enclosed in double quotes"
  | expectingColon => "Expecting ':' delimiter"
  | expectingComma => "Expecting ',' delimiter"
  | unterminatedText => "Unterminated string starting at"
  | controlCharacter => "Invalid control character at"
  | badEscape => "Invalid \\escape"
  | badCodeEscape => "Invalid \\uXXXX escape"
  | extraData => "Extra data"
  | byteOrderMark => "Unexpected UTF-8 BOM (decode using utf-8-sig)"

/-- Why a text was not read: it is malformed where `rest` begins, or it goes beyond a limit. -/
inductive Failure where
  | malformed (trouble : Trouble) (rest : List Char)
  | mishap (m : Mishap)
  deriving DecidableEq, Repr, Inhabited

/-- What a reader returns: something, and the characters after it. -/
abbrev Step (α : Type) := Except Failure (α × List Char)

/-! ## Characters -/

/-- The blanks that JSON allows between tokens. -/
def isGap (c : Char) : Bool := c == ' ' || c == '\t' || c == '\n' || c == '\r'

/-- The characters after leading blanks. -/
def skipGap (cs : List Char) : List Char := cs.dropWhile isGap

/-- The number written by four hexadecimal digits. -/
def hexCode? : List Char → Option Nat
  | [a, b, c, d] => do
    let a ← Text.hexDigit? a
    let b ← Text.hexDigit? b
    let c ← Text.hexDigit? c
    let d ← Text.hexDigit? d
    return ((a * 16 + b) * 16 + c) * 16 + d
  | _ => none

/-- The character meant by a one-letter escape. -/
def escaped? : Char → Option Char
  | '\x22' => some '\x22'
  | '\\' => some '\\'
  | '/' => some '/'
  | 'b' => some '\x08'
  | 'f' => some '\x0c'
  | 'n' => some '\n'
  | 'r' => some '\r'
  | 't' => some '\t'
  | _ => none

/-! ## Texts -/

/-- Reads a code escape, with `cs` from its `u` on; a pair of halves is one character. -/
def readCode (cs : List Char) : Step Char :=
  let failed := .error (.malformed .badCodeEscape cs)
  let after := cs.drop 5
  if after.isEmpty then failed
  else match hexCode? ((cs.drop 1).take 4) with
    | none => failed
    | some high =>
      if Text.isHighHalf high && 6 < after.length && after.take 2 == ['\\', 'u'] then
        match hexCode? ((after.drop 2).take 4) with
        | none => .error (.malformed .badCodeEscape (after.drop 1))
        | some low =>
          if Text.isLowHalf low then .ok (Text.charOfHalves high low, after.drop 6)
          else .ok (Text.charOfCode high, after)
      else .ok (Text.charOfCode high, after)

/-- Reads the rest of a text up to its closing quote. `start` begins at the opening quote and `acc`
holds the characters so far, last first. -/
def readText (start : List Char) : Nat → List Char → List Char → Step String
  | 0, _, _ => .error (.malformed .unterminatedText start)
  | _ + 1, _, [] => .error (.malformed .unterminatedText start)
  | _ + 1, acc, '\x22' :: rest => .ok (String.ofList acc.reverse, rest)
  | _ + 1, _, '\\' :: [] => .error (.malformed .unterminatedText start)
  | fuel + 1, acc, '\\' :: 'u' :: rest =>
    match readCode ('u' :: rest) with
    | .ok (c, rest) => readText start fuel (c :: acc) rest
    | .error e => .error e
  | fuel + 1, acc, '\\' :: c :: rest =>
    match escaped? c with
    | some d => readText start fuel (d :: acc) rest
    | none => .error (.malformed .badEscape ('\\' :: c :: rest))
  | fuel + 1, acc, c :: rest =>
    if c.toNat < 32 then .error (.malformed .controlCharacter (c :: rest))
    else readText start fuel (c :: acc) rest

/-! ## Numbers -/

/-- The most digits an integer may have. -/
def maxDigits : Nat := 4300

/-- Splits off leading ASCII digits. -/
def spanDigits (cs : List Char) : List Char × List Char := cs.span Char.isDigit

/-- Reads a fraction, if a point with a digit after it is there. -/
def readFraction : List Char → List Char × List Char
  | '.' :: rest =>
    let (ds, after) := spanDigits rest
    if ds.isEmpty then ([], '.' :: rest) else (ds, after)
  | cs => ([], cs)

/-- Reads an exponent, if a letter `e` and digits with an optional sign are there. -/
def readExponent (cs : List Char) : Option Int × List Char :=
  match cs with
  | e :: rest =>
    if e == 'e' || e == 'E' then
      let (negative, body) := match rest with
        | '-' :: body => (true, body)
        | '+' :: body => (false, body)
        | body => (false, body)
      let (ds, after) := spanDigits body
      if ds.isEmpty then (none, cs)
      else
        let n : Int := Decimal.ofDigits (ds.filterMap Decimal.digit?)
        (some (if negative then -n else n), after)
    else (none, cs)
  | [] => (none, [])

/-- Reads an unsigned number. -/
def readMagnitude (negative : Bool) (start cs : List Char) : Step Scalar :=
  let (all, afterAll) := spanDigits cs
  -- a leading zero stands alone
  let (whole, rest) := match all with
    | '0' :: more => (['0'], more ++ afterAll)
    | _ => (all, afterAll)
  if whole.isEmpty then .error (.malformed .expectingValue start)
  else
    let (fraction, rest) := readFraction rest
    let (exponent, rest) := readExponent rest
    if fraction.isEmpty && exponent.isNone then
      if maxDigits < whole.length then .error (.mishap (.digitLimit whole.length))
      else
        let n : Int := Decimal.ofDigits (whole.filterMap Decimal.digit?)
        .ok (.int (if negative then -n else n), rest)
    else .ok (.real (Decimal.ofParts negative whole fraction (exponent.getD 0)), rest)

/-- Takes a word off the front. -/
def afterWord? (word : String) (cs : List Char) : Option (List Char) :=
  if word.toList.isPrefixOf cs then some (cs.drop word.length) else none

/-- Reads a number, a truth value or null. -/
def readScalar (cs : List Char) : Step Scalar :=
  match cs with
  | '-' :: rest =>
    match afterWord? "Infinity" rest with
    | some after => .ok (.real (Binary64.infinity true), after)
    | none => readMagnitude true cs rest
  | _ =>
    let word (w : String) (s : Scalar) : Option (Scalar × List Char) :=
      (afterWord? w cs).map (s, ·)
    match word "null" .null <|> word "true" (.bool true) <|> word "false" (.bool false)
        <|> word "NaN" (.real Binary64.nan)
        <|> word "Infinity" (.real (Binary64.infinity false)) with
    | some found => .ok found
    | none => readMagnitude false cs cs

/-! ## Values -/

/-- How deep lists and objects may be nested. -/
def maxDepth : Nat := 990

/-- The failure of a list or object that is nested too deep. -/
def tooDeep {α : Type} (what : String) : Step α :=
  .error (.mishap (.tooDeep (" while decoding a JSON " ++ what ++ " from a unicode string")))

mutual

/-- Reads a value with room for some more levels of nesting. -/
def readValue (room : Nat) : Nat → List Char → Step Value
  | 0, cs => .error (.malformed .expectingValue cs)
  | fuel + 1, cs =>
    match cs with
    | '\x22' :: rest =>
      match readText cs (rest.length + 1) [] rest with
      | .ok (s, rest) => .ok (.text s, rest)
      | .error e => .error e
    | '[' :: rest =>
      if room = 0 then tooDeep "array"
      else match skipGap rest with
      | ']' :: after => .ok (.list [], after)
      | inside =>
        match readItems (room - 1) fuel inside with
        | .ok (items, after) => .ok (.list items, after)
        | .error e => .error e
    | '\x7b' :: rest =>
      if room = 0 then tooDeep "object"
      else match skipGap rest with
      | '\x7d' :: after => .ok (.empty, after)
      | inside =>
        match readMembers (room - 1) fuel [] inside with
        | .ok (members, after) => .ok (.map members, after)
        | .error e => .error e
    | _ =>
      match readScalar cs with
      | .ok (s, rest) => .ok (.scalar s, rest)
      | .error e => .error e

/-- Reads the items of a list up to its bracket. -/
def readItems (room : Nat) : Nat → List Char → Step (List Value)
  | 0, cs => .error (.malformed .expectingValue cs)
  | fuel + 1, cs =>
    match readValue room fuel cs with
    | .error e => .error e
    | .ok (item, rest) =>
      match skipGap rest with
      | ']' :: after => .ok ([item], after)
      | ',' :: after =>
        match readItems room fuel (skipGap after) with
        | .ok (items, after) => .ok (item :: items, after)
        | .error e => .error e
      | rest => .error (.malformed .expectingComma rest)

/-- Reads the members of an object up to its brace, adding them to those so far. -/
def readMembers (room : Nat) :
    Nat → List (Scalar × Value) → List Char → Step (List (Scalar × Value))
  | 0, _, cs => .error (.malformed .expectingName cs)
  | fuel + 1, members, cs =>
    match cs with
    | '\x22' :: rest =>
      match readText cs (rest.length + 1) [] rest with
      | .error e => .error e
      | .ok (name, rest) =>
        match skipGap rest with
        | ':' :: after =>
          match readValue room fuel (skipGap after) with
          | .error e => .error e
          | .ok (value, rest) =>
            let members := Entries.put (.text name) value members
            match skipGap rest with
            | '\x7d' :: after => .ok (members, after)
            | ',' :: after => readMembers room fuel members (skipGap after)
            | rest => .error (.malformed .expectingComma rest)
        | rest => .error (.malformed .expectingColon rest)
    | _ => .error (.malformed .expectingName cs)

end

/-- Reads a whole text from its characters; each level of nesting takes two steps. -/
def readAll (cs : List Char) : Except Failure Value :=
  match cs with
  | '\ufeff' :: _ => .error (.malformed .byteOrderMark cs)
  | _ =>
    match readValue maxDepth (2 * cs.length + 2) (skipGap cs) with
    | .error e => .error e
    | .ok (v, rest) =>
      match skipGap rest with
      | [] => .ok v
      | rest => .error (.malformed .extraData rest)

/-- **Reads a JSON text.** -/
def read (s : String) : Except Failure Value := readAll s.toList

/-- The line on which the characters `rest` begin. -/
def lineOf (s : String) (rest : List Char) : Nat :=
  s.toList.count '\n' - rest.count '\n' + 1

end AdminConsole.Json
