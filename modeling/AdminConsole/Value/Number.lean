import AdminConsole.Fault.Basic
import AdminConsole.Text.Blank
import AdminConsole.Text.Digit

/-!
# Value/Number — numbers from values of any kind

Settings and permission limits are numbers that a user may have written as a number, a truth value
or a text. A text may have blanks around it, a sign, digits of any script, and single underscores
between digits.
-/

namespace AdminConsole.Value

/-! ## Texts of numbers -/

/-- The text with digits of every script as ASCII digits. -/
def asciiDigits (cs : List Char) : List Char :=
  cs.map fun c => match Text.decimalDigit? c with
    | some d => Char.ofNat ('0'.toNat + d)
    | none => c

/-- Drops underscores, each of which must stand between two digits. -/
def dropSeparators : (afterDigit : Bool) → List Char → Option (List Char)
  | _, [] => some []
  | afterDigit, '_' :: c :: rest =>
    if afterDigit && c.isDigit then (dropSeparators true rest).map (c :: ·) else none
  | _, ['_'] => none
  | _, c :: rest => (dropSeparators c.isDigit rest).map (c :: ·)

/-- Splits off a sign. -/
def takeSign : List Char → Bool × List Char
  | '-' :: rest => (true, rest)
  | '+' :: rest => (false, rest)
  | cs => (false, cs)

/-- The text of a number without blanks and separators. -/
def numberText (cs : List Char) : Option (List Char) :=
  dropSeparators false (asciiDigits (Text.trimBoth Text.isWhiteSpace cs))

/-- The integer that a text stands for. -/
def integerOfText (shown : String) (cs : List Char) : Except Mishap Int :=
  match (numberText cs).map takeSign with
  | none => .error (.integerText shown)
  | some (negative, ds) =>
    if ds.isEmpty || !ds.all Char.isDigit then .error (.integerText shown)
    else if 4300 < ds.length then .error (.digitLimit ds.length)
    else
      let n : Int := Decimal.ofDigits (ds.filterMap Decimal.digit?)
      .ok (if negative then -n else n)

/-- A word that stands for a special number, in any case. -/
def specialReal? (negative : Bool) (cs : List Char) : Option Binary64 :=
  let word := String.ofList (cs.map Char.toLower)
  if word == "inf" || word == "infinity" then some (Binary64.infinity negative)
  else if word == "nan" then some Binary64.nan
  else none

/-- A number with a point or an exponent. -/
def decimalReal? (negative : Bool) (cs : List Char) : Option Binary64 :=
  let (whole, rest) := cs.span Char.isDigit
  let (fraction, rest) := match rest with
    | '.' :: more => more.span Char.isDigit
    | _ => ([], rest)
  if whole.isEmpty && fraction.isEmpty then none
  else match rest with
    | [] => some (Decimal.ofParts negative whole fraction 0)
    | e :: more =>
      let (down, ds) := takeSign more
      if (e == 'e' || e == 'E') && !ds.isEmpty && ds.all Char.isDigit then
        let n : Int := Decimal.ofDigits (ds.filterMap Decimal.digit?)
        some (Decimal.ofParts negative whole fraction (if down then -n else n))
      else none

/-- The double that a text stands for. -/
def realOfText (shown : String) (cs : List Char) : Except Mishap Binary64 :=
  match (numberText cs).map takeSign with
  | none => .error (.realText shown)
  | some (negative, body) =>
    match (specialReal? negative body).or (decimalReal? negative body) with
    | some x => .ok x
    | none => .error (.realText shown)

/-! ## Values -/

/-- The characters of a text given as bytes. -/
def charsOfBytes (bs : List UInt8) : List Char := bs.map fun b => Char.ofNat b.toNat

/-- **The integer that a value stands for**, a fraction being cut off. -/
def toInteger : Value → Except Mishap Int
  | .bool b => .ok (if b then 1 else 0)
  | .int n => .ok n
  | .real x =>
    if x.isNaN then .error .integerOfNaN
    else if x.isInfinite then .error .integerOfInfinity
    else .ok x.truncate
  | .text s => integerOfText (Text.quoted s) s.toList
  | .scalar (.bytes bs) => integerOfText (Text.quotedBytes bs) (charsOfBytes bs)
  | v => .error (.integerKind v.kindName)

/-- **The double that a value stands for.** -/
def toReal : Value → Except Mishap Binary64
  | .bool b => .ok (Binary64.ofInt (if b then 1 else 0))
  | .int n =>
    let x := Binary64.ofInt n
    if x.isFinite then .ok x else .error .realOverflow
  | .real x => .ok x
  | .text s => realOfText (Text.quoted s) s.toList
  | .scalar (.bytes bs) => realOfText (Text.quotedBytes bs) (charsOfBytes bs)
  | v => .error (.realKind v.kindName)

end AdminConsole.Value
