import AdminConsole.Text.Base64
import AdminConsole.Text.Case
import AdminConsole.Text.Digit
import AdminConsole.Value.Number
import AdminConsole.Yaml.Tag
import AdminConsole.Yaml.Token

/-!
# Yaml/Scalar — values of tagged scalars

What a scalar with a standard tag stands for. A written tag may stand before any text, so each of
them can fail.
-/

namespace AdminConsole.Yaml

/-- What making a scalar returns. -/
abbrev Making := Except Refusal Scalar

/-- The failure of looking at the first character of no text. -/
def emptyText : Refusal := .mishap (.other "IndexError" "string index out of range")

/-- Lifts a failed conversion. -/
def converted {α : Type} : Except Mishap α → Except Refusal α
  | .ok a => .ok a
  | .error m => .error (.mishap m)

/-! ## Truth values -/

/-- The truth values of words in lower case. -/
def truthWords : List (String × Bool) := [
  ("yes", true), ("no", false), ("true", true), ("false", false), ("on", true), ("off", false)]

/-- The truth value that a word stands for. -/
def makeBool (s : String) : Making :=
  match truthWords.lookup (Text.lower s) with
  | some b => .ok (.bool b)
  | none => .error (.mishap (.missingKey (Text.lower s)))

/-! ## Integers -/

/-- The value of a digit in a base up to sixteen. -/
def digitIn? (base : Nat) (c : Char) : Option Nat :=
  (Text.hexDigit? c).bind fun d => if d < base then some d else none

/-- The number in digits of a base. -/
def numberIn? (base : Nat) (ds : List Char) : Option Nat :=
  if ds.isEmpty then none
  else (ds.mapM (digitIn? base)).map fun ns => ns.foldl (fun n d => n * base + d) 0

/-- The letter that may stand after a zero before the digits of a base. -/
def baseLetter : Nat → Char
  | 2 => 'b'
  | 8 => 'o'
  | _ => 'x'

/-- The integer in digits of a base, with blanks, a sign and the mark of the base allowed. -/
def integerIn (base : Nat) (cs : List Char) : Except Refusal Int :=
  let (negative, body) := Value.takeSign (Value.asciiDigits (Text.trimBoth Text.isWhiteSpace cs))
  let ds := match body with
    | '0' :: mark :: rest => if mark.toLower == baseLetter base then rest else body
    | _ => body
  match numberIn? base ds with
  | some n => .ok (if negative then -(n : Int) else n)
  | none => .error (.mishap (.other "ValueError"
      ("invalid literal for int() with base " ++ Decimal.intText base ++ ": "
        ++ Text.quoted (String.ofList cs))))

/-- The integer in decimal digits. -/
def decimalInteger (cs : List Char) : Except Refusal Int :=
  converted (Value.integerOfText (Text.quoted (String.ofList cs)) cs)

/-- The integer in sixtieths. -/
def sexagesimal (cs : List Char) : Except Refusal Int := do
  let parts ← (Tag.splitAt ':' cs).mapM decimalInteger
  return parts.foldl (fun n d => n * 60 + d) 0

/-- The unsigned integer that a text stands for. -/
def unsignedInteger (cs : List Char) : Except Refusal Int :=
  match cs with
  | [] => .error emptyText
  | ['0'] => .ok 0
  | '0' :: 'b' :: ds => integerIn 2 ds
  | '0' :: 'x' :: ds => integerIn 16 ds
  | '0' :: _ => integerIn 8 cs
  | _ => if cs.contains ':' then sexagesimal cs else decimalInteger cs

/-- Whether a text has a minus sign in front, and the text after a sign. -/
def splitSign (cs : List Char) : Bool × List Char := (cs.head? == some '-', Tag.unsigned cs)

/-- The integer that a text stands for; underscores do not count. -/
def makeInt (s : String) : Making := do
  let cs := s.toList.filter (· != '_')
  if cs.isEmpty then .error emptyText
  let (negative, body) := splitSign cs
  let n ← unsignedInteger body
  return .int (if negative then -n else n)

/-! ## Numbers -/

/-- A number with the other sign. -/
def negated (x : Binary64) : Binary64 := if x.isNaN then x else ⟨x.bits ^^^ 0x8000000000000000⟩

/-- The number in decimal digits. -/
def decimalReal (cs : List Char) : Except Refusal Binary64 :=
  converted (Value.realOfText (Text.quoted (String.ofList cs)) cs)

/-- The sum of parts, the last first, each sixty times as much as the one after it. -/
def sumSixtieths : Nat → Binary64 → List Binary64 → Except Refusal Binary64
  | _, sum, [] => .ok sum
  | weight, sum, x :: rest =>
    let w := Binary64.ofInt weight
    if w.isFinite then
      sumSixtieths (weight * 60) (.ofFloat (sum.toFloat + x.toFloat * w.toFloat)) rest
    else .error (.mishap .realOverflow)

/-- What every `.nan` of a settings file is. -/
def sharedNaN : Binary64 := .nanMarked 1

/-- The unsigned number that a text stands for. -/
def unsignedReal (cs : List Char) : Except Refusal Binary64 :=
  if cs == ".inf".toList then .ok (.infinity false)
  else if cs == ".nan".toList then .ok sharedNaN
  else if cs.contains ':' then do
    let parts ← (Tag.splitAt ':' cs).mapM decimalReal
    sumSixtieths 1 .zero parts.reverse
  else decimalReal cs

/-- The number that a text stands for; underscores do not count. What is no number, and is not
written `.nan`, is told from others by the number of its scalar. -/
def makeReal (number : Nat) (s : String) : Making := do
  let cs := (Text.lower (String.ofList (s.toList.filter (· != '_')))).toList
  if cs.isEmpty then .error emptyText
  let (negative, body) := splitSign cs
  let x ← unsignedReal body
  return .real (if x.isNaN && x != sharedNaN then .nanMarked (number + 2)
    else if negative then negated x else x)

/-! ## Timestamps -/

/-- A date or time, or the refusal of one that is none. -/
def dated {α : Type} : Except String α → Except Refusal α
  | .ok x => .ok x
  | .error text => .error (.mishap (.badDate text))

/-- The number in decimal digits. -/
def digitsNat (ds : List Char) : Nat := Decimal.ofDigits (ds.filterMap Decimal.digit?)

/-- A fraction of a second in millionths, cut off after six digits. -/
def micros (ds : List Char) : Nat :=
  let ds := ds.take 6
  digitsNat (ds ++ List.replicate (6 - ds.length) '0')

/-- The offset of a timestamp in minutes; it must be less than a day. -/
def offsetOf (t : Tag.TimestampText) : Except String (Option Int) :=
  match t.offset with
  | some (negative, hours, minutes) =>
    let m := digitsNat hours * 60 + digitsNat minutes
    let offset : Int := if negative then -(m : Int) else m
    if m < 1440 then .ok (some offset)
    else .error ("offset must be a timedelta strictly between -timedelta(hours=24) and "
      ++ "timedelta(hours=24), not " ++ Moment.spanTerm offset ++ ".")
  | none => .ok (if t.universal then some 0 else none)

/-- The date or moment that a text stands for; of its faults the offset's is told first. -/
def makeTimestamp (s : String) : Making :=
  match Tag.readTimestamp s.toList with
  | none => .error (.mishap (.noAttribute "NoneType" "groupdict"))
  | some t => dated do
    let date := Date.of (digitsNat t.year) (digitsNat t.month) (digitsNat t.day)
    match t.time with
    | none => return .date (← date)
    | some (hour, minute, second, fraction) =>
      let offset ← offsetOf t
      let m ← Moment.of (← date) (digitsNat hour) (digitsNat minute) (digitsNat second)
        (micros fraction) offset
      return .moment m

/-! ## Bytes -/

/-- The bytes that a text stands for. -/
def makeBytes (s : String) : Making :=
  if s.toList.all fun c => c.toNat < 128 then
    match Text.base64Bytes? s.toList with
    | some bs => .ok (.bytes bs)
    | none => .error .malformed
  else .error .malformed

/-! ## All tags -/

/-- **The value of a scalar by its tag**, nothing for a tag that no scalar has. -/
def makeScalar (tag text : String) (number : Nat) : Option Making :=
  if tag == Tag.str then some (.ok (.text text))
  else if tag == Tag.null then some (.ok .null)
  else if tag == Tag.bool then some (makeBool text)
  else if tag == Tag.int then some (makeInt text)
  else if tag == Tag.float then some (makeReal number text)
  else if tag == Tag.timestamp then some (makeTimestamp text)
  else if tag == Tag.binary then some (makeBytes text)
  else none

end AdminConsole.Yaml
