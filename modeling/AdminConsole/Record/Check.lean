import AdminConsole.Fault.Basic
import AdminConsole.Text.Blank

/-!
# Record/Check — lenient checks of record fields

A field check turns a value into one of the wanted type, or says what is wrong with it. Numbers and
truth values may be written as texts. A record check runs the checks of all fields and joins their
messages in field order, each after the name of its field.
-/

namespace AdminConsole.Record

/-! ## Checks of one value -/

/-- What a check of a value returns. -/
abbrev Check (α : Type) := Value → Except String α

/-- A text. -/
def text : Check String
  | .text s => .ok s
  | _ => .error "Input should be a valid string"

/-- A text or null. -/
def optionalText : Check (Option String)
  | .null => .ok none
  | v => (text v).map some

/-- A text, null counting as the empty one. -/
def textOrNull : Check String
  | .null => .ok ""
  | v => text v

/-- One of some texts, named in the message. -/
def oneOf (choices : List String) (named : String) : Check String
  | .text s => if choices.contains s then .ok s else .error ("Input should be " ++ named)
  | _ => .error ("Input should be " ++ named)

/-! ## Integers -/

/-- Takes leading zeros off digits: a zero before a point, or the last character of nothing but
zeros, stays. A minus sign after zeros is kept, so `0-5` is minus five. -/
def dropZeros (last : Char) : List Char → Option (List Char)
  | [] => some [last]
  | c :: rest =>
    if c == '0' || c == '_' then dropZeros c rest
    else if ('1' ≤ c && c ≤ '9') || c == '-' then some (c :: rest)
    else if c == '.' then some (last :: c :: rest)
    else none

/-- Takes leading zeros off the text of an integer without its sign. -/
def withoutZeros : List Char → Option (List Char)
  | '0' :: rest => dropZeros '0' rest
  | c :: rest => if '1' ≤ c && c ≤ '9' then some (c :: rest) else none
  | [] => none

/-- Takes off a tail of zeros after a point. -/
def withoutZeroFraction (cs : List Char) : List Char :=
  let (whole, tail) := cs.span (· != '.')
  match tail with
  | _ :: zeros => if !zeros.isEmpty && zeros.all (· == '0') then whole else cs
  | [] => cs

/-- Whether two underscores stand next to each other. -/
def hasDoubleUnderscore : List Char → Bool
  | '_' :: '_' :: _ => true
  | _ :: rest => hasDoubleUnderscore rest
  | [] => false

/-- Takes out single underscores inside the text. -/
def withoutUnderscores (cs : List Char) : List Char :=
  if cs.head? == some '_' || cs.getLast? == some '_' || hasDoubleUnderscore cs then cs
  else cs.filter (· != '_')

/-- Splits off one sign; a plus sign has no minus sign after it. -/
def takeSign? : List Char → Option (Bool × List Char)
  | '+' :: '-' :: _ => none
  | '+' :: rest => some (false, rest)
  | '-' :: rest => some (true, rest)
  | cs => some (false, cs)

/-- The sign and the digits of the text of an integer, cleaned of blanks, leading zeros, a zero
fraction and underscores. -/
def cleaned? (s : String) : Option (Bool × List Char) := do
  let (negative, cs) ← takeSign? (Text.trimBoth Text.isWhiteSpace s.toList)
  match withoutUnderscores (withoutZeroFraction (← withoutZeros cs)) with
  | '-' :: ds => if negative then none else some (true, ds)
  | ds => some (negative, ds)

/-- The greatest number of digits that are read. -/
def maxDigits : Nat := 4300

/-- The message for a number with too many digits. -/
def tooLong : String := "Unable to parse input string as an integer, exceeded maximum size"

/-- The message for a text that is no integer. -/
def noInteger : String :=
  "Input should be a valid integer, unable to parse string as an integer"

/-- The integer that a text stands for. -/
def integerOfText (s : String) : Except String Int :=
  match cleaned? s with
  | none => .error noInteger
  | some (negative, ds) =>
    if maxDigits < (ds.takeWhile Char.isDigit).length then .error tooLong
    else if ds.isEmpty || !ds.all Char.isDigit || (ds.head? == some '0' && 1 < ds.length) then
      .error noInteger
    else
      let n : Int := Decimal.ofDigits (ds.filterMap Decimal.digit?)
      .ok (if negative then -n else n)

/-- Whether an integer fits into a machine word with a sign. -/
def fitsWord (n : Int) : Bool := -(Nat.pow 2 63 : Int) ≤ n && n < (Nat.pow 2 63 : Int)

/-- The integer that a number without a fraction is; the least word of the machine is too large
already. -/
def integerOfReal (x : Binary64) : Except String Int :=
  if !x.isFinite then .error "Input should be a finite number"
  else if !x.isIntegral then
    .error "Input should be a valid integer, got a number with a fractional part"
  else if fitsWord x.truncate && x.truncate != -(Nat.pow 2 63 : Int) then .ok x.truncate
  else .error tooLong

/-- An integer, a truth value, a number without a fraction, or a text of one. -/
def integer : Check Int
  | .int n => .ok n
  | .bool b => .ok (if b then 1 else 0)
  | .real x => integerOfReal x
  | .text s => integerOfText s
  | _ => .error "Input should be a valid integer"

/-- An integer within bounds. -/
def integerBetween (low high : Int) : Check Int := fun v =>
  match integer v with
  | .error e => .error e
  | .ok n =>
    if n < low then
      .error ("Input should be greater than or equal to " ++ Decimal.intText low)
    else if high < n then
      .error ("Input should be less than or equal to " ++ Decimal.intText high)
    else .ok n

/-! ## Truth values -/

/-- Words for true. -/
def trueWords : List String := ["1", "true", "t", "yes", "y", "on"]

/-- Words for false. -/
def falseWords : List String := ["0", "false", "f", "no", "n", "off"]

/-- A truth value, zero or one, or a word for one. -/
def flag : Check Bool
  | .bool b => .ok b
  | .int n => if fitsWord n then ofInteger n else .error unusable
  | .real x => match integerOfReal x with
    | .ok n => ofInteger n
    | .error _ => .error unusable
  | .text s =>
    let word := String.ofList (s.toList.map Char.toLower)
    if trueWords.contains word then .ok true
    else if falseWords.contains word then .ok false
    else .error unreadable
  | _ => .error unusable
where
  /-- The message for something that no truth value can be read from. -/
  unusable : String := "Input should be a valid boolean"
  /-- The message for something that is no word for a truth value. -/
  unreadable : String := "Input should be a valid boolean, unable to interpret input"
  /-- The truth value of zero or one. -/
  ofInteger (n : Int) : Except String Bool :=
    if n = 1 then .ok true else if n = 0 then .ok false else .error unreadable

/-! ## Fields -/

/-- What a check of a field returns: a value, or messages with the field's name. -/
abbrev Field (α : Type) := Except (List String) α

/-- Puts a field's name before its message. -/
def located (name : String) {α : Type} : Except String α → Field α
  | .ok a => .ok a
  | .error e => .error [name ++ ": " ++ e]

/-- A field that must be there. -/
def required {α : Type} (es : List (Scalar × Value)) (name : String) (check : Check α) : Field α :=
  match Entries.get? (.text name) es with
  | some v => located name (check v)
  | none => .error [name ++ ": Field required"]

/-- A field with a default. -/
def optional {α : Type} (es : List (Scalar × Value)) (name : String) (default : α)
    (check : Check α) : Field α :=
  match Entries.get? (.text name) es with
  | some v => located name (check v)
  | none => .ok default

/-- The messages of a field. -/
def messages {α : Type} : Field α → List String
  | .ok _ => []
  | .error ms => ms

/-- The message for a value that is no record at all. -/
def notARecord (model : String) : String :=
  "Input should be a valid dictionary or instance of " ++ model

end AdminConsole.Record
