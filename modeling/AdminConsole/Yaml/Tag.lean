import AdminConsole.Yaml.Cursor

/-!
# Yaml/Tag — what a plain scalar stands for

A scalar without quotes and tag stands for a truth value, a number, a date or nothing if it is
written like one, and for text otherwise.
-/

namespace AdminConsole.Yaml

namespace Tag

/-! ## Names -/

/-- What the names of the standard tags begin with. -/
def standard : String := "tag:yaml.org,2002:"

def null : String := standard ++ "null"
def bool : String := standard ++ "bool"
def int : String := standard ++ "int"
def float : String := standard ++ "float"
def timestamp : String := standard ++ "timestamp"
def binary : String := standard ++ "binary"
def str : String := standard ++ "str"
def seq : String := standard ++ "seq"
def map : String := standard ++ "map"
def set : String := standard ++ "set"
def omap : String := standard ++ "omap"
def pairs : String := standard ++ "pairs"

/-- The tag of the key under which mappings are merged. -/
def merge : String := standard ++ "merge"

/-- The tag of the key for a mapping's own scalar. -/
def value : String := standard ++ "value"

/-! ## Shapes -/

/-- The characters after an optional sign. -/
def unsigned : List Char → List Char
  | '-' :: rest => rest
  | '+' :: rest => rest
  | cs => cs

/-- A digit or an underscore. -/
def isDigitOrGap (c : Char) : Bool := c.isDigit || c == '_'

/-- A digit, and then digits and underscores. -/
def isCount : List Char → Bool
  | c :: rest => c.isDigit && rest.all isDigitOrGap
  | [] => false

/-- One or two digits, the first of two below six. -/
def isSixtieth : List Char → Bool
  | [b] => b.isDigit
  | [a, b] => '0' ≤ a && a ≤ '5' && b.isDigit
  | _ => false

/-- The parts of a text between the separators. -/
def splitAt (separator : Char) : List Char → List (List Char)
  | [] => [[]]
  | c :: rest =>
    if c == separator then [] :: splitAt separator rest
    else match splitAt separator rest with
      | part :: parts => (c :: part) :: parts
      | [] => [[c]]

/-- A count, and then at least one sixtieth, with colons between them. -/
def isSexagesimal (cs : List Char) : Bool :=
  match splitAt ':' cs with
  | first :: second :: rest => isCount first && (second :: rest).all isSixtieth
  | _ => false

/-- Nothing, or an exponent with its sign. -/
def isExponent : List Char → Bool
  | [] => true
  | e :: sign :: ds =>
    (e == 'e' || e == 'E') && (sign == '-' || sign == '+') && !ds.isEmpty && ds.all Char.isDigit
  | _ => false

/-- Digits and underscores, and then an exponent or nothing. -/
def isFraction (cs : List Char) : Bool := isExponent (cs.dropWhile isDigitOrGap)

/-- A number with a point. -/
def isFloat (cs : List Char) : Bool :=
  let body := unsigned cs
  let (whole, rest) := body.span (· != '.')
  match rest with
  | '.' :: fraction =>
    (isCount whole && isFraction fraction)
      || (whole.isEmpty && cs == body && (fraction.head?.map Char.isDigit).getD false
        && isFraction fraction)
      || (isSexagesimal whole && fraction.all isDigitOrGap)
      || (whole.isEmpty && ["inf", "Inf", "INF"].contains (String.ofList fraction))
      || (whole.isEmpty && cs == body && ["nan", "NaN", "NAN"].contains (String.ofList fraction))
  | _ => false

/-- An integer: binary, octal, decimal, hexadecimal or sexagesimal. -/
def isInt (cs : List Char) : Bool :=
  match unsigned cs with
  | ['0'] => true
  | '0' :: 'b' :: ds => !ds.isEmpty && ds.all fun c => c == '0' || c == '1' || c == '_'
  | '0' :: 'x' :: ds => !ds.isEmpty && ds.all fun c => isHexDigit c || c == '_'
  | '0' :: ds => ds.all fun c => ('0' ≤ c && c ≤ '7') || c == '_'
  | body => isCount body || isSexagesimal body

/-- Words for truth values. -/
def boolWords : List String := [
  "yes", "Yes", "YES", "no", "No", "NO", "true", "True", "TRUE", "false", "False", "FALSE",
  "on", "On", "ON", "off", "Off", "OFF"]

/-- Words for nothing. -/
def nullWords : List String := ["", "~", "null", "Null", "NULL"]

/-! ## Timestamps -/

/-- The parts of a timestamp as they are written. -/
structure TimestampText where
  year : List Char
  month : List Char
  day : List Char
  /-- Hour, minute, second and fraction, if there is a time. -/
  time : Option (List Char × List Char × List Char × List Char) := none
  /-- Whether the time is universal time. -/
  universal : Bool := false
  /-- The offset from universal time: whether it is negative, hours, and minutes. -/
  offset : Option (Bool × List Char × List Char) := none
  deriving DecidableEq, Repr

/-- Takes between `least` and `most` digits off the front. -/
def takeDigits (least most : Nat) (cs : List Char) : Option (List Char × List Char) :=
  let ds := (cs.take most).takeWhile Char.isDigit
  if least ≤ ds.length then some (ds, cs.drop ds.length) else none

/-- Takes a character off the front. -/
def takeChar (c : Char) : List Char → Option (List Char)
  | d :: rest => if d == c then some rest else none
  | [] => none

/-- Whether a character is a blank inside a timestamp. -/
def isGap (c : Char) : Bool := c == ' ' || c == '\t'

/-- Takes what stands between date and time off the front: a letter, or blanks. -/
def takeTimeMark (cs : List Char) : Option (List Char) :=
  match cs with
  | 'T' :: rest => some rest
  | 't' :: rest => some rest
  | c :: rest => if isGap c then some (rest.dropWhile isGap) else none
  | [] => none

/-- Reads the offset at the end of a timestamp. -/
def readOffset (t : TimestampText) (cs : List Char) : Option TimestampText :=
  match cs.dropWhile isGap with
  | [] => if cs.isEmpty then some t else none
  | ['Z'] => some { t with universal := true }
  | sign :: rest =>
    if sign == '-' || sign == '+' then do
      let (hours, rest) ← takeDigits 1 2 rest
      match rest with
      | [] => some { t with offset := some (sign == '-', hours, []) }
      | ':' :: rest =>
        let (minutes, rest) ← takeDigits 2 2 rest
        if rest.isEmpty then some { t with offset := some (sign == '-', hours, minutes) } else none
      | _ => none
    else none

/-- Reads the time of a timestamp. -/
def readTime (t : TimestampText) (cs : List Char) : Option TimestampText := do
  let cs ← takeTimeMark cs
  let (hour, cs) ← takeDigits 1 2 cs
  let cs ← takeChar ':' cs
  let (minute, cs) ← takeDigits 2 2 cs
  let cs ← takeChar ':' cs
  let (second, cs) ← takeDigits 2 2 cs
  let (fraction, cs) := match cs with
    | '.' :: rest => (rest.takeWhile Char.isDigit, rest.dropWhile Char.isDigit)
    | cs => ([], cs)
  readOffset { t with time := some (hour, minute, second, fraction) } cs

/-- A text without a line feed at its end. -/
def withoutBreak (cs : List Char) : List Char :=
  match cs.reverse with
  | '\n' :: rest => rest.reverse
  | _ => cs

/-- **Reads a timestamp**: a date, or a date and a time. A line feed at the end does not count. -/
def readTimestamp (text : List Char) : Option TimestampText := do
  let cs := withoutBreak text
  let (year, cs) ← takeDigits 4 4 cs
  let cs ← takeChar '-' cs
  let (month, cs) ← takeDigits 1 2 cs
  let cs ← takeChar '-' cs
  let (day, cs) ← takeDigits 1 2 cs
  if cs.isEmpty then some { year, month, day } else readTime { year, month, day } cs

/-- Whether a plain scalar is a timestamp: a date alone has two digits for month and day. -/
def isTimestamp (cs : List Char) : Bool :=
  match readTimestamp cs with
  | some t => t.time.isSome || (t.month.length == 2 && t.day.length == 2)
  | none => false

/-! ## Choice of a tag -/

/-- **The tag of a plain scalar.** A line feed at its end does not count, unless it is all. -/
def ofPlain (s : String) : String :=
  let cs := withoutBreak s.toList
  let word := String.ofList cs
  if s == "\n" then str
  else if boolWords.contains word then bool
  else if isFloat cs then float
  else if isInt cs then int
  else if word == "<<" then merge
  else if nullWords.contains word then null
  else if isTimestamp cs then timestamp
  else if word == "=" then value
  else str

end Tag

end AdminConsole.Yaml
