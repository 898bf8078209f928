import AdminConsole.Text.Blank
import AdminConsole.Value.Calendar
import AdminConsole.Value.Number

/-!
# Http/CookieDate — when cookies end

The dates of servers come in one strict form and in many loose ones: with or without a weekday, with
hyphens or spaces, with a month by name or by number, with a year of two digits, with or without a
clock and a zone. A loose date is read in every way its parts allow, longer parts first, and the
first way that uses it up counts.
-/

namespace AdminConsole.Http.CookieDate

/-! ## Moments -/

/-- The number of the first day that moments are counted from. -/
def firstDay : Nat := (⟨1970, 1, 1⟩ : Date).dayNumber

/-- The seconds from the first day on. A month may have up to 31 days, and a day the hour 24. -/
def seconds? (year month day hour minute second : Nat) : Option Int :=
  if 1970 ≤ year ∧ 1 ≤ month ∧ month ≤ 12 ∧ 1 ≤ day ∧ day ≤ 31 ∧ hour ≤ 24 ∧ minute ≤ 59
      ∧ second ≤ 61 then
    let days := (⟨year, month, day⟩ : Date).dayNumber - firstDay
    some (((days * 24 + hour) * 60 + minute) * 60 + second)
  else none

/-- The year in which dates are read. -/
def thisYear : Nat := 2026

/-- The moment at which dates are read: the first one of its year. -/
def now : Int := (seconds? thisYear 1 1 0 0 0).getD 0

/-- A year of few digits in the century that brings it nearest to this one. -/
def fullYear (year : Nat) : Nat :=
  if 1000 ≤ year then year
  else
    let century := thisYear - thisYear % 100
    let ahead : Int := (thisYear % 100 : Nat) - (year : Int)
    if 50 < ahead then year + century + 100
    else if ahead < -50 then year + century - 100
    else year + century

/-- The names of the months, in lower case. -/
def months : List String := [
  "jan", "feb", "mar", "apr", "may", "jun", "jul", "aug", "sep", "oct", "nov", "dec"]

/-- The number of a month with a name. -/
def namedMonth? (cs : List Char) : Option Nat :=
  (months.idxOf? (String.ofList (cs.map Char.toLower))).map (· + 1)

/-- The number that digits stand for. -/
def number (ds : List Char) : Nat := Decimal.ofDigits (ds.filterMap Decimal.digit?)

/-! ## The strict form -/

/-- The strict form: `?` is the first letter of a weekday, `!` of a month, `l` any small letter, and
`0` a digit. -/
def strictForm : List Char := "?ll, 00 !ll 0000 00:00:00 GMT".toList

/-- Whether a character fits a place of the strict form. -/
def fits (place c : Char) : Bool :=
  match place with
  | '?' => "SMTWF".toList.contains c
  | '!' => "JFMASOND".toList.contains c
  | 'l' => c.isLower
  | '0' => c.isDigit
  | _ => place == c

/-- Whether a text has the strict form. -/
def isStrict (cs : List Char) : Bool :=
  cs.length == strictForm.length && (List.zipWith fits strictForm cs).all id

/-- The digits at some places of a text. -/
def numberAt (place count : Nat) (cs : List Char) : Nat := number ((cs.drop place).take count)

/-- The moment of a text of the strict form with a month. -/
def strictSeconds? (month : Nat) (cs : List Char) : Option Int :=
  seconds? (numberAt 12 4 cs) month (numberAt 5 2 cs) (numberAt 17 2 cs) (numberAt 20 2 cs)
    (numberAt 23 2 cs)

/-! ## Loose forms -/

/-- The parts of a date that are read so far. -/
structure Parts where
  day : List Char := []
  month : List Char := []
  year : List Char := []
  hour : List Char := []
  minute : List Char := []
  second : List Char := []
  zone : Option (List Char) := none

/-- One way to read the start of a text: the parts, and the characters that are left. -/
structure Way where
  parts : Parts
  rest : List Char

/-- Space between the parts of a date. -/
def isSpace (c : Char) : Bool := c.isWhitespace || c == '\x0b' || c == '\x0c'

/-- A letter, a digit or an underscore. -/
def isWordChar (c : Char) : Bool := c.isAlphanum || c == '_'

/-- The ways to take at least `least` and at most `most` characters of a class, more first. -/
def takeSome (least most : Nat) (p : Char → Bool) (cs : List Char) :
    List (List Char × List Char) :=
  let available := min most (cs.takeWhile p).length
  (List.range' least (available + 1 - least)).reverse.map fun n => (cs.take n, cs.drop n)

/-- The text after a character, if it begins with it. -/
def after (c : Char) (cs : List Char) : List (List Char) :=
  match cs with
  | d :: rest => if c == d then [rest] else []
  | [] => []

/-- The texts after space. -/
def afterSpace (least : Nat) (cs : List Char) : List (List Char) :=
  (takeSome least cs.length isSpace cs).map Prod.snd

/-- Takes the day. -/
def takeDay (w : Way) : List Way :=
  (takeSome 1 2 Char.isDigit w.rest).map fun (day, rest) => ⟨{ w.parts with day }, rest⟩

/-- Takes what stands between day, month and year. -/
def takeGap (w : Way) : List Way :=
  (afterSpace 1 w.rest ++ after '-' w.rest ++ after '/' w.rest).map fun rest => { w with rest }

/-- Takes the month. -/
def takeMonth (w : Way) : List Way :=
  (takeSome 1 w.rest.length isWordChar w.rest).map fun (month, rest) =>
    ⟨{ w.parts with month }, rest⟩

/-- Takes the year. -/
def takeYear (w : Way) : List Way :=
  (takeSome 1 w.rest.length Char.isDigit w.rest).map fun (year, rest) =>
    ⟨{ w.parts with year }, rest⟩

/-- Takes the minute, and the second if there is one. -/
def takeMinute (w : Way) : List Way :=
  (after ':' w.rest).flatMap fun rest =>
    (takeSome 2 2 Char.isDigit rest).flatMap fun (minute, rest) =>
      let w : Way := ⟨{ w.parts with minute }, rest⟩
      let withSecond := (after ':' rest).flatMap fun rest =>
        (takeSome 2 2 Char.isDigit rest).map fun (second, rest) =>
          (⟨{ w.parts with second }, rest⟩ : Way)
      withSecond ++ [w]

/-- Takes the clock, if there is one. -/
def takeClock (w : Way) : List Way :=
  let withClock := (afterSpace 1 w.rest ++ after ':' w.rest).flatMap fun rest =>
    (takeSome 1 2 Char.isDigit rest).flatMap fun (hour, rest) =>
      takeMinute ⟨{ w.parts with hour }, rest⟩
  withClock ++ [w]

/-- Takes space. -/
def takeSpace (w : Way) : List Way := (afterSpace 0 w.rest).map fun rest => { w with rest }

/-- Whether a text begins with the word for one of the two halves of a day. -/
def beginsWithHalfDay (cs : List Char) : Bool :=
  match cs with
  | a :: m :: rest =>
    (a.toLower == 'a' || a.toLower == 'p') && m.toLower == 'm'
      && !(rest.head?.map isWordChar).getD false
  | _ => false

/-- The ways to take a zone: an offset in digits, or letters. -/
def zones (cs : List Char) : List (List Char × List Char) :=
  let signed := match cs with
    | c :: rest =>
      if c == '-' || c == '+' then
        (takeSome 2 4 Char.isDigit rest).map fun (ds, rest) => (c :: ds, rest)
      else []
    | [] => []
  signed ++ takeSome 2 4 Char.isDigit cs
    ++ if beginsWithHalfDay cs then [] else takeSome 1 cs.length Char.isAlpha cs

/-- Takes the zone, if there is one. -/
def takeZone (w : Way) : List Way :=
  let withZone := (zones w.rest).flatMap fun (zone, rest) =>
    takeSpace ⟨{ w.parts with zone := some zone }, rest⟩
  withZone ++ [w]

/-- Takes a zone in brackets, which means nothing, if there is one. -/
def takeNote (w : Way) : List Way :=
  let withNote := (after '(' w.rest).flatMap fun rest =>
    (takeSome 1 rest.length isWordChar rest).flatMap fun (_, rest) =>
      (after ')' rest).flatMap fun rest => takeSpace { w with rest }
  withNote ++ [w]

/-- The parts of a loose date, in their order. -/
def steps : List (Way → List Way) := [
  takeDay, takeGap, takeMonth, takeGap, takeYear, takeClock, takeSpace, takeZone, takeNote]

/-- The names of the weekdays, of which three letters count. -/
def weekdays : List (List Char) :=
  ["sun", "mon", "tue", "wed", "thu", "fri", "sat"].map String.toList

/-- A text without a weekday in front. -/
def withoutWeekday (cs : List Char) : List Char :=
  if weekdays.contains ((cs.take 3).map Char.toLower) then
    let rest := (cs.drop 3).dropWhile Char.isAlpha
    (if rest.head? == some ',' then rest.drop 1 else rest).dropWhile isSpace
  else cs

/-- The parts of a text that is a loose date. -/
def looseParts? (cs : List Char) : Option Parts :=
  let start : Way := ⟨{}, withoutWeekday (cs.dropWhile Text.isBlank)⟩
  let ways := steps.foldl (fun ways step => ways.flatMap step) [start]
  (ways.find? (·.rest.isEmpty)).map Way.parts

/-- The number of a month by name or by number. -/
def month? (cs : List Char) : Option Nat :=
  match namedMonth? cs with
  | some n => some n
  | none => match Value.integerOfText "" cs with
    | .ok n => if 1 ≤ n ∧ n ≤ 12 then some n.toNat else none
    | .error _ => none

/-- The offset of a zone in seconds. -/
def offset? (zone : List Char) : Option Int :=
  if ["GMT", "UTC", "UT", "Z"].contains (String.ofList (zone.map Char.toUpper)) then some 0
  else
    let (negative, ds) := Value.takeSign zone
    if ds.isEmpty || !ds.all Char.isDigit || 4 < ds.length then none
    else
      let (hours, minutes) := if ds.length ≤ 2 then (ds, []) else (ds.take (ds.length - 2),
        ds.drop (ds.length - 2))
      let offset : Int := 3600 * number hours + 60 * number minutes
      some (if negative then -offset else offset)

/-- The moment of a loose date. -/
def looseSeconds? (p : Parts) : Option Int := do
  if 9999 < number p.year then none
  let month ← month? p.month
  let t ← seconds? (fullYear (number p.year)) month (number p.day) (number p.hour)
    (number p.minute) (number p.second)
  let offset ← offset? (p.zone.getD ['Z'])
  return t - offset

/-! ## Reading -/

/-- Whether a text has the strict form with a month that there is not. -/
def isAbsurd (cs : List Char) : Bool :=
  isStrict cs && (namedMonth? ((cs.drop 8).take 3)).isNone

/-- **The moment that a text names**, if it names one. -/
def read? (cs : List Char) : Option Int :=
  if isStrict cs then (namedMonth? ((cs.drop 8).take 3)).bind fun month => strictSeconds? month cs
  else (looseParts? cs).bind looseSeconds?

end AdminConsole.Http.CookieDate
