import AdminConsole.Number.Decimal

/-!
# Value/Calendar — dates and moments

Calendar dates and moments of a day, with or without an offset from universal time, as a document
may hold them, and their standard texts.
-/

namespace AdminConsole

/-- A calendar date. -/
structure Date where
  year : Nat
  month : Nat
  day : Nat
  deriving DecidableEq, Repr, Inhabited

namespace Date

/-- Whether a year has a 29 February. -/
def isLeap (year : Nat) : Bool := year % 4 == 0 && (year % 100 != 0 || year % 400 == 0)

/-- The number of days of a month. -/
def daysIn (year month : Nat) : Nat :=
  if month = 2 then (if isLeap year then 29 else 28)
  else if month = 4 ∨ month = 6 ∨ month = 9 ∨ month = 11 then 30 else 31

/-- The date with these parts, or why there is none. -/
def of (year month day : Nat) : Except String Date :=
  if year < 1 ∨ 9999 < year then .error ("year " ++ Decimal.natText year ++ " is out of range")
  else if month < 1 ∨ 12 < month then .error "month must be in 1..12"
  else if day < 1 ∨ daysIn year month < day then .error "day is out of range for month"
  else .ok ⟨year, month, day⟩

/-- The number of days of the months before one. -/
def daysBefore (year : Nat) (month : Nat) : Nat :=
  (List.range (month - 1)).foldl (fun days m => days + daysIn year (m + 1)) 0

/-- The number of a day, counted from the first day of the year one. -/
def dayNumber (d : Date) : Nat :=
  let y := d.year - 1
  y * 365 + y / 4 - y / 100 + y / 400 + daysBefore d.year d.month + d.day

/-- A number in at least `width` digits. -/
def padded (width n : Nat) : String :=
  let ds := Decimal.digits n
  String.ofList (List.replicate (width - ds.length) '0' ++ ds)

/-- Year, month and day with hyphens. -/
def iso (d : Date) : String :=
  padded 4 d.year ++ "-" ++ padded 2 d.month ++ "-" ++ padded 2 d.day

/-- The date as a term with its parts. -/
def term (d : Date) : String :=
  "datetime.date(" ++ String.intercalate ", " ([d.year, d.month, d.day].map Decimal.natText) ++ ")"

end Date

/-- A moment: a date, a time of day, and the offset from universal time in minutes, if known. -/
structure Moment where
  date : Date
  hour : Nat
  minute : Nat
  second : Nat
  micro : Nat
  offset : Option Int
  deriving DecidableEq, Repr, Inhabited

namespace Moment

/-- The moment with these parts, or why there is none. -/
def of (date : Date) (hour minute second micro : Nat) (offset : Option Int) :
    Except String Moment :=
  if 24 ≤ hour then .error "hour must be in 0..23"
  else if 60 ≤ minute then .error "minute must be in 0..59"
  else if 60 ≤ second then .error "second must be in 0..59"
  else .ok ⟨date, hour, minute, second, micro, offset⟩

/-- The millionths of a second up to the moment, by its own clock. -/
def clock (t : Moment) : Int :=
  (((t.date.dayNumber * 24 + t.hour) * 60 + t.minute) * 60 + t.second) * 1000000 + t.micro

/-- Whether two moments are one: with offsets at the same time everywhere, without any by their own
clocks. -/
def same (s t : Moment) : Bool :=
  match s.offset, t.offset with
  | none, none => s == t
  | some a, some b => s.clock - a * 60000000 == t.clock - b * 60000000
  | _, _ => false

/-- The text of an offset. -/
def offsetText : Option Int → String
  | none => ""
  | some m =>
    (if m < 0 then "-" else "+") ++ Date.padded 2 (m.natAbs / 60) ++ ":"
      ++ Date.padded 2 (m.natAbs % 60)

/-- The time of day. -/
def timeText (t : Moment) : String :=
  Date.padded 2 t.hour ++ ":" ++ Date.padded 2 t.minute ++ ":" ++ Date.padded 2 t.second
    ++ (if t.micro = 0 then "" else "." ++ Date.padded 6 t.micro)

/-- Date and time joined by `separator`. -/
def joined (separator : String) (t : Moment) : String :=
  t.date.iso ++ separator ++ t.timeText ++ offsetText t.offset

/-- Date and time joined by `T`. -/
def iso (t : Moment) : String := t.joined "T"

/-- A span of time as a term: whole days, which alone may be negative, and the seconds left over. -/
def spanTerm (minutes : Int) : String :=
  let days := Int.fdiv minutes 1440
  let seconds := Int.fmod minutes 1440 * 60
  let parts := (if days = 0 then [] else ["days=" ++ Decimal.intText days])
    ++ (if seconds = 0 then [] else ["seconds=" ++ Decimal.intText seconds])
  "datetime.timedelta(" ++ (if parts.isEmpty then "0" else String.intercalate ", " parts) ++ ")"

/-- An offset from universal time as a term. -/
def zoneTerm (minutes : Int) : String :=
  if minutes = 0 then "datetime.timezone.utc"
  else "datetime.timezone(" ++ spanTerm minutes ++ ")"

/-- The parts of the time of day, without a zero at the end for the millionths and the seconds. -/
def timeParts (t : Moment) : List Nat :=
  [t.hour, t.minute]
    ++ (if t.micro = 0 then (if t.second = 0 then [] else [t.second]) else [t.second, t.micro])

/-- The moment as a term with its parts. -/
def term (t : Moment) : String :=
  let numbers := [t.date.year, t.date.month, t.date.day] ++ t.timeParts
  let zone := match t.offset with
    | none => []
    | some m => ["tzinfo=" ++ zoneTerm m]
  "datetime.datetime(" ++ String.intercalate ", " (numbers.map Decimal.natText ++ zone) ++ ")"

end Moment

end AdminConsole
