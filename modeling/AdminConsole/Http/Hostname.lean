import AdminConsole.Fault.HostFault
import AdminConsole.Http.HostTable
import AdminConsole.Text.Composed
import AdminConsole.Text.Punycode

/-!
# Http/Hostname — international names of hosts

A name in any script is sent as labels of ASCII letters: a label with other characters is coded, and
`xn--` is put in front. Only letters, digits and a few signs may stand in a label, in composed form;
some characters need certain neighbours, and a label that is written from right to left is so as a
whole. A coded label is held to the same rules when it is read.
-/

namespace AdminConsole.Http.Hostname

/-- The code points of a label. -/
abbrev Label := List Nat

/-- A label as text. -/
def shown (label : Label) : String := String.ofList (label.map Char.ofNat)

/-! ## Direction -/

/-- The direction in which a character is written. -/
inductive Direction where
  | left
  | right
  | arabic
  | arabicDigit
  | digit
  /-- No direction of its own. -/
  | neutral
  /-- The direction of the character before: a mark without space of its own. -/
  | inherited
  | unknown
  deriving DecidableEq, Repr

/-- Whether a character is a mark that takes up no space. -/
def isNonspacing (n : Nat) : Bool := Text.inRuns markRuns n && !Text.inRuns spacingRuns n

/-- The direction of a character that may stand in a label. -/
def direction (n : Nat) : Direction :=
  if Text.inRuns undirectedRuns n then .unknown
  else if isNonspacing n then .inherited
  else if Text.inRuns rightRuns n then .right
  else if Text.inRuns arabicRuns n then .arabic
  else if Text.inRuns arabicDigitRuns n then .arabicDigit
  else if Text.inRuns digitRuns n then .digit
  else if Text.inRuns neutralRuns n then .neutral
  else .left

namespace Direction

/-- Whether a character of this direction makes its label one from right to left. -/
def isRightward (d : Direction) : Bool := d == .right || d == .arabic || d == .arabicDigit

/-- Whether a character of this direction is a digit. -/
def isNumeric (d : Direction) : Bool := d == .arabicDigit || d == .digit

end Direction

/-- The number of elements before the first one of a class. -/
def placeOf {α : Type} (p : α → Bool) (xs : List α) : Nat := (xs.takeWhile (!p ·)).length

/-- Checks the characters of a label from right to left, the first one at `place`; `digits` is the
kind of the digits before. -/
def checkRightward (digits : Option Direction) (place : Nat) :
    List Direction → Except HostFault Unit
  | [] => .ok ()
  | d :: rest =>
    if d = .left then .error (.leftward place)
    else if d.isNumeric then
      if digits.getD d = d then checkRightward (some d) (place + 1) rest else .error .mixedDigits
    else checkRightward digits (place + 1) rest

/-- Whether the last of the directions that are not inherited may end a label. -/
def endsRightward (ds : List Direction) : Bool :=
  match ds.reverse.find? (· != .inherited) with
  | some d => d.isRightward || d == .digit
  | none => false

/-- Checks that a label is written in one direction. -/
def checkDirections (label : Label) : Except HostFault Unit :=
  let ds := label.map direction
  if ds.contains .unknown then
    .error (.noDirection (placeOf (· == .unknown) ds + 1) (shown label))
  else if !ds.any Direction.isRightward then .ok ()
  else match ds with
    | .left :: _ => .error (.rightward (placeOf Direction.isRightward ds + 1))
    | .right :: _ | .arabic :: _ => do
      checkRightward none 1 ds
      if endsRightward ds then .ok () else .error .lastDirection
    | _ => .error (.firstDirection (shown label))

/-! ## Characters that need neighbours -/

/-- The class of the marks that take away a vowel. -/
def viramaClass : Nat := 9

/-- Whether the reversed text before a place ends with a mark that takes away a vowel. -/
def followsVirama (before : Label) : Bool :=
  match before with
  | n :: _ => Text.combiningClass n == viramaClass
  | [] => false

/-- Whether the nearest character that is not skipped joins: with what follows it, or with what is
before it. -/
def joins (side : List (Nat × Nat × Nat)) (ns : Label) : Bool :=
  match ns.dropWhile isNonspacing with
  | n :: _ => Text.inRuns side n || Text.inRuns dualJoiningRuns n
  | [] => false

/-- Whether the first character of a text is of a script. -/
def startsIn (script : List (Nat × Nat × Nat)) (ns : Label) : Bool :=
  match ns with
  | n :: _ => Text.inRuns script n
  | [] => false

/-- Whether a character is a digit of one of the two series of Arabic. -/
def isArabicDigit (n : Nat) : Bool := 0x660 ≤ n && n ≤ 0x669

/-- Whether a character is a digit of the other one. -/
def isEasternDigit (n : Nat) : Bool := 0x6f0 ≤ n && n ≤ 0x6f9

/-- Checks a character between the reversed text before it and the text after it. -/
def checkChar (before : Label) (n : Nat) (after : Label) : Except HostFault Unit :=
  let label := before.reverse ++ n :: after
  let place := before.length + 1
  let needs (ok : Bool) : Except HostFault Unit :=
    if ok then .ok () else .error (.context n place (shown label))
  if Text.inRuns validRuns n then .ok ()
  else if n = 0x200c ∨ n = 0x200d then
    if followsVirama before
        || (n == 0x200c && joins leftJoiningRuns before && joins rightJoiningRuns after) then
      .ok ()
    else .error (.joiner n place (shown label))
  else if n = 0xb7 then needs (before.head? == some 0x6c && after.head? == some 0x6c)
  else if n = 0x375 then needs (startsIn greekRuns after)
  else if n = 0x5f3 ∨ n = 0x5f4 then needs (startsIn hebrewRuns before)
  else if n = 0x30fb then
    needs (label.any fun m => m != 0x30fb && Text.inRuns japaneseRuns m)
  else if isArabicDigit n then needs (!label.any isEasternDigit)
  else if isEasternDigit n then needs (!label.any isArabicDigit)
  else .error (.character n place (shown label))

/-- Checks the characters that follow the reversed `before`. -/
def checkChars (before : Label) : Label → Except HostFault Unit
  | [] => .ok ()
  | n :: rest => do
    checkChar before n rest
    checkChars (n :: before) rest

/-! ## Labels -/

/-- The greatest length of a name that ends with a point; others have one less. -/
def maxName : Nat := 254

/-- The greatest length of a label as it is sent. -/
def maxLabel : Nat := 63

/-- The hyphen. -/
def hyphen : Nat := 0x2d

/-- Checks a label in its own script. -/
def checkLabel (label : Label) : Except HostFault Unit := do
  if label.isEmpty then throw .emptyLabel
  if maxName < label.length then throw .longLabel
  if !Text.isComposed label then throw .notComposed
  if (label.drop 2).take 2 == [hyphen, hyphen] then throw .hyphenPlace
  if label.head? == some hyphen || label.getLast? == some hyphen then throw .hyphenEnd
  if startsIn markRuns label then throw .leadingMark
  checkChars [] label
  checkDirections label

/-- What stands in front of a code. -/
def codeMark : List Char := ['x', 'n', '-', '-']

/-- Checks a label of ASCII characters, which may be coded. -/
def checkAscii (label : Label) : Except HostFault Unit :=
  let cs := label.map fun n => (Char.ofNat n).toLower
  if codeMark.isPrefixOf cs then
    let code := cs.drop codeMark.length
    if code.isEmpty then .error .noCode
    else if code.getLast? == some '-' then .error .codeEnd
    else match Text.Punycode.decode? code with
      | none => .error .badCode
      | some decoded => checkLabel decoded
  else checkLabel (cs.map Char.toNat)

/-- A label as it is sent. -/
def sendLabel (label : Label) : Except HostFault (List Char) := do
  if label.all (· < 128) then
    checkAscii label
    if maxLabel < label.length then throw .longLabel
    return label.map Char.ofNat
  else
    checkLabel label
    let sent := codeMark ++ Text.Punycode.encode label
    if maxLabel < sent.length then throw .longLabel
    return sent

/-! ## Names -/

/-- Whether a character ends a label. -/
def isPoint (c : Char) : Bool :=
  c == '.' || c == '\u3002' || c == '\uff0e' || c == '\uff61'

/-- The labels of a name, and whether a point follows the last one. -/
def labels (name : List Char) : Except HostFault (List Label × Bool) :=
  if maxName < name.length then .error .longName
  else if name.isEmpty then .error .emptyName
  else
    let parts := (name.splitOnP isPoint).map (·.map Char.toNat)
    .ok (if parts.getLast? == some [] then (parts.dropLast, true) else (parts, false))

/-- **A name as it is sent.** -/
def send (name : List Char) : Except HostFault String := do
  let (parts, hasPoint) ← labels name
  let sent ← parts.mapM sendLabel
  let whole := joinTexts "." ((sent ++ if hasPoint then [[]] else []).map String.ofList)
  if (if hasPoint then maxName else maxName - 1) < whole.length then throw .longName
  return whole

/-- Checks a name that was sent. -/
def checkSent (name : List Char) : Except HostFault Unit := do
  let (parts, _) ← labels name
  parts.forM checkAscii

end AdminConsole.Http.Hostname
