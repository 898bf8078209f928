import AdminConsole.Text.CaseTable

/-!
# Text/Case — lower, upper and title case

Case mappings of whole texts. A capital sigma becomes the final form `ς` after a letter and before
the end of a word; a capital dotted `İ` becomes `i` with a dot above.
-/

namespace AdminConsole.Text

/-! ## Look-ups -/

/-- Whether a code point lies in one of the ranges. -/
def inRanges (ranges : List (Nat × Nat)) (n : Nat) : Bool :=
  ranges.any fun (a, b) => a ≤ n && n ≤ b

/-- Whether a code point is one of `first, first + step, …, last` for one of the runs. -/
def inRuns (runs : List (Nat × Nat × Nat)) (n : Nat) : Bool :=
  runs.any fun (a, b, step) => a ≤ n && n ≤ b && (n - a) % step == 0

/-- The image of a code point under runs of simple mappings. -/
def mapRuns (runs : List (Nat × Nat × Nat × Int)) (n : Nat) : Nat :=
  match runs.find? fun (a, b, step, _) => a ≤ n && n ≤ b && (n - a) % step == 0 with
  | some (_, _, _, shift) => ((n : Int) + shift).toNat
  | none => n

/-- A character that has case, and is not skipped as a mark. -/
def isCased (c : Char) : Bool := inRanges casedRanges c.toNat

/-- A character that is skipped when the case of a neighbour is looked up. -/
def isCaseIgnorable (c : Char) : Bool := inRanges ignorableRanges c.toNat

/-- The single-character lower case. -/
def lowerChar (c : Char) : Char :=
  if c.toNat < 128 then c.toLower else Char.ofNat (mapRuns lowerRuns c.toNat)

/-- The upper case of one character. -/
def upperChars (c : Char) : List Char :=
  if c.toNat < 128 then [c.toUpper]
  else match upperSpecials.lookup c.toNat with
    | some cs => cs.map Char.ofNat
    | none => [Char.ofNat (mapRuns upperRuns c.toNat)]

/-- The title case of one character. -/
def titleChars (c : Char) : List Char :=
  match titleSpecials.lookup c.toNat with
  | some cs => cs.map Char.ofNat
  | none => upperChars c

/-! ## Texts -/

/-- Whether the nearest character that is not skipped has case. -/
def nextIsCased (cs : List Char) : Bool :=
  match cs.dropWhile isCaseIgnorable with
  | c :: _ => isCased c
  | [] => false

/-- The lower case of one character between the reversed text before it and the text after it. -/
def lowerBetween (before : List Char) (c : Char) (after : List Char) : List Char :=
  if c = 'Σ' then [if nextIsCased before && !nextIsCased after then 'ς' else 'σ']
  else if c = 'İ' then ['i', '\u0307']
  else [lowerChar c]

/-- The lower case of a text that follows the reversed `before`. -/
def lowerAfter (before : List Char) : List Char → List Char
  | [] => []
  | c :: rest => lowerBetween before c rest ++ lowerAfter (c :: before) rest

/-- The lower case of a text. -/
def lower (s : String) : String := String.ofList (lowerAfter [] s.toList)

/-- The upper case of a text. -/
def upper (s : String) : String := String.ofList (s.toList.flatMap upperChars)

/-- A text with its first character in title case and the others in lower case. -/
def capitalize (s : String) : String :=
  match s.toList with
  | [] => ""
  | c :: rest => String.ofList (titleChars c ++ lowerAfter [c] rest)

/-- A text with only its first character put into upper case. -/
def upperFirst (s : String) : String :=
  match s.toList with
  | [] => ""
  | c :: rest => String.ofList (upperChars c ++ rest)

end AdminConsole.Text
