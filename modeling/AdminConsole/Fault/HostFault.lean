import AdminConsole.Value.Display

/-!
# Fault/HostFault — names that no host can have

The name of a host is made of labels with points between them. A label of other characters than
ASCII letters is written in a code of such letters. Each way in which a name or a label breaks the
rules has a kind and a text.
-/

namespace AdminConsole

/-- What is wrong with the name of a host. -/
inductive HostFault where
  | emptyName
  | emptyLabel
  | longName
  | longLabel
  /-- A label is not in composed form. -/
  | notComposed
  /-- A label has hyphens where only a coded label has them. -/
  | hyphenPlace
  /-- A label begins or ends with a hyphen. -/
  | hyphenEnd
  /-- A label begins with a mark. -/
  | leadingMark
  /-- A coded label without a code. -/
  | noCode
  /-- A code that ends with a hyphen. -/
  | codeEnd
  /-- A code that stands for no text. -/
  | badCode
  /-- A character that stands in no label. -/
  | character (code place : Nat) (label : String)
  /-- A joiner between characters that it cannot stand between. -/
  | joiner (code place : Nat) (label : String)
  /-- A character that cannot stand among the others of a label. -/
  | context (code place : Nat) (label : String)
  /-- A character whose direction is not known. -/
  | noDirection (place : Nat) (label : String)
  /-- A label with letters from right to left begins with something else than a letter. -/
  | firstDirection (label : String)
  /-- A letter from left to right in a label that begins with one from right to left. -/
  | leftward (place : Nat)
  /-- A letter from right to left in a label that begins with one from left to right. -/
  | rightward (place : Nat)
  /-- Digits of two kinds. -/
  | mixedDigits
  /-- A label with letters from right to left ends with a character without direction. -/
  | lastDirection
  deriving DecidableEq, Repr, Inhabited

namespace HostFault

/-- The kind under which a fault is reported. -/
def kind : HostFault → String
  | character .. => "InvalidCodepoint"
  | context .. => "InvalidCodepointContext"
  | noDirection .. | firstDirection _ | leftward _ | rightward _ | mixedDigits | lastDirection =>
    "IDNABidiError"
  | _ => "IDNAError"

/-- The notation of a code point: at least four digits in base 16. -/
def codeText (code : Nat) : String :=
  let ds := (Nat.toDigits 16 code).map Char.toUpper
  "U+" ++ String.ofList (List.replicate (4 - ds.length) '0' ++ ds)

/-- The text of a fault. -/
def text : HostFault → String
  | emptyName => "Empty domain"
  | emptyLabel => "Empty Label"
  | longName => "Domain too long"
  | longLabel => "Label too long"
  | notComposed => "Label must be in Normalization Form C"
  | hyphenPlace => "Label has disallowed hyphens in 3rd and 4th position"
  | hyphenEnd => "Label must not start or end with a hyphen"
  | leadingMark => "Label begins with an illegal combining character"
  | noCode => "Malformed A-label, no Punycode eligible content found"
  | codeEnd => "A-label must not end with a hyphen"
  | badCode => "Invalid A-label"
  | character code place label =>
    "Codepoint " ++ codeText code ++ " at position " ++ Decimal.natText place ++ " of "
      ++ Text.quoted label ++ " not allowed"
  | joiner code place label =>
    "Unknown codepoint adjacent to joiner " ++ codeText code ++ " at position "
      ++ Decimal.natText place ++ " in " ++ Text.quoted label
  | context code place label =>
    "Codepoint " ++ codeText code ++ " not allowed at position " ++ Decimal.natText place ++ " in "
      ++ Text.quoted label
  | noDirection place label =>
    "Unknown directionality in label " ++ Text.quoted label ++ " at position "
      ++ Decimal.natText place
  | firstDirection label =>
    "First codepoint in label " ++ Text.quoted label ++ " must be directionality L, R or AL"
  | leftward place =>
    "Invalid direction for codepoint at position " ++ Decimal.natText place
      ++ " in a right-to-left label"
  | rightward place =>
    "Invalid direction for codepoint at position " ++ Decimal.natText place
      ++ " in a left-to-right label"
  | mixedDigits => "Can not mix numeral types in a right-to-left label"
  | lastDirection => "Label ends with illegal codepoint directionality"

end HostFault

end AdminConsole
