import AdminConsole.Text.Case
import AdminConsole.Text.ComposedTable

/-!
# Text/Composed — texts in composed form

The same letter with marks can be written in several ways. In the composed form each base stands
with as many of its marks in one character as there is a character for, and the other marks follow
in order. A text is in this form if taking it apart and putting it together again gives it back.
-/

namespace AdminConsole.Text

/-- The class that orders a mark among others, zero for what is no such mark. -/
def combiningClass (n : Nat) : Nat :=
  match combiningRuns.find? fun (a, b, step, _) => a ≤ n && n ≤ b && (n - a) % step == 0 with
  | some (_, _, _, k) => k
  | none => 0

/-- The base and the mark in a character. -/
def parts? (n : Nat) : Option (Nat × Nat) :=
  (compositions.find? fun (whole, _) => whole == n).map Prod.snd

/-- The character that is a base with a mark. -/
def whole? (base mark : Nat) : Option Nat :=
  (compositions.find? fun (_, b, m) => b == base && m == mark).map Prod.fst

/-- How often a base may be taken out of a character. -/
def maxMarks : Nat := 4

/-- A character taken apart, at most `marks` times. -/
def takenApart : (marks : Nat) → Nat → List Nat
  | 0, n => [n]
  | marks + 1, n =>
    match parts? n with
    | some (base, mark) => takenApart marks base ++ [mark]
    | none => [n]

/-- Puts a character before others, behind the marks of lower classes at their front. -/
def place (c : Nat) : List Nat → List Nat
  | [] => [c]
  | d :: rest =>
    if combiningClass d != 0 && combiningClass d < combiningClass c then d :: place c rest
    else c :: d :: rest

/-- A text with the marks after each base in order. -/
def inOrder : List Nat → List Nat
  | [] => []
  | c :: rest => place c (inOrder rest)

/-- Puts a text together behind a base; `kept` are the marks, last one first, that stay alone. -/
def putTogether (base : Nat) (kept : List Nat) : List Nat → List Nat
  | [] => base :: kept.reverse
  | c :: rest =>
    let isBlocked : Bool := match kept with
      | d :: _ => combiningClass c ≤ combiningClass d
      | [] => false
    match if isBlocked then none else whole? base c with
    | some w => putTogether w kept rest
    | none =>
      if combiningClass c = 0 then base :: kept.reverse ++ putTogether c [] rest
      else putTogether base (c :: kept) rest

/-- The composed form of a text without characters that are never in one. -/
def composed (cs : List Nat) : List Nat :=
  match inOrder (cs.flatMap (takenApart maxMarks)) with
  | [] => []
  | c :: rest => putTogether c [] rest

/-- **Whether a text is in composed form.** Below `U+0300` there are no marks. -/
def isComposed (cs : List Nat) : Bool :=
  cs.all (· < 0x300) || (!cs.any (inRanges neverComposedRanges) && composed cs == cs)

end AdminConsole.Text
