/-!
# Text/Utf8 — text in bytes

Characters are coded in one to four bytes. Bytes that begin no character are taken together with
those that could have continued it; strict reading refuses them, lenient reading puts one
replacement character for each such group.
-/

namespace AdminConsole.Text

/-- Whether a byte continues a character. -/
def isContinuation (b : UInt8) : Bool := 0x80 ≤ b && b ≤ 0xbf

/-- The bytes that may follow a first byte, and how many bytes follow in all. -/
structure Utf8Lead where
  low : UInt8
  high : UInt8
  following : Nat

/-- What a first byte of a longer character asks of the bytes after it. -/
def utf8Lead? (b : UInt8) : Option Utf8Lead :=
  if 0xc2 ≤ b && b ≤ 0xdf then some ⟨0x80, 0xbf, 1⟩
  else if b == 0xe0 then some ⟨0xa0, 0xbf, 2⟩
  else if b == 0xed then some ⟨0x80, 0x9f, 2⟩
  else if 0xe1 ≤ b && b ≤ 0xef then some ⟨0x80, 0xbf, 2⟩
  else if b == 0xf0 then some ⟨0x90, 0xbf, 3⟩
  else if 0xf1 ≤ b && b ≤ 0xf3 then some ⟨0x80, 0xbf, 3⟩
  else if b == 0xf4 then some ⟨0x80, 0x8f, 3⟩
  else none

/-- The bytes after a first byte that belong to its character, at most `lead.following`. -/
def utf8Tail (lead : Utf8Lead) : List UInt8 → List UInt8
  | [] => []
  | b :: rest =>
    if lead.low ≤ b && b ≤ lead.high then
      b :: (rest.take (lead.following - 1)).takeWhile isContinuation
    else []

/-- The code of a character from its first byte and those after it. -/
def utf8Code (b : UInt8) (tail : List UInt8) : Nat :=
  let start := b.toNat % Nat.pow 2 (6 - tail.length)
  tail.foldl (fun n b => n * 64 + b.toNat % 64) start

/-- Takes one character, or one group of bytes that is none, off the front: what it is, and how
many bytes after the first it has. -/
def utf8First (b : UInt8) (rest : List UInt8) : Option Char × Nat :=
  if b < 0x80 then (some (Char.ofNat b.toNat), 0)
  else match utf8Lead? b with
    | none => (none, 0)
    | some lead =>
      let tail := utf8Tail lead rest
      if tail.length = lead.following then (some (Char.ofNat (utf8Code b tail)), tail.length)
      else (none, tail.length)

/-- The characters in some bytes, nothing standing for a group of bytes that is no character. -/
def utf8Chars : List UInt8 → List (Option Char)
  | [] => []
  | b :: rest =>
    let first := utf8First b rest
    first.1 :: utf8Chars (rest.drop first.2)
termination_by bs => bs.length
decreasing_by simp only [List.length_drop, List.length_cons]; omega

/-- **The text in some bytes**, if they are well formed. -/
def utf8Text? (bs : List UInt8) : Option (List Char) := (utf8Chars bs).mapM id

/-- The text in some bytes, with replacement characters. -/
def utf8Lenient (bs : List UInt8) : List Char := (utf8Chars bs).map fun c => c.getD '\ufffd'

end AdminConsole.Text
