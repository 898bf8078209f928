/-!
# Text/Halves — characters in two halves

A character above `U+FFFF` can be written as two codes of sixteen bits, taken from two ranges that
no character has. One half alone stands for nothing and is replaced.
-/

namespace AdminConsole.Text

/-- Whether a code is the first half of a pair. -/
def isHighHalf (n : Nat) : Bool := 0xd800 ≤ n && n ≤ 0xdbff

/-- Whether a code is the second half of a pair. -/
def isLowHalf (n : Nat) : Bool := 0xdc00 ≤ n && n ≤ 0xdfff

/-- What stands for something that is no character. -/
def replacement : Char := '\ufffd'

/-- The character of a code; half a pair on its own is replaced. -/
def charOfCode (n : Nat) : Char :=
  if isHighHalf n || isLowHalf n then replacement else Char.ofNat n

/-- The character of two halves. -/
def charOfHalves (high low : Nat) : Char :=
  Char.ofNat (0x10000 + (high - 0xd800) * 1024 + (low - 0xdc00))

end AdminConsole.Text
