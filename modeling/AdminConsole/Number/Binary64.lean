/-!
# Number/Binary64 — IEEE doubles as exact integers

A double is kept as its bit pattern, so that two doubles are equal as values of the type exactly
when they are the same number or the same special value. Every finite double is a whole number of
*units* of `2 ^ (-1074)`; comparison, truncation and rounding are stated on that integer.
-/

namespace AdminConsole

/-- A double, by its bit pattern: one sign bit, eleven exponent bits, fifty-two fraction bits. -/
structure Binary64 where
  bits : UInt64
  deriving DecidableEq, Repr, Inhabited

namespace Binary64

/-! ## Parts of the bit pattern -/

/-- Whether the sign bit is set. -/
def isNegative (x : Binary64) : Bool := x.bits >>> 63 == 1

/-- The eleven exponent bits. -/
def exponentField (x : Binary64) : Nat := ((x.bits >>> 52) &&& 0x7ff).toNat

/-- The fifty-two fraction bits. -/
def fraction (x : Binary64) : Nat := (x.bits &&& 0xfffffffffffff).toNat

/-- Whether `x` is not a number. -/
def isNaN (x : Binary64) : Bool := x.exponentField == 2047 && x.fraction != 0

/-- Whether `x` is one of the two infinities. -/
def isInfinite (x : Binary64) : Bool := x.exponentField == 2047 && x.fraction == 0

/-- Whether `x` is a number of finite size. -/
def isFinite (x : Binary64) : Bool := x.exponentField != 2047

/-- The weight of the bit that normal doubles leave out of their pattern. -/
def hidden : Nat := 4503599627370496

/-- The significand of a finite double, with the hidden bit of a normal one. -/
def significand (x : Binary64) : Nat :=
  if x.exponentField = 0 then x.fraction else x.fraction + hidden

/-- The power of two that scales the significand, less the least one. -/
def scale (x : Binary64) : Nat := x.exponentField - 1

/-- The value of a finite double in units of `2 ^ (-1074)`. -/
def units (x : Binary64) : Int :=
  let magnitude : Int := (x.significand * Nat.pow 2 x.scale : Nat)
  if x.isNegative then -magnitude else magnitude

/-- The number of units in one. -/
def unitsPerOne : Nat := Nat.pow 2 1074

/-! ## Special values -/

def zero : Binary64 := ⟨0⟩

/-- A pattern that is not a number. The mark, which no result shows, tells one datum from another:
nothing else does, for none of them equals any number. -/
def nanMarked (mark : Nat) : Binary64 := ⟨0x7ff8000000000000 + (mark.toUInt64 &&& 0x7ffffffffffff)⟩

/-- The pattern used for a result that is not a number. -/
def nan : Binary64 := nanMarked 0

/-- Infinity with the given sign. -/
def infinity (negative : Bool) : Binary64 :=
  ⟨if negative then 0xfff0000000000000 else 0x7ff0000000000000⟩

/-! ## Rounding -/

/-- `n / d` rounded to the nearest integer, a half to the even neighbour. -/
def roundDiv (n d : Nat) : Nat :=
  let q := n / d
  let r := n % d
  if 2 * r < d then q else if d < 2 * r then q + 1 else if q % 2 = 0 then q else q + 1

/-- The exponent `t` with `2 ^ t ≤ n / d < 2 ^ (t + 1)`, for positive `n` and `d`. -/
def binaryExponent (n d : Nat) : Int :=
  let t : Int := (n.log2 : Int) - d.log2
  if n * Nat.pow 2 (-t).toNat < d * Nat.pow 2 t.toNat then t - 1 else t

/-- The double nearest to `n / d`, a tie going to the even significand; beyond the largest finite
double the result is infinite. -/
def ofRatio (negative : Bool) (n d : Nat) : Binary64 :=
  let sign : Nat := if negative then Nat.pow 2 63 else 0
  if n = 0 then ⟨sign.toUInt64⟩
  else
    let e := max (binaryExponent n d - 52) (-1074)
    let q := roundDiv (n * Nat.pow 2 (-e).toNat) (d * Nat.pow 2 e.toNat)
    let pattern := if q < hidden then q else (e + 1075).toNat * hidden + (q - hidden)
    if 2047 * hidden ≤ pattern then infinity negative else ⟨(sign + pattern).toUInt64⟩

/-- The double nearest to an integer. -/
def ofInt (n : Int) : Binary64 := ofRatio (n < 0) n.natAbs 1

/-! ## Order and conversion -/

/-- Numeric equality: a value that is not a number differs from everything, and the zeros agree. -/
def same (x y : Binary64) : Bool :=
  if x.isNaN || y.isNaN then false
  else if x.isFinite && y.isFinite then x.units == y.units else x.bits == y.bits

/-- Numeric equality with an integer. -/
def sameInt (x : Binary64) (n : Int) : Bool :=
  x.isFinite && x.units == n * (unitsPerOne : Int)

/-- Whether the value is an integer. -/
def isIntegral (x : Binary64) : Bool := x.isFinite && x.units % (unitsPerOne : Int) == 0

/-- The integer part, toward zero, of a finite double. -/
def truncate (x : Binary64) : Int := x.units.tdiv unitsPerOne

/-- `x ≤ 0`; false of a value that is not a number. -/
def nonPositive (x : Binary64) : Bool :=
  if x.isNaN then false else if x.isFinite then x.units ≤ 0 else x.isNegative

/-- Whether the value counts as zero. -/
def isZero (x : Binary64) : Bool := x.isFinite && x.significand == 0

/-! ## Machine arithmetic -/

/-- The machine double with this bit pattern. -/
def toFloat (x : Binary64) : Float := Float.ofBits x.bits

/-- The bit pattern of a machine double. -/
def ofFloat (x : Float) : Binary64 := if x.isNaN then nan else ⟨x.toBits⟩

end Binary64

end AdminConsole
