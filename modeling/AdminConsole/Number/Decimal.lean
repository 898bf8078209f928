import AdminConsole.Number.Binary64

/-!
# Number/Decimal — decimal text of numbers

Integers and doubles written with decimal digits. A double is written with the fewest digits that
read back, nearest to its value among those; it is positional from `1e-4` up to below `1e16` and
has an exponent elsewhere. A decimal is read by one exact rounding of its value.
-/

namespace AdminConsole

namespace Decimal

/-! ## Digits -/

/-- The value of a list of decimal digits. -/
def ofDigits (ds : List Nat) : Nat := ds.foldl (fun n d => 10 * n + d) 0

/-- The decimal digits of a number, as characters. -/
def digits (n : Nat) : List Char := Nat.toDigits 10 n

/-- A number in decimal. -/
def natText (n : Nat) : String := String.ofList (digits n)

/-- An integer in decimal, with a minus sign where it is negative. -/
def intText (n : Int) : String :=
  if n < 0 then "-" ++ natText n.natAbs else natText n.natAbs

/-- The value of an ASCII decimal digit. -/
def digit? (c : Char) : Option Nat :=
  if '0' ≤ c ∧ c ≤ '9' then some (c.toNat - '0'.toNat) else none

/-! ## Reading -/

/-- The double nearest to `± n · 10 ^ e`. Beyond every double the power is not computed. -/
def round (negative : Bool) (n : Nat) (e : Int) : Binary64 :=
  if n = 0 then Binary64.ofRatio negative 0 1
  else
    let size := ((digits n).length : Int) + e
    if 310 < size then Binary64.infinity negative
    else if size < -330 then Binary64.ofRatio negative 0 1
    else Binary64.ofRatio negative (n * Nat.pow 10 e.toNat) (Nat.pow 10 (-e).toNat)

/-- The double written as whole digits, fraction digits and a power of ten. -/
def ofParts (negative : Bool) (whole fraction : List Char) (e : Int) : Binary64 :=
  let ds := (whole ++ fraction).filterMap digit?
  round negative (ofDigits ds) (e - fraction.length)

/-! ## Shortest digits -/

/-- The power `k` with `10 ^ (k - 1) ≤ n / d < 10 ^ k`, for positive `n` and `d`. -/
def decimalPoint (n d : Nat) : Int :=
  let k : Int := ((digits n).length : Int) - (digits d).length
  if n * Nat.pow 10 (-k).toNat < d * Nat.pow 10 k.toNat then k else k + 1

/-- The interval of values that round to a double, in quarters of a unit of its significand, and
whether its ends belong to it. -/
structure RoundingInterval where
  low : Nat
  high : Nat
  closed : Bool

namespace RoundingInterval

/-- Whether `v / s` lies in the interval. -/
def contains (i : RoundingInterval) (v s : Nat) : Bool :=
  if i.closed then i.low * s ≤ v && v ≤ i.high * s else i.low * s < v && v < i.high * s

end RoundingInterval

/-- The values that round to the positive double `x`: half a step to either side, a quarter of a
step below a power of two. -/
def roundingInterval (x : Binary64) : RoundingInterval :=
  let m := x.significand
  { low := if x.fraction = 0 ∧ 1 < x.exponentField then 4 * m - 1 else 4 * m - 2
    high := 4 * m + 2
    closed := m % 2 = 0 }

/-- The decimal `(digits, exponent)` on the grid of `10 ^ e` that reads back as `x`, the nearer
one if both neighbours of `x` do. -/
def onGrid (x : Binary64) (e : Int) : Option (Nat × Int) :=
  let i := roundingInterval x
  -- quarters of the significand's step, and the grid, over one denominator
  let quarter := Nat.pow 2 x.scale * Nat.pow 10 (-e).toNat
  let step := Nat.pow 2 1076 * Nat.pow 10 e.toNat
  let value := 4 * x.significand * quarter
  let q := value / step
  let below := q != 0 && i.contains (q * step) quarter
  let above := i.contains ((q + 1) * step) quarter
  match below, above with
  | true, true => some (if Binary64.roundDiv value step = q then q else q + 1, e)
  | true, false => some (q, e)
  | false, true => some (q + 1, e)
  | false, false => none

/-- Tries grids from `count` to seventeen digits. -/
def shortestFrom (x : Binary64) (point : Int) : Nat → Nat × Int
  | 0 => (x.significand, 0)
  | left + 1 =>
    match onGrid x (point - (17 - left : Nat)) with
    | some r => r
    | none => shortestFrom x point left

/-- **The shortest decimal** `(digits, exponent)` that reads back as the positive finite `x`. -/
def shortest (x : Binary64) : Nat × Int :=
  shortestFrom x (decimalPoint (x.significand * Nat.pow 2 x.scale) Binary64.unitsPerOne) 17

/-! ## Writing -/

/-- An exponent with its sign and at least two digits. -/
def exponentText (e : Int) : String :=
  let ds := String.ofList (digits e.natAbs)
  (if e < 0 then "-" else "+") ++ (if ds.length < 2 then "0" ++ ds else ds)

/-- Digits with the decimal point after the first `point` of them. -/
def placed (ds : List Char) (point : Int) : List Char :=
  if point ≤ 0 then '0' :: '.' :: (List.replicate (-point).toNat '0' ++ ds)
  else if (ds.length : Int) ≤ point then
    ds ++ List.replicate (point.toNat - ds.length) '0' ++ ['.', '0']
  else ds.take point.toNat ++ '.' :: ds.drop point.toNat

/-- The trailing zeros of a number's digits cut off, and how many there were. -/
def trimZeros (ds : List Char) : List Char × Nat :=
  let kept := (ds.reverse.dropWhile (· == '0')).reverse
  (kept, ds.length - kept.length)

/-- **The text of a double**: `1.0`, `0.1`, `1e-07`, `1e+16`, `inf`, `nan`. -/
def realText (x : Binary64) : String :=
  if x.isNaN then "nan"
  else
    let sign := if x.isNegative then "-" else ""
    if x.isInfinite then sign ++ "inf"
    else if x.isZero then sign ++ "0.0"
    else
      let (n, e) := shortest x
      let (ds, zeros) := trimZeros (digits n)
      let point := (ds.length : Int) + e + zeros
      if -4 < point ∧ point ≤ 16 then sign ++ String.ofList (placed ds point)
      else
        let mantissa := match ds with
          | [] => []
          | [d] => [d]
          | d :: rest => d :: '.' :: rest
        sign ++ String.ofList mantissa ++ "e" ++ exponentText (point - 1)

end Decimal

end AdminConsole
