/-!
# Text/Punycode — code points in ASCII letters

A text is coded as its ASCII part, a hyphen, and the places of its other code points, by rising
code point: each as the number of places that were passed over since the last one, in digits of
base 36 whose weights adapt to the numbers before. The empty ASCII part has no hyphen.
-/

namespace AdminConsole.Text.Punycode

/-! ## Digits and weights -/

/-- The digit of a number below 36. -/
def digit (n : Nat) : Char := Char.ofNat (if n < 26 then 'a'.toNat + n else '0'.toNat + (n - 26))

/-- The number of a digit, in either case. -/
def digit? (c : Char) : Option Nat :=
  if c.isLower then some (c.toNat - 'a'.toNat)
  else if c.isUpper then some (c.toNat - 'A'.toNat)
  else if c.isDigit then some (c.toNat - '0'.toNat + 26)
  else none

/-- **A digit gives its number back.** -/
theorem digit?_digit {n : Nat} (h : n < 36) : digit? (digit n) = some n := by
  have all : ∀ m ∈ List.range 36, digit? (digit m) = some m := by decide
  exact all n (List.mem_range.2 h)

/-- The least number for which another digit follows the one at place `j`. -/
def threshold (j bias : Nat) : Nat := min 26 (max 1 (36 * (j + 1) - bias))

theorem threshold_pos (j bias : Nat) : 0 < threshold j bias := by simp only [threshold]; omega

/-- How often a number is cut down to at most 455, and what is left. -/
def damped (delta : Nat) : Nat × Nat :=
  if 455 < delta then
    let (times, left) := damped (delta / 35)
    (times + 1, left)
  else (0, delta)
termination_by delta
decreasing_by omega

/-- The bias after a number, in a text of `count` code points so far. -/
def adapt (delta : Nat) (isFirst : Bool) (count : Nat) : Nat :=
  let scaled := delta / (if isFirst then 700 else 2)
  let (times, left) := damped (scaled + scaled / count)
  36 * times + 36 * left / (left + 38)

/-! ## Coding -/

/-- A number in digits, from place `j` on. -/
def writeNumber (bias j n : Nat) : List Char :=
  let t := threshold j bias
  if t ≤ n then digit (t + (n - t) % (36 - t)) :: writeNumber bias (j + 1) ((n - t) / (36 - t))
  else [digit n]
termination_by n
decreasing_by
  have := threshold_pos j bias
  exact Nat.lt_of_le_of_lt (Nat.div_le_self _ _) (by omega)

/-- What is known while places are written. -/
structure Writer where
  /-- The places passed over since the last number. -/
  delta : Nat := 0
  bias : Nat := 72
  /-- How many code points are coded. -/
  count : Nat
  isFirst : Bool := true
  /-- The digits, the last one first. -/
  digits : List Char := []

/-- Passes over the text once and writes the places of the code point `n`. -/
def Writer.pass (n : Nat) : List Nat → Writer → Writer
  | [], w => { w with delta := w.delta + 1 }
  | c :: rest, w =>
    if c < n then pass n rest { w with delta := w.delta + 1 }
    else if c = n then
      pass n rest
        { delta := 0
          bias := adapt w.delta w.isFirst (w.count + 1)
          count := w.count + 1
          isFirst := false
          digits := (writeNumber w.bias 0 w.delta).reverse ++ w.digits }
    else pass n rest w

/-- Writes the places of rising code points from `next` on. -/
def Writer.write (text : List Nat) (next : Nat) : List Nat → Writer → Writer
  | [], w => w
  | n :: rest, w =>
    write text (n + 1) rest (pass n text { w with delta := w.delta + (n - next) * (w.count + 1) })

/-- **The code of a text.** -/
def encode (text : List Nat) : List Char :=
  let basic := text.filter (· < 128)
  let others := ((text.filter (128 ≤ ·)).mergeSort fun a b => decide (a ≤ b)).eraseDups
  let written := Writer.write text 128 others { count := basic.length }
  (if basic.isEmpty then [] else basic.map Char.ofNat ++ ['-']) ++ written.digits.reverse

/-! ## Reading -/

/-- Reads a number whose digits from place `j` on weigh `weight`; `sum` is what came before. -/
def readNumber (bias j weight sum : Nat) : List Char → Option (Nat × List Char)
  | [] => none
  | c :: rest =>
    match digit? c with
    | none => none
    | some d =>
      let t := threshold j bias
      if d < t then some (sum + d * weight, rest)
      else readNumber bias (j + 1) (weight * (36 - t)) (sum + d * weight) rest

/-- A number takes at least one digit. -/
theorem length_readNumber {bias j weight sum n : Nat} {cs rest : List Char}
    (h : readNumber bias j weight sum cs = some (n, rest)) : rest.length < cs.length := by
  induction cs generalizing j weight sum with
  | nil => simp [readNumber] at h
  | cons c cs ih =>
    simp only [readNumber] at h
    split at h
    · simp at h
    · split at h
      · simp only [Option.some.injEq, Prod.mk.injEq] at h
        simp [← h.2]
      · have := ih h
        simp only [List.length_cons]
        omega

/-- The greatest code point. -/
def maxCode : Nat := 0x10ffff

/-- Reads the places of the code points from `code` on and puts them into the text; `place` is
where the next one may stand. -/
def readPlaces (bias code place : Nat) (isFirst : Bool) (text : List Nat) (cs : List Char) :
    Option (List Nat) :=
  if cs.isEmpty then some text
  else match _h : readNumber bias 0 1 0 cs with
    | none => none
    | some (delta, rest) =>
      let size := text.length + 1
      let code := code + (place + delta) / size
      let place := (place + delta) % size
      if maxCode < code then none
      else readPlaces (adapt delta isFirst size) code (place + 1) false
        (text.take place ++ code :: text.drop place) rest
termination_by cs.length
decreasing_by exact length_readNumber _h

/-- **The text that a code stands for.** -/
def decode? (cs : List Char) : Option (List Nat) :=
  let places := (cs.reverse.takeWhile (· != '-')).reverse
  let basic := (cs.take (cs.length - places.length)).dropLast
  readPlaces 72 128 0 true (basic.map Char.toNat) places

end AdminConsole.Text.Punycode
