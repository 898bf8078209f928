import AdminConsole.Value.Pairs

/-!
# Value/Order — keys in order

Texts are ordered by their code points and numbers by size; a text and a number have no order.
-/

namespace AdminConsole

/-- Whether one double is below another; what is not a number is below nothing. -/
def Binary64.less (x y : Binary64) : Bool :=
  if x.isNaN || y.isNaN then false
  else if x.isInfinite then x.isNegative && x != y
  else if y.isInfinite then !y.isNegative
  else x.units < y.units

/-- Whether an integer is below a double. -/
def Binary64.aboveInt (n : Int) (y : Binary64) : Bool :=
  if y.isFinite then n * (unitsPerOne : Int) < y.units else y.isInfinite && !y.isNegative

/-- Whether a double is below an integer. -/
def Binary64.belowInt (x : Binary64) (n : Int) : Bool :=
  if x.isFinite then x.units < n * (unitsPerOne : Int) else x.isInfinite && x.isNegative

namespace Scalar

/-- **Whether one scalar is below another**, where they have an order. -/
def less? : Scalar → Scalar → Option Bool
  | .text s, .text t => some (decide (s < t))
  | .real x, .real y => some (x.less y)
  | .real x, b => b.integer?.map x.belowInt
  | a, .real y => a.integer?.map fun n => y.aboveInt n
  | a, b => match a.integer?, b.integer? with
    | some m, some n => some (decide (m < n))
    | _, _ => none

/-- The first of some scalars that have no order with `a`. -/
def unlike? (a : Scalar) (ks : List Scalar) : Option Scalar :=
  ks.find? fun b => (less? b a).isNone

/-- **Scalars in order**, if all of them have one. -/
def sorted : List Scalar → Except Fault (List Scalar)
  | [] => .ok []
  | a :: rest =>
    match unlike? a rest with
    | some b => .error (.mishap (.noOrder (Value.scalar b).kindName (Value.scalar a).kindName))
    | none => .ok ((a :: rest).mergeSort fun a b => less? b a != some true)

end Scalar

end AdminConsole
