import AdminConsole.Value.Basic

/-!
# Value/Same — equality of documents by content

Numbers and truth values are the same when they are the same number (`1`, `1.0` and `true`), and
moments when they are at the same time; lists agree item by item; mappings agree when they have the
same keys with agreeing values, in any order. What is not a number is never the same as anything,
but a part of a document agrees with itself.
-/

namespace AdminConsole

namespace Scalar

/-- The number that a scalar counts as, where it is an exact integer. -/
def integer? : Scalar → Option Int
  | .bool b => some (if b then 1 else 0)
  | .int n => some n
  | _ => none

/-- Whether two scalars have the same content. -/
def same (a b : Scalar) : Bool :=
  match a, b with
  | .real x, .real y => x.same y
  | .real x, b => match b.integer? with
    | some n => x.sameInt n
    | none => false
  | a, .real y => match a.integer? with
    | some n => y.sameInt n
    | none => false
  | .moment s, .moment t => s.same t
  | a, b => match a.integer?, b.integer? with
    | some m, some n => m == n
    | none, none => a == b
    | _, _ => false

/-- Whether two scalars inside documents agree: they are one datum, or have the same content. -/
def agrees (a b : Scalar) : Bool := a == b || a.same b

end Scalar

namespace Value

/-- The value under the first key that agrees with `k`. -/
def lookupSame (k : Scalar) : List (Scalar × Value) → Option Value
  | [] => none
  | (l, v) :: rest => if l.agrees k then some v else lookupSame k rest

mutual

/-- Whether two documents agree as parts of others. -/
def agrees : Value → Value → Bool
  | .scalar a, .scalar b => a.agrees b
  | .list a, .list b => agreeItems a b
  | .map a, .map b => a.length == b.length && agreeEntries a b
  | .set a, .set b => a.length == b.length && a.all fun x => b.any fun y => x.agrees y
  | _, _ => false

/-- Whether two lists agree item by item. -/
def agreeItems : List Value → List Value → Bool
  | [], [] => true
  | a :: as, b :: bs => agrees a b && agreeItems as bs
  | _, _ => false

/-- Whether every entry has an agreeing one in the other mapping. -/
def agreeEntries : List (Scalar × Value) → List (Scalar × Value) → Bool
  | [], _ => true
  | (k, v) :: rest, b =>
    (match lookupSame k b with
      | some w => agrees v w
      | none => false)
    && agreeEntries rest b

end

/-- **Whether two documents have the same content.** -/
def same : Value → Value → Bool
  | .scalar a, .scalar b => a.same b
  | a, b => agrees a b

/-- The integer that a document is the same as, if there is one. -/
def wholeNumber? : Value → Option Int
  | .real x => if x.isIntegral then some x.truncate else none
  | .scalar s => s.integer?
  | _ => none

end Value

end AdminConsole
