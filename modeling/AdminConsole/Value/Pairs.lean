import AdminConsole.Fault.Basic
import AdminConsole.Value.Same

/-!
# Value/Pairs — mappings from values of any kind

A row of permissions or a stored record is read as a mapping: a mapping as it is, or a list of
pairs, a pair being a list of two items, a text of two characters, or a mapping of two keys.
-/

namespace AdminConsole.Value

/-- A value as a key. -/
def toKey : Value → Except Fault Scalar
  | .scalar s => .ok s
  | v => .error (.unhashable v)

/-- Binds a key in a mapping, in place where a key that agrees with it is there. -/
def putSame (k : Scalar) (v : Value) : List (Scalar × Value) → List (Scalar × Value)
  | [] => [(k, v)]
  | (l, w) :: rest => if l.agrees k then (l, v) :: rest else (l, w) :: putSame k v rest

/-- The items of something that can be walked through. -/
def sequence? : Value → Option (List Value)
  | .list xs => some xs
  | .text s => some (s.toList.map fun c => .text c.toString)
  | .map es => some (es.map fun e => .scalar e.1)
  | .set ms => some (ms.map .scalar)
  | .scalar (.bytes bs) => some (bs.map fun b => .int b.toNat)
  | _ => none

/-- The items of a value that is walked through. -/
def walked (v : Value) : Except Fault (List Value) :=
  match v.sequence? with
  | some xs => .ok xs
  | none => .error (.notIterable v)

/-- The keys that a value holds when it is walked through. -/
def walkedKeys (v : Value) : Except Fault (List Scalar) := do (← v.walked).mapM toKey

/-- Adds the pairs of a list, numbered from `index`, to a mapping. -/
def putPairs (index : Nat) (es : List (Scalar × Value)) :
    List Value → Except Fault (List (Scalar × Value))
  | [] => .ok es
  | item :: rest =>
    match item.sequence? with
    | none => .error (.mishap (.pairExpected index))
    | some [k, v] => do
      let key ← toKey k
      putPairs (index + 1) (putSame key v es) rest
    | some xs => .error (.mishap (.pairLength index xs.length))

/-- **The mapping that a value stands for.** -/
def toMapping : Value → Except Fault (List (Scalar × Value))
  | .map es => .ok es
  | v => match v.sequence? with
    | some items => putPairs 0 [] items
    | none => .error (.notIterable v)

end AdminConsole.Value
