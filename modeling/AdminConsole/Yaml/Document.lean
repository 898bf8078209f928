import AdminConsole.Value.Pairs
import AdminConsole.Yaml.Node
import AdminConsole.Yaml.Scalar

/-!
# Yaml/Document — trees as documents

The document that a tree of nodes stands for. Collections are made level by level, so of several
failures the one nearest to the root counts, and among those the first. A collection may be a part
of itself: there it is only said to be the enclosing one.
-/

namespace AdminConsole.Yaml

/-- A failure, and how far below the root it arises. -/
structure Failed where
  depth : Nat
  reason : Refusal
  deriving Repr

/-- What making a part returns. -/
abbrev Made (α : Type) := Except Failed α

namespace Made

/-- Two parts made one after the other; of two failures the nearer to the root counts. -/
def both {α β γ : Type} (f : α → β → γ) : Made α → Made β → Made γ
  | .ok a, .ok b => .ok (f a b)
  | .ok _, .error e => .error e
  | .error e, .ok _ => .error e
  | .error d, .error e => .error (if e.depth < d.depth then e else d)

/-- A failure at a depth. -/
def fail {α : Type} (depth : Nat) (reason : Refusal := .malformed) : Made α :=
  .error ⟨depth, reason⟩

/-- The result of making a scalar at a depth. -/
def ofMaking (depth : Nat) : Making → Made Value
  | .ok s => .ok (.scalar s)
  | .error reason => fail depth reason

/-- A key made at a depth: only a scalar can be one, whatever is wrong inside anything else. -/
def key (depth : Nat) : Made Value → Made Scalar
  | .ok (.scalar s) => .ok s
  | .ok _ => fail depth
  | .error e => if e.depth ≤ depth then .error e else fail depth

end Made

namespace Node

/-- Entries from made pairs, a later one overwriting an earlier one in place. -/
def entries (pairs : List (Scalar × Value)) : List (Scalar × Value) :=
  pairs.foldl (fun es (k, v) => Value.putSame k v es) []

/-- The document of a scalar with a tag. -/
def makeTagged (depth : Nat) (tag text : String) (number : Nat) : Made Value :=
  match makeScalar tag text number with
  | some m => .ofMaking depth m
  | none => .fail depth

/-- Whether a tag belongs to collections, which are filled one level below. -/
def isCollectionTag (tag : String) : Bool :=
  [Tag.seq, Tag.map, Tag.set, Tag.omap, Tag.pairs].contains tag

/-- Whether a tag belongs to ordered lists of pairs. -/
def isPairsTag (tag : String) : Bool := tag == Tag.omap || tag == Tag.pairs

/-- The pairs of the collections around a node, the innermost first; a list has none. -/
abbrev Around := List (List (Node × Node))

/-! ## Merged mappings -/

mutual

/-- Whether pairs take over only from mappings, and so do those mappings. -/
def flattens : List (Node × Node) → Bool
  | [] => true
  | (key, value) :: rest => (key.tag != Tag.merge || givesPairs value) && flattens rest

/-- Whether pairs can be taken over from a node: a mapping, or a list of mappings. -/
def givesPairs : Node → Bool
  | .mapping _ pairs => flattens pairs
  | .sequence _ items => allGivePairs items
  | .scalar .. => false
  | .enclosing isMapping _ => isMapping

/-- Whether all nodes are mappings from which pairs can be taken over. -/
def allGivePairs : List Node → Bool
  | [] => true
  | .mapping _ pairs :: rest => flattens pairs && allGivePairs rest
  | .enclosing true _ :: rest => allGivePairs rest
  | _ :: _ => false

end

/-! ## The scalar of a mapping -/

/-- The value under the key for a mapping's own scalar. -/
def ownScalar? (pairs : List (Node × Node)) : Option Node :=
  (pairs.find? fun (key, _) => key.tag == Tag.value).map Prod.snd

/-- The text of an enclosing mapping's own scalar; a mapping there leads back to itself. -/
def enclosingText (pairs : List (Node × Node)) : Except Refusal String :=
  match ownScalar? pairs with
  | some (.scalar _ text _) => .ok text
  | some (.sequence ..) | none => .error .malformed
  | some _ => .error (.mishap (.tooDeep ""))

mutual

/-- The text under the key for a mapping's own scalar. -/
def ownText (around : Around) : List (Node × Node) → Except Refusal String
  | [] => .error .malformed
  | (key, value) :: rest =>
    if key.tag == Tag.value then scalarText around value else ownText around rest

/-- The text of a scalar, or of a mapping's own scalar. -/
def scalarText (around : Around) : Node → Except Refusal String
  | .scalar _ text _ => .ok text
  | .mapping _ pairs => ownText (pairs :: around) pairs
  | .sequence _ _ => .error .malformed
  | .enclosing _ up => enclosingText (around.getD up [])

end

/-! ## Enclosing collections -/

/-- The value that a node has inside itself; only scalars are made again. -/
def makeAgain (depth : Nat) : Node → Made Value
  | .scalar tag text number => makeTagged depth tag text number
  | .sequence _ _ => .ok (.enclosing false)
  | .mapping _ _ => .ok (.enclosing true)
  | .enclosing isMapping _ => .ok (.enclosing isMapping)

/-- The key for a mapping's own scalar, which is the text that it is written with. -/
def makeValueKey (depth : Nat) : Node → Made Scalar
  | .scalar _ text _ => .ok (.text text)
  | _ => .fail depth

/-- The pairs that an enclosing mapping has. -/
def makeEnclosing (depth : Nat) : List (Node × Node) → Made (List (Scalar × Value))
  | [] => .ok []
  | (key, value) :: rest =>
    if key.tag == Tag.merge then makeEnclosing depth rest
    else
      let name := if key.tag == Tag.value then makeValueKey depth key
        else .key depth (makeAgain depth key)
      .both List.cons (.both Prod.mk name (makeAgain depth value)) (makeEnclosing depth rest)

/-! ## Documents -/

mutual

/-- The document of a node at a depth. A section that is the mapping around it holds what that
mapping holds. -/
def make (depth : Nat) (around : Around) : Node → Made Value
  | .scalar tag text number =>
    if isCollectionTag tag then .fail (depth + 1) else makeTagged depth tag text number
  | .sequence tag items =>
    if tag == Tag.seq then (makeItems (depth + 1) ([] :: around) items).map .list
    else if isPairsTag tag then (makeSinglePairs (depth + 1) ([] :: around) items).map .list
    else if isCollectionTag tag then .fail (depth + 1)
    else .fail depth
  | .mapping tag pairs =>
    if tag == Tag.map then
      (makePairs (depth + 1) (pairs :: around) pairs).map fun ps => .map (entries ps)
    else if tag == Tag.set then
      (makePairs (depth + 1) (pairs :: around) pairs).map fun ps => .set ((entries ps).map Prod.fst)
    else if isCollectionTag tag then .fail (depth + 1)
    else match ownText (pairs :: around) pairs with
      | .ok text => makeTagged depth tag text 0
      | .error reason => .fail depth reason
  | .enclosing true up =>
    if depth = 1 then
      (makeEnclosing (depth + 1) (around.getD up [])).map fun ps => .map (entries ps)
    else .ok (.enclosing true)
  | .enclosing false _ => .ok (.enclosing false)

/-- The documents of some nodes. -/
def makeItems (depth : Nat) (around : Around) : List Node → Made (List Value)
  | [] => .ok []
  | node :: rest => .both List.cons (make depth around node) (makeItems depth around rest)

/-- The documents of mappings of one pair each, as lists of two. -/
def makeSinglePairs (depth : Nat) (around : Around) : List Node → Made (List Value)
  | [] => .ok []
  | .mapping _ [(key, value)] :: rest =>
    let around' := [(key, value)] :: around
    .both List.cons
      (.both (fun k v => .list [k, v]) (make depth around' key) (make depth around' value))
      (makeSinglePairs depth around rest)
  | _ :: _ => .fail depth

/-- The pairs of a mapping: the merged ones first, then its own. All that is to be merged must be
mappings before anything is made. -/
def makePairs (depth : Nat) (around : Around) (pairs : List (Node × Node)) :
    Made (List (Scalar × Value)) :=
  if flattens pairs then
    .both List.append (makeMerged depth around pairs) (makeOwn depth around pairs)
  else .fail depth

/-- The pairs that a mapping takes over from others. -/
def makeMerged (depth : Nat) (around : Around) : List (Node × Node) → Made (List (Scalar × Value))
  | [] => .ok []
  | (key, value) :: rest =>
    if key.tag == Tag.merge then
      .both List.append (makeMergedFrom depth around value) (makeMerged depth around rest)
    else makeMerged depth around rest

/-- The pairs taken over from one mapping, or from several, the last first; from itself a mapping
takes nothing. -/
def makeMergedFrom (depth : Nat) (around : Around) : Node → Made (List (Scalar × Value))
  | .mapping _ pairs => makePairs depth (pairs :: around) pairs
  | .sequence _ items => makeMergedItems depth ([] :: around) items
  | .scalar .. => .fail depth
  | .enclosing _ 0 => .ok []
  | .enclosing _ (up + 1) => makeEnclosing depth (around.getD (up + 1) [])

/-- The pairs taken over from several mappings, the last first. -/
def makeMergedItems (depth : Nat) (around : Around) : List Node → Made (List (Scalar × Value))
  | [] => .ok []
  | .mapping _ pairs :: rest =>
    .both (fun first later => later ++ first) (makePairs depth (pairs :: around) pairs)
      (makeMergedItems depth around rest)
  | .enclosing _ up :: rest =>
    .both (fun first later => later ++ first)
      (if up = 1 then .ok [] else makeEnclosing depth (around.getD up []))
      (makeMergedItems depth around rest)
  | _ :: _ => .fail depth

/-- The pairs of a mapping itself. -/
def makeOwn (depth : Nat) (around : Around) : List (Node × Node) → Made (List (Scalar × Value))
  | [] => .ok []
  | (key, value) :: rest =>
    if key.tag == Tag.merge then makeOwn depth around rest
    else
      let name := if key.tag == Tag.value then makeValueKey depth key
        else .key depth (make depth around key)
      .both List.cons (.both Prod.mk name (make depth around value)) (makeOwn depth around rest)

end

end Node

/-- **The document in a text**; a text without one holds null. -/
def read (cs : List Char) : Except Refusal Value :=
  match Node.read cs with
  | .error reason => .error reason
  | .ok none => .ok .null
  | .ok (some node) =>
    match node.make 0 [] with
    | .ok v => .ok v
    | .error e => .error e.reason

end AdminConsole.Yaml
