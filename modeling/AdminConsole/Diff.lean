import AdminConsole.Fault.Basic
import AdminConsole.Value.Pairs

/-!
# Diff — differences between two documents

Two documents are compared from the top. A key of only one mapping is added or removed, common keys
are descended into, and lists are compared place by place. Values of different kinds are a change
of kind, values of one kind with different content a change of value. Keys that begin with two
underscores are private and take no part.
-/

namespace AdminConsole

/-- One difference: the path to it, and the values before and after, where they are there. -/
structure Change where
  path : List Value
  old : Option Value
  new : Option Value
  deriving DecidableEq, Repr, Inhabited

/-- All differences between two documents. -/
structure Diff where
  valueChanges : List Change := []
  kindChanges : List Change := []
  added : List Change := []
  removed : List Change := []
  deriving DecidableEq, Repr, Inhabited

namespace Diff

/-- The differences of two diffs. -/
def append (a b : Diff) : Diff :=
  { valueChanges := a.valueChanges ++ b.valueChanges
    kindChanges := a.kindChanges ++ b.kindChanges
    added := a.added ++ b.added
    removed := a.removed ++ b.removed }

instance : Append Diff := ⟨append⟩

/-- Whether a key is private. -/
def isPrivate : Scalar → Bool
  | .text s => ['_', '_'].isPrefixOf s.toList
  | _ => false

/-- The entries of `bs` under keys that `as` does not have. -/
def addedEntries (path : List Value) (as bs : List (Scalar × Value)) : List Change :=
  (bs.filter fun (k, _) => !isPrivate k && !Entries.has k as).map fun (k, v) =>
    ⟨path ++ [.scalar k], none, some v⟩

mutual

/-- The differences below a path, unsorted. -/
def compareAt (path : List Value) : Value → Value → Diff
  | .map as, .map bs =>
    compareEntries path as bs ++ { added := addedEntries path as bs }
  | .list as, .list bs => compareItems path 0 as bs
  | a, b =>
    if a.kindName ≠ b.kindName then { kindChanges := [⟨path, some a, some b⟩] }
    else if a.same b then {}
    else { valueChanges := [⟨path, some a, some b⟩] }

/-- The differences at the keys of the first mapping. -/
def compareEntries (path : List Value) : List (Scalar × Value) → List (Scalar × Value) → Diff
  | [], _ => {}
  | (k, a) :: rest, bs =>
    (if isPrivate k then {}
      else match Entries.get? k bs with
        | some b => compareAt (path ++ [.scalar k]) a b
        | none => { removed := [⟨path ++ [.scalar k], some a, none⟩] })
    ++ compareEntries path rest bs

/-- The differences at the places that both lists have. -/
def compareItems (path : List Value) (index : Nat) : List Value → List Value → Diff
  | a :: as, b :: bs =>
    compareAt (path ++ [.int index]) a b ++ compareItems path (index + 1) as bs
  | _, _ => {}

end

/-- Whether one list of texts comes before another or is the same. -/
def textsLE : List String → List String → Bool
  | [], _ => true
  | _ :: _, [] => false
  | a :: as, b :: bs => if a = b then textsLE as bs else decide (a ≤ b)

/-- Changes in order of their paths. -/
def sortChanges (cs : List Change) : List Change :=
  cs.mergeSort fun a b => textsLE (a.path.map Value.plain) (b.path.map Value.plain)

/-- **The differences between two documents**, each kind in order of paths. -/
def between (a b : Value) : Diff :=
  let d := compareAt [] a b
  { valueChanges := sortChanges d.valueChanges
    kindChanges := sortChanges d.kindChanges
    added := sortChanges d.added
    removed := sortChanges d.removed }

/-- Whether there is no difference. -/
def isEmpty (d : Diff) : Bool :=
  d.valueChanges.isEmpty && d.kindChanges.isEmpty && d.added.isEmpty && d.removed.isEmpty

/-! ## As a document -/

/-- A change as a document. -/
def changeValue (c : Change) : Value :=
  .object [("path", .list c.path), ("old_value", c.old.getD .null), ("new_value", c.new.getD .null)]

/-- The kinds of change, by the names they have in a document. -/
def kinds (d : Diff) : List (String × List Change) :=
  [("values_changed", d.valueChanges), ("type_changes", d.kindChanges),
    ("dictionary_item_added", d.added), ("dictionary_item_removed", d.removed)]

/-- A diff as a document, with the kinds of change that occur. -/
def toValue (d : Diff) : Value :=
  .object ((d.kinds.filter fun (_, cs) => !cs.isEmpty).map fun (name, cs) =>
    (name, .list (cs.map changeValue)))

/-- How many changes of each kind a diff has. -/
structure Summary where
  modified : Nat
  added : Nat
  removed : Nat
  deriving DecidableEq, Repr, Inhabited

/-- The number of all changes. -/
def Summary.total (s : Summary) : Nat := s.modified + s.added + s.removed

/-- The number of items of a value. -/
def count (v : Value) : Except Fault Nat :=
  match v.sequence? with
  | some xs => .ok xs.length
  | none =>
    .error (.mishap (.other "TypeError" ("object of type '" ++ v.kindName ++ "' has no len()")))

/-- The number of changes listed under a name. -/
def countUnder (es : List (Scalar × Value)) (name : String) : Except Fault Nat :=
  match Entries.get? (.text name) es with
  | some v => count v
  | none => .ok 0

/-- **Counts the changes of a diff document.** -/
def summary (v : Value) : Except Fault Summary :=
  match v with
  | .map es => do
    let values ← countUnder es "values_changed"
    let kinds ← countUnder es "type_changes"
    let added ← countUnder es "dictionary_item_added"
    let removed ← countUnder es "dictionary_item_removed"
    return ⟨values + kinds, added, removed⟩
  | v => .error (.noAttribute v "get")

/-- Whether a diff document lists any change. -/
def hasChanges (v : Value) : Except Fault Bool :=
  if !v.truthy then .ok false
  else match v with
    | .map es => .ok <|
        ["values_changed", "type_changes", "dictionary_item_added", "dictionary_item_removed"].any
          fun name => ((Entries.get? (.text name) es).getD .null).truthy
    | v => .error (.noAttribute v "get")

end Diff

end AdminConsole
