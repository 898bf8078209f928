import AdminConsole.Entries
import AdminConsole.Value.Calendar

/-!
# Value/Basic — documents

The values that the server's answers, the configuration file and the editors hold: scalars, lists,
mappings in order of insertion, and sets. Keys of a mapping are scalars; a JSON object is a mapping
whose keys are texts. A settings file may place a list or a mapping inside itself.
-/

namespace AdminConsole

/-- A value without parts. -/
inductive Scalar where
  | null
  | bool (b : Bool)
  | int (n : Int)
  | real (x : Binary64)
  | text (s : String)
  | bytes (bs : List UInt8)
  | date (d : Date)
  | moment (t : Moment)
  deriving DecidableEq, Repr, Inhabited

/-- A document. -/
inductive Value where
  | scalar (s : Scalar)
  | list (items : List Value)
  | map (entries : List (Scalar × Value))
  | set (members : List Scalar)
  /-- The list or mapping that this value is a part of. -/
  | enclosing (isMapping : Bool)
  deriving Repr, Inhabited

namespace Value

@[match_pattern] abbrev null : Value := .scalar .null
@[match_pattern] abbrev bool (b : Bool) : Value := .scalar (.bool b)
@[match_pattern] abbrev int (n : Int) : Value := .scalar (.int n)
@[match_pattern] abbrev real (x : Binary64) : Value := .scalar (.real x)
@[match_pattern] abbrev text (s : String) : Value := .scalar (.text s)

/-- The mapping with these text keys. -/
def object (members : List (String × Value)) : Value :=
  .map (members.map fun (k, v) => (.text k, v))

/-- The mapping without entries. -/
def empty : Value := .map []

/-- A list of texts. -/
def texts (ss : List String) : Value := .list (ss.map .text)

/-- A text, or null. -/
def ofText? : Option String → Value
  | some s => .text s
  | none => .null

/-! ## Looking into a value -/

/-- The entries of a mapping. -/
def entries? : Value → Option (List (Scalar × Value))
  | .map es => some es
  | _ => none

/-- The member of a mapping under a text key. -/
def member? (v : Value) (key : String) : Option Value :=
  v.entries?.bind (Entries.get? (.text key))

/-- The text of a text value. -/
def text? : Value → Option String
  | .text s => some s
  | _ => none

/-- The items of a list. -/
def items? : Value → Option (List Value)
  | .list xs => some xs
  | _ => none

/-- Whether the value is null. -/
def isNull : Value → Bool
  | .null => true
  | _ => false

/-- Whether the value is a mapping. -/
def isMap : Value → Bool
  | .map _ => true
  | _ => false

/-! ## Emptiness -/

/-- Whether a value counts as *given*: null, false, zero and whatever is empty do not. -/
def truthy : Value → Bool
  | .scalar .null => false
  | .scalar (.bool b) => b
  | .scalar (.int n) => n != 0
  | .scalar (.real x) => !x.isZero
  | .scalar (.text s) => !s.isEmpty
  | .scalar (.bytes bs) => !bs.isEmpty
  | .scalar (.date _) => true
  | .scalar (.moment _) => true
  | .list xs => !xs.isEmpty
  | .map es => !es.isEmpty
  | .set ms => !ms.isEmpty
  | .enclosing _ => true

/-- The value if it is given, else the fallback. -/
def orElse (v fallback : Value) : Value := if v.truthy then v else fallback

/-! ## Values inside themselves -/

mutual

/-- Whether some list or mapping in a value is a part of itself. -/
def isEndless : Value → Bool
  | .scalar _ => false
  | .list xs => anyEndless xs
  | .map es => anyEntryEndless es
  | .set _ => false
  | .enclosing _ => true

/-- Whether some item is endless. -/
def anyEndless : List Value → Bool
  | [] => false
  | x :: xs => isEndless x || anyEndless xs

/-- Whether the value of some entry is endless. -/
def anyEntryEndless : List (Scalar × Value) → Bool
  | [] => false
  | (_, v) :: rest => isEndless v || anyEntryEndless rest

end

/-! ## Decidable equality -/

mutual

/-- Decides whether two documents are the same, member order included. -/
def decEq : (a b : Value) → Decidable (a = b)
  | .scalar a, .scalar b => decidable_of_iff (a = b) (by simp)
  | .list a, .list b => match decEqItems a b with
    | isTrue h => isTrue (by rw [h])
    | isFalse h => isFalse (by simpa using h)
  | .map a, .map b => match decEqEntries a b with
    | isTrue h => isTrue (by rw [h])
    | isFalse h => isFalse (by simpa using h)
  | .set a, .set b => decidable_of_iff (a = b) (by simp)
  | .enclosing a, .enclosing b => decidable_of_iff (a = b) (by simp)
  | .scalar _, .list _ => isFalse (by simp)
  | .scalar _, .map _ => isFalse (by simp)
  | .scalar _, .set _ => isFalse (by simp)
  | .list _, .scalar _ => isFalse (by simp)
  | .list _, .map _ => isFalse (by simp)
  | .list _, .set _ => isFalse (by simp)
  | .map _, .scalar _ => isFalse (by simp)
  | .map _, .list _ => isFalse (by simp)
  | .map _, .set _ => isFalse (by simp)
  | .set _, .scalar _ => isFalse (by simp)
  | .set _, .list _ => isFalse (by simp)
  | .set _, .map _ => isFalse (by simp)
  | .enclosing _, .scalar _ | .enclosing _, .list _ | .enclosing _, .map _
  | .enclosing _, .set _ => isFalse (by simp)
  | .scalar _, .enclosing _ | .list _, .enclosing _ | .map _, .enclosing _
  | .set _, .enclosing _ => isFalse (by simp)

/-- Decides whether two lists of documents are the same. -/
def decEqItems : (a b : List Value) → Decidable (a = b)
  | [], [] => isTrue rfl
  | a :: as, b :: bs => match decEq a b, decEqItems as bs with
    | isTrue h, isTrue h' => isTrue (by rw [h, h'])
    | isFalse h, _ => isFalse (by simp [h])
    | _, isFalse h => isFalse (by simp [h])
  | [], _ :: _ => isFalse (by simp)
  | _ :: _, [] => isFalse (by simp)

/-- Decides whether two lists of entries are the same. -/
def decEqEntries : (a b : List (Scalar × Value)) → Decidable (a = b)
  | [], [] => isTrue rfl
  | (k, a) :: as, (l, b) :: bs =>
    match instDecidableEqScalar k l, decEq a b, decEqEntries as bs with
    | isTrue h0, isTrue h, isTrue h' => isTrue (by rw [h0, h, h'])
    | isFalse h, _, _ => isFalse (by simp [h])
    | _, isFalse h, _ => isFalse (by simp [h])
    | _, _, isFalse h => isFalse (by simp [h])
  | [], _ :: _ => isFalse (by simp)
  | _ :: _, [] => isFalse (by simp)

end

instance : DecidableEq Value := decEq

end Value

end AdminConsole
