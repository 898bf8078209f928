import AdminConsole.Schema.Changes
import AdminConsole.Proofs.Schema.Document

/-!
# Proofs/Schema/ChangePath — which fields a change is about

In a schema document a field stands below its key and, further down, below the member `fields` of
every field on the way (`fieldTokens`).  Splitting such a path gives the keys back, with the member
that follows them if there is one (`split_fieldTokens`, `split_member`), also where a field is itself
called `fields`.  What is added or removed is a field or the whole level below one; either way there
is one line for each field that comes or goes (`entryLines_field`, `entryLines_level`).
-/

namespace AdminConsole

open Fields

namespace SchemaPath

/-- The steps of a path below a field. -/
def belowTokens : KeyPath → List Value
  | [] => []
  | key :: rest => .text childrenKey :: .text key :: belowTokens rest

/-- The path of a field in a schema document. -/
def fieldTokens : KeyPath → List Value
  | [] => []
  | key :: rest => .text key :: belowTokens rest

/-- The path of the level below a field. -/
def levelTokens : KeyPath → List Value
  | [] => []
  | path => fieldTokens path ++ [.text childrenKey]

theorem belowTokens_append : ∀ a b : KeyPath,
    belowTokens (a ++ b) = belowTokens a ++ belowTokens b
  | [], _ => rfl
  | key :: rest, b => by
      rw [List.cons_append, belowTokens, belowTokens, belowTokens_append rest b, List.cons_append,
        List.cons_append]

theorem fieldTokens_concat (path : KeyPath) (key : String) :
    fieldTokens (path ++ [key]) = levelTokens path ++ [.text key] := by
  cases path with
  | nil => rfl
  | cons first rest =>
      rw [List.cons_append, fieldTokens, belowTokens_append, levelTokens, fieldTokens]
      · simp [belowTokens]
      · simp

theorem levelTokens_of_ne_nil {path : KeyPath} (h : path ≠ []) :
    levelTokens path = fieldTokens path ++ [.text childrenKey] := by
  cases path with
  | nil => exact absurd rfl h
  | cons first rest => rfl

/-- What follows the first key is read step by step. -/
theorem splitAfter_belowTokens (tail : List Value) : ∀ (rest keys : KeyPath),
    splitAfter keys (belowTokens rest ++ tail) = splitAfter (keys ++ rest) tail
  | [], keys => by rw [belowTokens, List.nil_append, List.append_nil]
  | key :: rest, keys => by
      have hsame : (Value.text childrenKey).same (.text childrenKey) = true := by decide
      rw [belowTokens, List.cons_append, List.cons_append, splitAfter, if_pos hsame,
        splitAfter_belowTokens tail rest, List.append_assoc]
      rfl

/-- **The path of a field gives back its keys**, whatever they are. -/
theorem split_fieldTokens {path : KeyPath} (h : path ≠ []) :
    split (fieldTokens path) = (path, none) := by
  cases path with
  | nil => exact absurd rfl h
  | cons key rest =>
      have hsplit := splitAfter_belowTokens [] rest [key]
      rw [List.append_nil] at hsplit
      exact hsplit

/-- **The path of a member of a field gives back the keys and the member.** -/
theorem split_member {path : KeyPath} (h : path ≠ []) (member : String) :
    split (fieldTokens path ++ [.text member]) = (path, some member) := by
  cases path with
  | nil => exact absurd rfl h
  | cons key rest => exact splitAfter_belowTokens [.text member] rest [key]

end SchemaPath

theorem joinTexts_cons_cons (separator s t : String) (rest : List String) :
    joinTexts separator (s :: t :: rest) = s ++ separator ++ joinTexts separator (t :: rest) := rfl

/-- The last key is joined behind the others. -/
theorem joinTexts_concat (separator last : String) : ∀ {texts : List String}, texts ≠ [] →
    joinTexts separator (texts ++ [last]) = joinTexts separator texts ++ separator ++ last
  | [], h => absurd rfl h
  | [_], _ => rfl
  | s :: t :: rest, _ => by
      have ih := joinTexts_concat separator last (List.cons_ne_nil t rest)
      rw [List.cons_append] at ih
      rw [List.cons_append, List.cons_append, joinTexts_cons_cons, ih, joinTexts_cons_cons]
      simp only [String.append_assoc]

namespace SchemaChanges

open SchemaPath

/-- The line for a field that came or went. -/
def fieldLine (verb : String) (path : KeyPath) : String :=
  verb ++ " field '" ++ joinTexts "." path ++ "'"

/-- **What is added to or removed from a document of a schema**: a field, or all the fields below
one. -/
inductive Entered : List Value → Option Value → Prop
  | field {path : KeyPath} (ne : path ≠ []) (v : Option Value) : Entered (fieldTokens path) v
  | level {path : KeyPath} (ne : path ≠ []) {level : Fields} (given : level ≠ []) :
      Entered (levelTokens path) (some level.toWire)

theorem childNames_toWire (level : Fields) :
    childNames (some level.toWire) = .ok (Entries.keys level) := by
  cases level with
  | nil => rfl
  | cons e rest =>
      have htruthy : (toWire (e :: rest)).truthy = true := by rw [toWire, levelToWire]; rfl
      rw [childNames, Option.getD_some, Value.orElse, if_pos htruthy]
      change Except.ok (((levelToWire (e :: rest)).map fun e => Value.scalar e.1).map _) = _
      rw [levelToWire_eq, List.map_map, List.map_map]
      rfl

theorem entryLines_field (verb link : String) {path : KeyPath} (ne : path ≠ []) (v : Option Value) :
    entryLines verb link (fieldTokens path) v = .ok [fieldLine verb path] := by
  rw [entryLines, split_fieldTokens ne]
  rfl

/-- **A level that comes or goes has a line for each of its fields.** -/
theorem entryLines_level (verb link : String) {path : KeyPath} (ne : path ≠ []) (level : Fields) :
    entryLines verb link (levelTokens path) (some level.toWire) =
      .ok ((Entries.keys level).map fun key => fieldLine verb (path ++ [key])) := by
  rw [entryLines, levelTokens_of_ne_nil ne, split_member ne]
  simp only [if_true, childNames_toWire]
  refine congrArg Except.ok (List.map_congr_left fun key _ => ?_)
  rw [fieldLine, joinTexts_concat "." key ne]
  simp only [String.append_assoc]

/-- **Whatever is added or removed has a line.** -/
theorem entryLines_of_entered (verb link : String) {path : List Value} {v : Option Value}
    (h : Entered path v) : ∃ ls, ls ≠ [] ∧ entryLines verb link path v = .ok ls := by
  cases h with
  | field ne => exact ⟨_, List.cons_ne_nil _ _, entryLines_field verb link ne v⟩
  | level ne given =>
      refine ⟨_, fun hnil => ?_, entryLines_level verb link ne _⟩
      exact given (List.map_eq_nil_iff.mp (List.map_eq_nil_iff.mp hnil))

end SchemaChanges

end AdminConsole
