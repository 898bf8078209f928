import AdminConsole.Diff
import AdminConsole.Proofs.Value.Agreement

/-!
# Proofs/Diff — the differences of two mappings, key by key

The differences of two mappings are those at each key of the first, and the keys that only the second
has (`compareAt_map`).  At a key that is not private the two values are compared, or the first is
removed; there is no difference at all where there is none at any key (`compareAt_map_eq_empty_iff`).
-/

namespace AdminConsole.Diff

variable {d e : Diff} {path : List Value} {as bs : List (Scalar × Value)}

/-- A key that is compared: it does not begin with two underscores. -/
def PublicKey (key : String) : Prop := ¬ ['_', '_'] <+: key.toList

instance : DecidablePred PublicKey := fun key => inferInstanceAs (Decidable (¬ _ <+: key.toList))

theorem isPrivate_text_eq_false_iff {key : String} :
    isPrivate (.text key) = false ↔ PublicKey key := by
  rw [isPrivate, PublicKey, ← List.isPrefixOf_iff_prefix, Bool.not_eq_true]

/-! ## Joining diffs -/

theorem append_eq_empty_iff : d ++ e = {} ↔ d = {} ∧ e = {} := by
  change append d e = {} ↔ _
  obtain ⟨values, kinds, added, removed⟩ := d
  obtain ⟨values', kinds', added', removed'⟩ := e
  simp only [append, Diff.mk.injEq, List.append_eq_nil_iff]
  tauto

@[simp] theorem append_valueChanges : (d ++ e).valueChanges = d.valueChanges ++ e.valueChanges := rfl

@[simp] theorem append_kindChanges : (d ++ e).kindChanges = d.kindChanges ++ e.kindChanges := rfl

@[simp] theorem append_added : (d ++ e).added = d.added ++ e.added := rfl

@[simp] theorem append_removed : (d ++ e).removed = d.removed ++ e.removed := rfl

@[simp] theorem append_empty (d : Diff) : d ++ {} = d := by
  change append d {} = d
  simp [append]

@[simp] theorem empty_append (d : Diff) : {} ++ d = d := rfl

theorem append_assoc (a b c : Diff) : a ++ b ++ c = a ++ (b ++ c) := by
  change append (append a b) c = append a (append b c)
  simp [append]

/-! ## Mappings -/

/-- The differences at one key of the first mapping. -/
def compareEntry (path : List Value) (bs : List (Scalar × Value)) (e : Scalar × Value) : Diff :=
  if isPrivate e.1 then {}
  else match Entries.get? e.1 bs with
    | some b => compareAt (path ++ [.scalar e.1]) e.2 b
    | none => { removed := [⟨path ++ [.scalar e.1], some e.2, none⟩] }

theorem compareEntries_cons (path : List Value) (e : Scalar × Value)
    (rest bs : List (Scalar × Value)) :
    compareEntries path (e :: rest) bs = compareEntry path bs e ++ compareEntries path rest bs := by
  rw [compareEntries.eq_def]
  rfl

/-- **The differences of two mappings** are those at the keys of the first, and the keys that only the
second has. -/
theorem compareAt_map (path : List Value) (as bs : List (Scalar × Value)) :
    compareAt path (.map as) (.map bs) =
      compareEntries path as bs ++ { added := addedEntries path as bs } := by
  rw [compareAt]

theorem compareEntry_of_private {e : Scalar × Value} (h : isPrivate e.1 = true) :
    compareEntry path bs e = {} := by
  rw [compareEntry, if_pos h]

theorem compareEntry_of_get? {e : Scalar × Value} {b : Value} (hp : isPrivate e.1 = false)
    (h : Entries.get? e.1 bs = some b) :
    compareEntry path bs e = compareAt (path ++ [.scalar e.1]) e.2 b := by
  rw [compareEntry, hp, h]
  rfl

theorem compareEntry_of_get?_eq_none {e : Scalar × Value} (hp : isPrivate e.1 = false)
    (h : Entries.get? e.1 bs = none) :
    compareEntry path bs e = { removed := [⟨path ++ [.scalar e.1], some e.2, none⟩] } := by
  rw [compareEntry, hp, h]
  rfl

theorem compareEntries_eq_empty_iff : ∀ {as : List (Scalar × Value)},
    compareEntries path as bs = {} ↔ ∀ e ∈ as, compareEntry path bs e = {}
  | [] => by rw [compareEntries]; simp
  | e :: rest => by
      have ih : compareEntries path rest bs = {} ↔ ∀ e ∈ rest, compareEntry path bs e = {} :=
        compareEntries_eq_empty_iff
      rw [compareEntries_cons, append_eq_empty_iff, ih, List.forall_mem_cons]

theorem addedEntries_eq_nil_iff (path : List Value) : addedEntries path as bs = [] ↔
    ∀ e ∈ bs, isPrivate e.1 = false → Entries.has e.1 as = true := by
  simp only [addedEntries, List.map_eq_nil_iff, List.filter_eq_nil_iff, Bool.and_eq_true,
    Bool.not_eq_true', not_and, Bool.not_eq_false]

/-- **Two mappings have no difference** if there is none at the keys of the first, and the second has
no others but private ones. -/
theorem compareAt_map_eq_empty_iff : compareAt path (.map as) (.map bs) = {} ↔
    (∀ e ∈ as, compareEntry path bs e = {}) ∧
      ∀ e ∈ bs, isPrivate e.1 = false → Entries.has e.1 as = true := by
  rw [compareAt_map, append_eq_empty_iff, compareEntries_eq_empty_iff,
    ← addedEntries_eq_nil_iff path]
  simp

/-! ## Scalars -/

theorem compareAt_scalar (path : List Value) (a b : Scalar) :
    compareAt path (.scalar a) (.scalar b) =
      if (Value.scalar a).kindName ≠ (Value.scalar b).kindName then
        { kindChanges := [⟨path, some (.scalar a), some (.scalar b)⟩] }
      else if a.same b then {}
      else { valueChanges := [⟨path, some (.scalar a), some (.scalar b)⟩] } := by
  rw [compareAt]
  · rfl
  all_goals simp

/-- The difference of two values of one kind: none if they are equal. -/
def valueDiff (path : List Value) (v w : Value) : Diff :=
  if v = w then {} else { valueChanges := [⟨path, some v, some w⟩] }

theorem valueDiff_eq_empty_iff {v w : Value} : valueDiff path v w = {} ↔ v = w := by
  rw [valueDiff]
  by_cases h : v = w <;> simp [h]

theorem compareAt_text (path : List Value) (s t : String) :
    compareAt path (.text s) (.text t) = valueDiff path (.text s) (.text t) := by
  have hsame : (Scalar.text s).same (.text t) = true ↔ Value.text s = .text t := by
    simp [Scalar.same, Scalar.integer?]
  rw [compareAt_scalar, if_neg (by simp [Value.kindName]), valueDiff]
  simp only [hsame]

theorem compareAt_bool (path : List Value) (b c : Bool) :
    compareAt path (.bool b) (.bool c) = valueDiff path (.bool b) (.bool c) := by
  rw [compareAt_scalar, if_neg (by simp [Value.kindName])]
  cases b <;> cases c <;> rfl

end AdminConsole.Diff
