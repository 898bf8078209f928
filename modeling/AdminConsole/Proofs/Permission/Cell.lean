import AdminConsole.Permission.Matrix
import AdminConsole.Proofs.Entries

/-!
# Proofs/Permission/Cell — what one operation does to the cells of a matrix

Two permission sets are equal when every flag counts the same in both, a missing one as off
(`same_iff`).  An edit either is refused and names the matrix error (`toggle_cases`,
`setPermission_cases`), or puts one set into one cell and brings its pending entry in line
(`putCell`).
-/

namespace AdminConsole

namespace Flags

/-- A missing flag is off. -/
theorem isSet_of_not_mem {f : Flags} {name : Scalar} (h : name ∉ Entries.keys f) :
    f.isSet name = false := by
  rw [isSet, stored, Entries.not_mem_keys_iff.mp h]
  rfl

theorem mem_names {a b : Flags} {name : Scalar} :
    name ∈ names a b ↔ name ∈ Entries.keys a ∨ name ∈ Entries.keys b := by
  rw [names, List.mem_append, List.mem_filter, ← Entries.has_iff_mem_keys]
  cases Entries.has name a <;> simp

/-- **Two sets are equal exactly when every flag counts the same in both.** -/
theorem same_iff {a b : Flags} : same a b = true ↔ ∀ name, a.isSet name = b.isSet name := by
  rw [same, List.all_eq_true]
  constructor
  · intro h name
    by_cases hn : name ∈ names a b
    · exact beq_iff_eq.mp (h name hn)
    · obtain ⟨ha, hb⟩ := not_or.mp (mt mem_names.mpr hn)
      rw [isSet_of_not_mem ha, isSet_of_not_mem hb]
  · intro h name _
    exact beq_iff_eq.mpr (h name)

@[simp] theorem same_self (f : Flags) : same f f = true := same_iff.mpr fun _ => rfl

end Flags

namespace Matrix

/-! ## Pending entries -/

/-- Whether a set for an entity differs from the entity's baseline. -/
def differs (m : Matrix) (entity : String) (flags : Flags) : Bool :=
  !Flags.same? (some flags) (Entries.get? entity m.baseline)

theorem refreshPending_eq (m : Matrix) (entity : String) (flags : Flags) :
    m.refreshPending entity flags = { m with
      pending := if m.differs entity flags then Entries.put entity flags m.pending
        else Entries.erase entity m.pending } := by
  rw [refreshPending, differs]
  cases Flags.same? (some flags) (Entries.get? entity m.baseline) <;> rfl

/-- **A refreshed entry is pending exactly when its set differs from the baseline.** -/
theorem get?_pending_refreshPending (m : Matrix) (entity e : String) (flags : Flags) :
    Entries.get? e (m.refreshPending entity flags).pending
      = if e = entity then (some flags).filter (m.differs entity) else Entries.get? e m.pending := by
  rw [refreshPending_eq, Option.filter_some]
  cases m.differs entity flags
  · exact Entries.get?_erase entity e m.pending
  · exact Entries.get?_put entity e flags m.pending

/-! ## Edits of one cell -/

/-- The matrix without its cells: the subject and the state of its load. -/
def withoutCells (m : Matrix) : Matrix := { m with baseline := [], current := [], pending := [] }

theorem eq_of_withoutCells {m m' : Matrix} (h : m'.withoutCells = m.withoutCells) :
    m'.subject = m.subject ∧ m'.sequencer = m.sequencer ∧ m'.loading = m.loading ∧
      m'.loadError = m.loadError := by
  simp only [withoutCells, Matrix.mk.injEq] at h
  exact ⟨h.2.1, h.2.2.2.2.2⟩

/-- The matrix with `flags` in the cell of an entity, the pending entry brought in line. -/
def putCell (m : Matrix) (entity : String) (flags : Flags) : Matrix :=
  ({ m with current := Entries.put entity flags m.current }).refreshPending entity flags

theorem putCell_eq (m : Matrix) (entity : String) (flags : Flags) :
    m.putCell entity flags = { m with
      current := Entries.put entity flags m.current
      pending := if m.differs entity flags then Entries.put entity flags m.pending
        else Entries.erase entity m.pending } :=
  refreshPending_eq _ entity flags

@[simp] theorem putCell_withoutCells (m : Matrix) (entity : String) (flags : Flags) :
    (m.putCell entity flags).withoutCells = m.withoutCells := by rw [putCell_eq]; rfl

@[simp] theorem putCell_baseline (m : Matrix) (entity : String) (flags : Flags) :
    (m.putCell entity flags).baseline = m.baseline := by rw [putCell_eq]

@[simp] theorem putCell_current (m : Matrix) (entity : String) (flags : Flags) :
    (m.putCell entity flags).current = Entries.put entity flags m.current := by rw [putCell_eq]

theorem get?_pending_putCell (m : Matrix) (entity e : String) (flags : Flags) :
    Entries.get? e (m.putCell entity flags).pending
      = if e = entity then (some flags).filter (m.differs entity) else Entries.get? e m.pending :=
  get?_pending_refreshPending _ entity e flags

/-- What makes a matrix refuse an edit: the fault names the entity and the subject. -/
def Refuses (m : Matrix) (entity : String) {α : Type} (answer : Except Fault α) : Prop :=
  ∃ reason, answer = .error (.console (.matrix (.text entity) reason m.subject))

/-- **A toggle is refused, or it turns over the flag of a cell that is there.** -/
theorem toggle_cases (m : Matrix) (entity permission : String) :
    m.Refuses entity (m.toggle entity permission) ∨
      ∃ old, Entries.get? entity m.current = some old ∧ m.loading = false ∧
        m.toggle entity permission = .ok
          (m.putCell entity (old.flip (.text permission)), old.flip (.text permission)) := by
  rw [toggle]
  by_cases hp : Flags.vocabulary.contains permission = true
  case neg => exact .inl ⟨_, by rw [if_pos (by simpa using hp)]; rfl⟩
  rw [if_neg (by simpa using hp)]
  by_cases hl : m.loading = true
  · exact .inl ⟨_, by rw [if_pos hl]; rfl⟩
  · rw [if_neg hl]
    cases hc : Entries.get? entity m.current with
    | none => exact .inl ⟨_, rfl⟩
    | some old => exact .inr ⟨old, rfl, by simpa using hl, rfl⟩

/-- **Setting a flag is refused, finds it set already, or is a toggle.** -/
theorem setPermission_cases (m : Matrix) (entity permission : String) (enabled : Bool) :
    m.Refuses entity (m.setPermission entity permission enabled) ∨
      (∃ old, Entries.get? entity m.current = some old ∧ m.loading = false ∧
        m.setPermission entity permission enabled = .ok (m, old)) ∨
      m.setPermission entity permission enabled = m.toggle entity permission := by
  rw [setPermission]
  by_cases hp : Flags.vocabulary.contains permission = true
  case neg => exact .inl ⟨_, by rw [if_pos (by simpa using hp)]; rfl⟩
  rw [if_neg (by simpa using hp)]
  cases hc : Entries.get? entity m.current with
  | none => exact .inr (.inr rfl)
  | some old =>
    dsimp only
    by_cases hs : (!m.loading && (old.stored (.text permission)).same (.bool enabled)) = true
    · have hl : m.loading = false := by
        rw [Bool.and_eq_true, Bool.not_eq_true'] at hs
        exact hs.1
      exact .inr (.inl ⟨old, rfl, hl, if_pos hs⟩)
    · exact .inr (.inr (if_neg hs))

/-! ## A set that was written -/

theorem written_of_none {m : Matrix} {entity : String} (flags : Flags)
    (h : Entries.get? entity m.current = none) :
    m.written entity flags = { m with
      baseline := Entries.put entity flags m.baseline
      pending := Entries.erase entity m.pending } := by
  simp only [written, h]

theorem written_of_some {m : Matrix} {entity : String} {current : Flags} (flags : Flags)
    (h : Entries.get? entity m.current = some current) :
    m.written entity flags = { m with
      baseline := Entries.put entity flags m.baseline
      pending := if Flags.same current flags then Entries.erase entity m.pending
        else Entries.put entity current m.pending } := by
  simp only [written, h, refreshPending, Entries.get?_put_self, Flags.same?]
  cases current.same flags <;> rfl

@[simp] theorem written_withoutCells (m : Matrix) (entity : String) (flags : Flags) :
    (m.written entity flags).withoutCells = m.withoutCells := by
  cases h : Entries.get? entity m.current with
  | none => rw [written_of_none flags h]; rfl
  | some current => rw [written_of_some flags h]; rfl

@[simp] theorem written_baseline (m : Matrix) (entity : String) (flags : Flags) :
    (m.written entity flags).baseline = Entries.put entity flags m.baseline := by
  cases h : Entries.get? entity m.current with
  | none => rw [written_of_none flags h]
  | some current => rw [written_of_some flags h]

@[simp] theorem written_current (m : Matrix) (entity : String) (flags : Flags) :
    (m.written entity flags).current = m.current := by
  cases h : Entries.get? entity m.current with
  | none => rw [written_of_none flags h]
  | some current => rw [written_of_some flags h]

/-- **A written entity stays pending exactly when its cell differs from what was written.** -/
theorem get?_pending_written (m : Matrix) (entity e : String) (flags : Flags) :
    Entries.get? e (m.written entity flags).pending
      = if e = entity then
          (Entries.get? entity m.current).filter fun current => !Flags.same current flags
        else Entries.get? e m.pending := by
  cases h : Entries.get? entity m.current with
  | none =>
    rw [written_of_none flags h]
    exact Entries.get?_erase entity e m.pending
  | some current =>
    rw [written_of_some flags h, Option.filter_some]
    cases Flags.same current flags
    · exact Entries.get?_put entity e current m.pending
    · exact Entries.get?_erase entity e m.pending

end Matrix

end AdminConsole
