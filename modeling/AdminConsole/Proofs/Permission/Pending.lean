import AdminConsole.Proofs.Permission.Run

/-!
# Proofs/Permission/Pending — the pending map is what differs from the baseline

`Consistent` says it in one equation: the pending entry of an entity is its cell if that differs
from the baseline, else there is none.  Every single step keeps it, so every run does, whatever
was raised on the way (`Reachable.consistent`, `pending_iff_differs`).
-/

namespace AdminConsole.Matrix

/-- The pending map holds the cells that differ from their baseline, each once, and nothing else. -/
structure Consistent (m : Matrix) : Prop where
  get?_pending : ∀ e, Entries.get? e m.pending = (Entries.get? e m.current).filter (m.differs e)
  distinct : (Entries.keys m.pending).Nodup

/-! ## What single steps do -/

/-- Cells that show the baseline have nothing pending. -/
theorem consistent_of_clean {m : Matrix} (current : m.current = m.baseline)
    (pending : m.pending = []) : Consistent m where
  get?_pending e := by
    rw [current, pending, Entries.get?_nil, eq_comm, Option.filter_eq_none_iff]
    intro flags hb
    simp [differs, hb, Flags.same?]
  distinct := by
    rw [pending]
    exact List.nodup_nil

theorem Consistent.putCell {m : Matrix} (h : Consistent m) (entity : String) (flags : Flags) :
    Consistent (m.putCell entity flags) where
  get?_pending e := by
    have hd : (m.putCell entity flags).differs e = m.differs e := by
      funext
      rw [differs, differs, putCell_baseline]
    rw [get?_pending_putCell, putCell_current, Entries.get?_put, hd]
    by_cases he : e = entity
    · rw [if_pos he, if_pos he, he]
    · rw [if_neg he, if_neg he, h.get?_pending e]
  distinct := by
    rw [putCell_eq]
    dsimp only
    split
    · exact Entries.nodup_keys_put entity flags h.distinct
    · exact Entries.nodup_keys_erase entity h.distinct

/-- **Taking over a written set** changes one baseline, and refreshes the entry of that entity. -/
theorem Consistent.written {m : Matrix} (h : Consistent m) (entity : String) (flags : Flags) :
    Consistent (m.written entity flags) where
  get?_pending e := by
    rw [get?_pending_written, written_current]
    by_cases he : e = entity
    · subst he
      rw [if_pos rfl]
      congr 1
      funext current
      rw [differs, written_baseline, Entries.get?_put_self]
      rfl
    · have hd : (m.written entity flags).differs e = m.differs e := by
        funext
        rw [differs, differs, written_baseline, Entries.get?_put, if_neg he]
      rw [if_neg he, hd, h.get?_pending e]
  distinct := by
    cases hc : Entries.get? entity m.current with
    | none =>
      rw [written_of_none flags hc]
      exact Entries.nodup_keys_erase entity h.distinct
    | some current =>
      rw [written_of_some flags hc]
      dsimp only
      split
      · exact Entries.nodup_keys_erase entity h.distinct
      · exact Entries.nodup_keys_put entity current h.distinct

theorem Consistent.edit {m m' : Matrix} (h : Consistent m) (edit : Edit m m') : Consistent m' := by
  rcases edit.cases with rfl | rfl | ⟨entity, _, flags, -, -, rfl⟩
  · exact h
  · exact consistent_of_clean rfl rfl
  · exact h.putCell entity flags

theorem Consistent.edits {m m' : Matrix} (h : Consistent m) (edits : Edits m m') :
    Consistent m' := by
  induction edits with
  | refl => exact h
  | tail _ edit ih => exact ih.edit edit

theorem consistent_beginLoad (m : Matrix) (subject : Value) : Consistent (m.beginLoad subject).1 :=
  consistent_of_clean rfl rfl

theorem consistent_install (m : Matrix) (rows : PermissionRows) : Consistent (m.install rows) :=
  consistent_of_clean rfl rfl

/-- A failed load touches no cell. -/
theorem Consistent.failed {m : Matrix} (h : Consistent m) (error : Fault) :
    Consistent { m with loading := false, loadError := some error } :=
  ⟨h.get?_pending, h.distinct⟩

/-! ## Runs -/

theorem stepInvariant_consistent : StepInvariant Consistent where
  edit edit h := h.edit edit
  beginLoad m subject _ := consistent_beginLoad m subject
  install m rows _ := consistent_install m rows
  fail _ error h := h.failed error
  written _ entity flags h := h.written entity flags

/-- A matrix that a run makes out of a new one. -/
def Reachable (m : Matrix) : Prop := ∃ n m₀, create n = .ok m₀ ∧ Run m₀ m

/-- **What every single step keeps holds of every reachable matrix**, if it holds of a new one. -/
theorem Reachable.keeps {P : Matrix → Prop} (steps : StepInvariant P)
    (new : ∀ n, P { maxParallel := n }) {m : Matrix} (h : Reachable m) : P m := by
  obtain ⟨n, m₀, created, run⟩ := h
  refine run.keeps steps ?_
  rw [eq_of_create created]
  exact new m₀.maxParallel

/-- **The pending map of a reachable matrix is consistent**, whatever was raised on the way. -/
theorem Reachable.consistent {m : Matrix} (h : Reachable m) : Consistent m :=
  h.keeps stepInvariant_consistent fun _ => consistent_of_clean rfl rfl

/-- Every cell has a baseline. -/
def Based (m : Matrix) : Prop := Entries.keys m.current ⊆ Entries.keys m.baseline

theorem Based.edit {m m' : Matrix} (h : Based m) (edit : Edit m m') : Based m' := by
  rcases edit.cases with rfl | rfl | ⟨entity, old, flags, hc, -, rfl⟩
  · exact h
  · exact List.Subset.refl _
  · rw [Based, putCell_baseline, putCell_current,
      Entries.keys_put_of_mem flags (Entries.mem_keys_iff.mpr ⟨old, hc⟩)]
    exact h

theorem Based.written {m : Matrix} (h : Based m) (entity : String) (flags : Flags) :
    Based (m.written entity flags) := by
  intro e he
  rw [written_current] at he
  rw [written_baseline]
  exact Entries.mem_keys_put.mpr (.inr (h he))

theorem stepInvariant_based : StepInvariant Based where
  edit edit h := h.edit edit
  beginLoad _ _ _ := List.Subset.refl _
  install _ _ _ := List.Subset.refl _
  fail _ _ h := h
  written _ entity flags h := h.written entity flags

/-- **In every reachable matrix each cell has a baseline.** -/
theorem Reachable.based {m : Matrix} (h : Reachable m) : Based m :=
  h.keeps stepInvariant_based fun _ => List.Subset.refl _

/-- The entries of a consistent pending map. -/
theorem Consistent.mem_pending_iff {m : Matrix} (h : Consistent m) {entity : String}
    {flags : Flags} : (entity, flags) ∈ m.pending ↔
      Entries.get? entity m.current = some flags ∧
        Flags.same? (some flags) (Entries.get? entity m.baseline) = false := by
  have hm : (entity, flags) ∈ m.pending ↔ Entries.get? entity m.pending = some flags :=
    ⟨Entries.get?_of_mem h.distinct, Entries.mem_of_get?⟩
  rw [hm, h.get?_pending, Option.filter_eq_some_iff, differs, Bool.not_eq_true']

/-- **After every step of every run the pending map is exact**: an entity with a cell is a key of
it exactly when the cell differs from the baseline, its entry is then the cell, and an entity
without a cell is no key. -/
theorem pending_iff_differs {m : Matrix} (h : Reachable m) (entity : String) :
    (∀ current, Entries.get? entity m.current = some current →
      (entity ∈ Entries.keys m.pending ↔
        Flags.same? (some current) (Entries.get? entity m.baseline) = false) ∧
      ∀ held, (entity, held) ∈ m.pending → held = current) ∧
    (entity ∉ Entries.keys m.current → entity ∉ Entries.keys m.pending) := by
  have hc := h.consistent
  refine ⟨fun current hcur => ⟨?_, fun held hheld => ?_⟩, fun hcur hpend => ?_⟩
  · rw [Entries.mem_keys_iff, hc.get?_pending, hcur, Option.filter_some, differs]
    cases Flags.same? (some current) (Entries.get? entity m.baseline) <;> simp
  · have hget := (hc.mem_pending_iff.mp hheld).1
    rw [hcur] at hget
    exact (Option.some.inj hget).symm
  · obtain ⟨held, hheld⟩ := Entries.mem_keys_iff.mp hpend
    have hget := (hc.mem_pending_iff.mp (Entries.mem_of_get? hheld)).1
    exact hcur (Entries.mem_keys_iff.mpr ⟨held, hget⟩)

/-- A matrix with one cell, one flag of which has been turned over. -/
def toggledCell : Matrix where
  subject := .text "alice"
  baseline := [("orders", [(.text "read", .bool true)])]
  current := [("orders", [(.text "read", .bool false)])]
  pending := [("orders", [(.text "read", .bool false)])]
  sequencer := ⟨1⟩

theorem reachable_toggledCell : Reachable toggledCell := by
  refine ⟨.int 4, {}, rfl, ?_⟩
  have begun := Run.beginLoad (.nil {}) (.text "alice")
  have loaded := begun.applyBaseline 1 (.object [("orders", .object [("read", .bool true)])])
  exact loaded.edit (.toggle "orders" "read")

theorem pending_iff_differs_toggledCell : Reachable toggledCell ∧
    ("orders" ∈ Entries.keys toggledCell.pending ↔
      Flags.same? (some [(.text "read", .bool false)])
        (Entries.get? "orders" toggledCell.baseline) = false) ∧
    "invoices" ∉ Entries.keys toggledCell.pending :=
  ⟨reachable_toggledCell, ((pending_iff_differs reachable_toggledCell "orders").1 _ rfl).1,
    (pending_iff_differs reachable_toggledCell "invoices").2 (by decide)⟩

end AdminConsole.Matrix
