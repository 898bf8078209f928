import AdminConsole.Proofs.Permission.EditedRows
import AdminConsole.Proofs.Permission.Orderly

/-!
# Proofs/Permission/EditedTable — taking over an edited table

After rows that were taken over (`TakenOver`) the table of the matrix is the edited table, nothing
else has changed, and taking the table over again finds nothing to do (`Synchronised`).

While a load is under way a table with an edited cell is refused; every other table is taken over
(`applyEdits_table`).  There are cells under a load only where a commit recorded a write after the
load had begun, so nothing is refused after an orderly run.
-/

namespace AdminConsole.Matrix

variable {m : Matrix} {entity : String}

/-! ## Tables -/

/-- The rows of entities with a cell. -/
def loadedRows (m : Matrix) (rows : List EditedRow) : List EditedRow :=
  rows.filter fun row => Entries.has row.1 m.current

/-- Edited rows as a table. -/
def tableOf (rows : List EditedRow) : Table where
  columns := Flags.vocabulary
  rows := rows.map fun row => row.2.map .bool
  index := some (Entries.keys rows)

/-- The rows of a table that nobody edited. -/
def unedited (m : Matrix) (entities : List String) : List EditedRow :=
  entities.map fun entity => (entity, m.shownRow entity)

theorem tableOf_unedited (m : Matrix) (entities : List String) :
    tableOf (m.unedited entities) = m.table entities := by
  simp [tableOf, unedited, table, Entries.keys, Function.comp_def]

theorem mem_keys_loadedRows {rows : List EditedRow} {e : String} :
    e ∈ Entries.keys (m.loadedRows rows) ↔ e ∈ Entries.keys rows ∧ e ∈ m.entities := by
  have hloaded : Entries.has e m.current = true ↔ e ∈ m.entities := Entries.has_iff_mem_keys
  rw [← hloaded]
  simp [Entries.keys, loadedRows]

/-- **A set that shows all values of a row has them as its own row.** -/
theorem shownRow_eq {flags : Flags} {values : List Bool}
    (cell : Entries.get? entity m.current = some flags)
    (wide : values.length = Flags.vocabulary.length)
    (shown : flags.Shows (wanted values)) : m.shownRow entity = values := by
  have hnames : (wanted values).map Prod.fst = Flags.vocabulary := List.map_fst_zip wide.ge
  have hvalues : (wanted values).map Prod.snd = values := List.map_snd_zip wide.le
  rw [shownRow, cell, Option.getD_some]
  calc Flags.vocabulary.map (fun p => flags.isSet (.text p))
      = (wanted values).map fun c => flags.isSet (.text c.1) := by rw [← hnames, List.map_map]; rfl
    _ = (wanted values).map Prod.snd := List.map_congr_left shown
    _ = values := hvalues

/-- A row that nobody edited shows what is there. -/
theorem shown_of_mem_unedited {flags : Flags}
    (cell : Entries.get? entity m.current = some flags) :
    flags.Shows (wanted (m.shownRow entity)) := by
  intro c hc
  rw [shownRow, cell, Option.getD_some, wanted, ← List.map_id Flags.vocabulary, List.map_map,
    List.zip_map'] at hc
  obtain ⟨p, -, rfl⟩ := List.mem_map.mp hc
  rfl

/-! ## Matrices after an edited table -/

/-- Whether a flag that no edit can name counts otherwise in the cell of an entity than in its
baseline. -/
def StraysAt (m : Matrix) (e : String) : Prop :=
  ∃ name ∉ editable, (flagAt m.current e name).truthy ≠ (flagAt m.baseline e name).truthy

/-- **A matrix in step with an edited table** that it took over.  It shows the edited rows of the
entities with a cell, and nothing else changed: not the subject, the state of the load, the baselines
and the entities, not an entity that is not in the table, and no flag outside the vocabulary. -/
structure Synchronised (m : Matrix) (rows : List EditedRow) (m' : Matrix) : Prop where
  table : m'.table (Entries.keys (m.loadedRows rows)) = tableOf (m.loadedRows rows)
  frame : m'.withoutCells = m.withoutCells
  baseline : m'.baseline = m.baseline
  entities : m'.entities = m.entities
  others : ∀ e ∉ Entries.keys (m.loadedRows rows),
    Entries.get? e m'.current = Entries.get? e m.current ∧
      Entries.get? e m'.pending = Entries.get? e m.pending
  outside : ∀ e old, Entries.get? e m.current = some old →
    ∃ flags, Entries.get? e m'.current = some flags ∧
      ∀ name ∉ editable, Entries.get? name flags = Entries.get? name old
  /-- An entity with a cell is pending exactly when its row differs from the baseline, or a flag does
  that the row cannot name. -/
  pending : ∀ row ∈ rows, row.1 ∈ m.entities → (row.1 ∈ Entries.keys m'.pending ↔
    (∃ c ∈ wanted row.2, (flagAt m.baseline row.1 (.text c.1)).truthy ≠ c.2) ∨ m.StraysAt row.1)
  /-- Taking the table over again changes nothing. -/
  again : m'.applyEdits rows = (.ok 0, m')

namespace TakenOver

variable {m' : Matrix} {rows : List EditedRow} (h : TakenOver m rows m')

include h

/-- **Each loaded entity of the table shows its row.** -/
theorem shows_rows (distinct : (Entries.keys rows).Nodup) : m'.Shown rows := by
  intro row hrow flags hflags
  rw [h.cells] at hflags
  obtain ⟨old, -, rfl⟩ := Option.map_eq_some_iff.mp hflags
  rw [afterRows, Entries.get?_of_mem distinct hrow]
  exact Flags.shows_showAll (nodup_wanted row.2)

/-- **A flag outside the vocabulary stays**, and what is stored for it. -/
theorem get?_outside (e : String) {old : Flags} (cell : Entries.get? e m.current = some old) :
    ∃ flags, Entries.get? e m'.current = some flags ∧
      ∀ name ∉ editable, Entries.get? name flags = Entries.get? name old := by
  refine ⟨afterRows rows e old, by rw [h.cells, cell, Option.map_some], fun name outside => ?_⟩
  rw [afterRows]
  split
  · refine Flags.get?_showAll_of_not_mem fun c hc => ?_
    rintro rfl
    exact outside (List.mem_map_of_mem (known_of_mem_wanted c hc))
  · rfl

/-- **An entity that is not in the table, or has no cell, is as before.** -/
theorem get?_current (e : String) (other : e ∉ Entries.keys (m.loadedRows rows)) :
    Entries.get? e m'.current = Entries.get? e m.current := by
  rw [h.cells]
  cases hc : Entries.get? e m.current with
  | none => rfl
  | some old =>
    have hloaded : e ∈ m.entities := Entries.mem_keys_iff.mpr ⟨old, hc⟩
    have hnone : Entries.get? e rows = none := by
      refine Entries.not_mem_keys_iff.mp fun hrow => other ?_
      exact mem_keys_loadedRows.mpr ⟨hrow, hloaded⟩
    rw [Option.map_some, afterRows, hnone]

theorem get?_pending (consistent : Consistent m) (e : String)
    (other : e ∉ Entries.keys (m.loadedRows rows)) :
    Entries.get? e m'.pending = Entries.get? e m.pending := by
  have hdiffers : m'.differs e = m.differs e := by
    funext flags
    rw [differs, differs, h.edits.frame.2]
  rw [(consistent.edits h.edits).get?_pending, consistent.get?_pending, h.get?_current e other,
    hdiffers]

/-- No edit can name a flag outside the vocabulary. -/
theorem flagAt_outside (e : String) {name : Scalar} (outside : name ∉ editable) :
    flagAt m'.current e name = flagAt m.current e name := by
  cases hc : Entries.get? e m.current with
  | none => rw [flagAt, flagAt, h.cells, hc, Option.map_none]
  | some old =>
    obtain ⟨flags, hflags, hkept⟩ := h.get?_outside e hc
    rw [flagAt, flagAt, hflags, hc, Option.getD_some, Option.getD_some, Flags.stored, Flags.stored,
      hkept name outside]

/-- **The matrix shows the edited table.** -/
theorem table_eq (distinct : (Entries.keys rows).Nodup)
    (wide : ∀ row ∈ rows, row.2.length = Flags.vocabulary.length) :
    m'.table (Entries.keys (m.loadedRows rows)) = tableOf (m.loadedRows rows) := by
  have hrows : ∀ row ∈ m.loadedRows rows, m'.shownRow row.1 = row.2 := by
    intro row hrow
    obtain ⟨hmem, hloaded⟩ := List.mem_filter.mp hrow
    obtain ⟨old, hold⟩ := Entries.mem_keys_iff.mp (Entries.has_iff_mem_keys.mp hloaded)
    obtain ⟨flags, hflags, -⟩ := h.get?_outside row.1 hold
    exact shownRow_eq hflags (wide row hmem) (h.shows_rows distinct row hmem flags hflags)
  rw [table, tableOf, Entries.keys, List.map_map]
  congr 1
  exact List.map_congr_left fun row hrow => congrArg (List.map Value.bool) (hrows row hrow)

/-- **A loaded entity of the table is pending exactly when its row differs from the baseline**, or a
flag does that the row cannot name. -/
theorem mem_keys_pending_iff (consistent : Consistent m) (based : Based m)
    (distinct : (Entries.keys rows).Nodup) {row : EditedRow} (hrow : row ∈ rows)
    (loaded : row.1 ∈ m.entities) (wide : row.2.length = Flags.vocabulary.length) :
    row.1 ∈ Entries.keys m'.pending ↔
      (∃ c ∈ wanted row.2, (flagAt m.baseline row.1 (.text c.1)).truthy ≠ c.2) ∨
        m.StraysAt row.1 := by
  have hbaseline := h.edits.frame.2
  have hcell : row.1 ∈ m'.entities := h.entities.symm ▸ loaded
  obtain ⟨flags, hflags⟩ := Entries.mem_keys_iff.mp hcell
  have hshown : ∀ c ∈ wanted row.2, (flagAt m'.current row.1 (.text c.1)).truthy = c.2 := by
    intro c hc
    rw [flagAt, hflags, Option.getD_some]
    exact h.shows_rows distinct row hrow flags hflags c hc
  rw [(consistent.edits h.edits).mem_keys_pending_iff_of_mem hcell
    (hbaseline.symm ▸ based loaded), hbaseline]
  constructor
  · rintro ⟨name, hne⟩
    by_cases hname : name ∈ editable
    · -- the row has a cell for each flag of the vocabulary
      obtain ⟨p, hp, rfl⟩ := List.mem_map.mp hname
      rw [← List.map_fst_zip wide.ge] at hp
      obtain ⟨c, hc, rfl⟩ := List.mem_map.mp hp
      exact .inl ⟨c, hc, fun he => hne ((hshown c hc).trans he.symm)⟩
    · rw [h.flagAt_outside row.1 hname] at hne
      exact .inr ⟨name, hname, hne⟩
  · rintro (⟨c, hc, hne⟩ | ⟨name, outside, hne⟩)
    · exact ⟨.text c.1, fun he => hne (he.symm.trans (hshown c hc))⟩
    · exact ⟨name, by rwa [h.flagAt_outside row.1 outside]⟩

/-- **What taking over an edited table leaves.** -/
theorem synchronised (consistent : Consistent m) (based : Based m)
    (distinct : (Entries.keys rows).Nodup)
    (wide : ∀ row ∈ rows, row.2.length = Flags.vocabulary.length) : Synchronised m rows m' where
  table := h.table_eq distinct wide
  frame := h.edits.frame.1
  baseline := h.edits.frame.2
  entities := h.entities
  others e other := ⟨h.get?_current e other, h.get?_pending consistent e other⟩
  outside e _ cell := h.get?_outside e cell
  pending row hrow loaded :=
    h.mem_keys_pending_iff consistent based distinct hrow loaded (wide row hrow)
  again := applyRows_of_shown 0 (h.shows_rows distinct)

end TakenOver

/-! ## Taking a table over -/

/-- Rows with an edited cell while a load is under way. -/
def Blocked (m : Matrix) (rows : List EditedRow) : Prop :=
  m.loading = true ∧ m.editedCells rows ≠ []

/-- **Rows that are not blocked are taken over.** -/
theorem exists_takenOver {rows : List EditedRow} (distinct : (Entries.keys rows).Nodup)
    (free : ¬ m.Blocked rows) :
    ∃ m', m.applyEdits rows = (.ok (m.editedCells rows).length, m') ∧ TakenOver m rows m' := by
  cases hl : m.loading with
  | false =>
    obtain ⟨m', happly, taken⟩ := applyRows_eq 0 distinct hl
    rw [Nat.zero_add] at happly
    exact ⟨m', happly, taken⟩
  | true =>
    have hnil : m.editedCells rows = [] := by
      by_contra edited
      exact free ⟨hl, edited⟩
    have shown := editedCells_eq_nil_iff.mp hnil
    refine ⟨m, ?_, takenOver_of_shown shown⟩
    rw [hnil]
    exact applyRows_of_shown 0 shown

theorem Orderly.not_blocked (h : Orderly m) (rows : List EditedRow) : ¬ m.Blocked rows := by
  rintro ⟨loading, edited⟩
  refine edited (editedCells_eq_nil_iff.mpr fun row _ flags hflags => ?_)
  rw [h.current_of_loading loading] at hflags
  cases hflags

theorem Orderly.not_straysAt (h : Orderly m) (e : String) : ¬ m.StraysAt e :=
  fun ⟨name, outside, hne⟩ => hne (congrArg Value.truthy (h.outside e name outside))

/-- **Taking over an edited table.**  Take any reachable matrix, and an edited table of distinct
entities with a value for each permission.

* It is refused if a load is under way and a cell was edited; then nothing is changed.
* Otherwise the answer is the number of edited cells, and the matrix is in step with the table
  (`Synchronised`).
* A table that nobody edited changes nothing.
* If no load began during a commit, no table is refused, and an entity of the table with a cell is
  pending afterwards exactly when its row differs from the baseline. -/
theorem applyEdits_table (h : Reachable m) {rows : List EditedRow}
    (distinct : (Entries.keys rows).Nodup)
    (wide : ∀ row ∈ rows, row.2.length = Flags.vocabulary.length) :
    (m.Blocked rows → ∃ cell ∈ (m.editedCells rows).head?,
      m.applyEdits rows = (.error (m.stillLoading cell.1), m)) ∧
    (¬ m.Blocked rows → ∃ m', m.applyEdits rows = (.ok (m.editedCells rows).length, m') ∧
      Synchronised m rows m') ∧
    (∀ entities, tableOf (m.unedited entities) = m.table entities ∧
      m.applyEdits (m.unedited entities) = (.ok 0, m)) ∧
    (OrderlyReachable m → ¬ m.Blocked rows ∧ ∀ e, ¬ m.StraysAt e) := by
  refine ⟨fun ⟨loading, edited⟩ => ?_, fun free => ?_, fun entities => ⟨tableOf_unedited m entities, ?_⟩,
    fun orderly => ⟨orderly.orderly.not_blocked rows, orderly.orderly.not_straysAt⟩⟩
  · obtain ⟨cell, others, hcells⟩ := List.exists_cons_of_ne_nil edited
    exact ⟨cell, by rw [hcells]; rfl, applyRows_of_loading loading 0 hcells⟩
  · obtain ⟨m', happly, taken⟩ := exists_takenOver distinct free
    exact ⟨m', happly, taken.synchronised h.consistent h.based distinct wide⟩
  · refine applyRows_of_shown 0 fun row hrow flags hflags => ?_
    obtain ⟨entity, -, rfl⟩ := List.mem_map.mp hrow
    exact shown_of_mem_unedited hflags

theorem orderlyReachable_toggledCell : OrderlyReachable toggledCell := by
  refine ⟨.int 4, {}, rfl, ?_⟩
  have begun := OrderlyRun.beginLoad (.nil {}) (.text "alice")
  have loaded := begun.applyBaseline 1 (.object [("orders", .object [("read", .bool true)])])
  exact loaded.edit (.toggle "orders" "read")

/-- A table with a row of an entity that has a cell, and one of an entity that has none. -/
def readAgain : List EditedRow :=
  [("orders", [true, false, false, false, false, false, false, false]),
    ("invoices", [true, true, true, true, true, true, true, true])]

/-- A matrix with a cell while a load is under way: the cell of `toggledCell` was written and
recorded after the load of another subject had begun, and edits were given up. -/
def strayCell : Matrix where
  subject := .text "bob"
  baseline := [("orders", [(.text "read", .bool false)])]
  current := [("orders", [(.text "read", .bool false)])]
  sequencer := ⟨2⟩
  loading := true

theorem reachable_strayCell : Reachable strayCell := by
  obtain ⟨n, m₀, created, run⟩ := orderlyReachable_toggledCell.reachable
  have written := run.commitPending
    (fun _ _ _ m st => (.ok (), (m.beginLoad (.text "bob")).1, st)) ()
    fun _ _ _ m _ => .beginLoad (.nil m) _
  exact ⟨n, m₀, created, written.edit .discard⟩

/-- Turning the flag on again is one edit, after which nothing is pending; under a load it is
refused. -/
theorem applyEdits_table_readAgain :
    (Reachable toggledCell ∧ (Entries.keys readAgain).Nodup ∧
      ∀ row ∈ readAgain, row.2.length = Flags.vocabulary.length) ∧
    (∃ m', toggledCell.applyEdits readAgain = (.ok 1, m') ∧ m'.entities = ["orders"] ∧
      "orders" ∉ Entries.keys m'.pending ∧ m'.applyEdits readAgain = (.ok 0, m')) ∧
    Reachable strayCell ∧
      strayCell.applyEdits readAgain = (.error (strayCell.stillLoading "orders"), strayCell) := by
  have distinct : (Entries.keys readAgain).Nodup := by decide
  have wide : ∀ row ∈ readAgain, row.2.length = Flags.vocabulary.length := by decide
  have reachable := orderlyReachable_toggledCell.reachable
  obtain ⟨-, htaken, -, horderly⟩ := applyEdits_table reachable distinct wide
  obtain ⟨hfree, hstray⟩ := horderly orderlyReachable_toggledCell
  obtain ⟨m', happly, sync⟩ := htaken hfree
  have hpending := sync.pending ("orders", [true, false, false, false, false, false, false, false])
    (by decide) (by decide)
  obtain ⟨cell, hcell, hrefused⟩ :=
    (applyEdits_table reachable_strayCell distinct wide).1 ⟨rfl, by decide⟩
  obtain rfl : cell = ("orders", "read", true) := (Option.some.inj hcell).symm
  refine ⟨⟨reachable, distinct, wide⟩, ⟨m', happly, sync.entities, fun hmem => ?_, sync.again⟩,
    reachable_strayCell, hrefused⟩
  rcases hpending.mp hmem with hdiffers | stray
  · exact absurd hdiffers (by decide)
  · exact hstray _ stray

/-- **An edited table is refused in a reachable matrix**: it has a cell while a load is under way. -/
theorem edits_refused_under_load :
    Reachable strayCell ∧ strayCell.loading = true ∧ "orders" ∈ strayCell.entities ∧
    (Entries.keys readAgain).Nodup ∧
    (∀ row ∈ readAgain, row.2.length = Flags.vocabulary.length) ∧
    strayCell.applyEdits readAgain =
      (.error (strayCell.refuse "orders" "permissions are still loading"), strayCell) :=
  ⟨reachable_strayCell, rfl, by decide, by decide, by decide, rfl⟩

end AdminConsole.Matrix
