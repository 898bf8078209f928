import AdminConsole.Permission.Table
import AdminConsole.Proofs.Permission.Parity
import AdminConsole.Proofs.Value.Agreement

/-!
# Proofs/Permission/EditedRows — what the rows of an edited table do

An edited row asks for what each permission of an entity shall count as.  Cell by cell, a flag that
counts otherwise is turned over, so the set of the entity becomes `showAll` of it, and a row that
shows what is there changes nothing (`applyRows_of_shown`).

The rows of distinct entities do not meet, so after all of them each set shows its own row
(`applyRows_eq`).  While a load is under way the first edited cell is refused, and with it all rows
(`applyRows_of_loading`).
-/

namespace AdminConsole

/-! ## What the flags of a set count as -/

namespace Flags

variable {f : Flags}

theorem isSet_flip (f : Flags) (permission name : Scalar) :
    (f.flip permission).isSet name = if permission = name then !f.isSet name else f.isSet name := by
  rw [isSet, stored_flip]
  split <;> rfl

/-- Whether flags count as wanted. -/
def Shows (f : Flags) (cells : List (String × Bool)) : Prop :=
  ∀ c ∈ cells, f.isSet (.text c.1) = c.2

/-- The set in which one flag counts as wanted. -/
def showing (f : Flags) (permission : String) (value : Bool) : Flags :=
  if f.isSet (.text permission) = value then f else f.flip (.text permission)

/-- **The set in which flags count as wanted**, one after another. -/
def showAll (f : Flags) (cells : List (String × Bool)) : Flags :=
  cells.foldl (fun f c => f.showing c.1 c.2) f

theorem showAll_cons (f : Flags) (cell : String × Bool) (cells : List (String × Bool)) :
    f.showAll (cell :: cells) = (f.showing cell.1 cell.2).showAll cells := rfl

/-- **A flag that is not named stays**, and what is stored for it. -/
theorem get?_showing_of_ne {permission : String} {name : Scalar} (h : name ≠ .text permission)
    (value : Bool) : Entries.get? name (f.showing permission value) = Entries.get? name f := by
  rw [showing]
  split
  · rfl
  · exact Entries.get?_put_of_ne h _ f

theorem get?_showAll_of_not_mem {name : Scalar} {cells : List (String × Bool)}
    (h : ∀ c ∈ cells, name ≠ .text c.1) :
    Entries.get? name (f.showAll cells) = Entries.get? name f := by
  induction cells generalizing f with
  | nil => rfl
  | cons c rest ih =>
    obtain ⟨hc, hrest⟩ := List.forall_mem_cons.mp h
    rw [showAll_cons, ih hrest, get?_showing_of_ne hc]

/-- A set that shows all values already stays as it is. -/
theorem showAll_of_shows {cells : List (String × Bool)} (h : f.Shows cells) :
    f.showAll cells = f := by
  induction cells with
  | nil => rfl
  | cons c rest ih =>
    obtain ⟨hc, hrest⟩ := List.forall_mem_cons.mp h
    rw [showAll_cons, showing, if_pos hc, ih hrest]

theorem isSet_showing (f : Flags) (permission : String) (value : Bool) :
    (f.showing permission value).isSet (.text permission) = value := by
  rw [showing]
  split
  · assumption
  · rw [isSet_flip, if_pos rfl]
    cases hf : f.isSet (.text permission) <;> cases value <;> simp_all

theorem isSet_showing_of_ne {permission p : String} (h : p ≠ permission) (value : Bool) :
    (f.showing permission value).isSet (.text p) = f.isSet (.text p) := by
  rw [isSet, isSet, stored, stored, get?_showing_of_ne (mt Scalar.text.inj h)]

/-- **Afterwards every named flag counts as wanted.** -/
theorem shows_showAll {cells : List (String × Bool)} (distinct : (Entries.keys cells).Nodup) :
    (f.showAll cells).Shows cells := by
  induction cells generalizing f with
  | nil => nofun
  | cons c rest ih =>
    obtain ⟨hfresh, hrest⟩ := List.nodup_cons.mp distinct
    refine List.forall_mem_cons.mpr ⟨?_, fun d hd => ih hrest d hd⟩
    -- what comes after does not name this permission again
    have hkept := get?_showAll_of_not_mem (f := f.showing c.1 c.2)
      fun d hd (he : Scalar.text c.1 = _) => hfresh (Scalar.text.inj he ▸ List.mem_map_of_mem hd)
    rw [showAll_cons, isSet, stored, hkept]
    exact isSet_showing f c.1 c.2

end Flags

namespace Matrix

variable {m : Matrix} {entity permission : String} {old shown : Flags} {value : Bool}

/-! ## One row -/

/-- **A flag that counts otherwise is turned over.** -/
theorem setPermission_of_ne (known : permission ∈ Flags.vocabulary) (idle : m.loading = false)
    (cell : Entries.get? entity m.current = some old) (h : old.isSet (.text permission) ≠ value) :
    m.setPermission entity permission value =
      .ok (m.putCell entity (old.flip (.text permission)), old.flip (.text permission)) := by
  have hsame : ¬ (!m.loading && (old.stored (.text permission)).same (.bool value)) = true := by
    rw [idle, Bool.not_false, Bool.true_and]
    exact fun hs => h (Value.truthy_of_same_bool hs)
  rw [setPermission, if_neg (by simpa using known), cell]
  dsimp only
  rw [if_neg hsame, toggle, if_neg (by simpa using known), if_neg (by simp [idle]), cell]
  rfl

/-- The fault of an edit while a load is under way. -/
def stillLoading (m : Matrix) (entity : String) : Fault :=
  m.refuse entity "permissions are still loading"

/-- **While a load is under way no flag is set**, not even to what it counts as. -/
theorem setPermission_of_loading (known : permission ∈ Flags.vocabulary)
    (loading : m.loading = true) (entity : String) (value : Bool) :
    m.setPermission entity permission value = .error (m.stillLoading entity) := by
  have refused : m.toggle entity permission = .error (m.stillLoading entity) := by
    rw [toggle, if_neg (by simpa using known), if_pos loading, stillLoading]
  rw [setPermission, if_neg (by simpa using known), refused]
  cases Entries.get? entity m.current <;> simp [loading]

/-- The cells of a row that count otherwise in a set. -/
def unlike (flags : Flags) (cells : List (String × Bool)) : List (String × Bool) :=
  cells.filter fun c => decide (flags.isSet (.text c.1) ≠ c.2)

theorem unlike_eq_nil_iff {flags : Flags} {cells : List (String × Bool)} :
    unlike flags cells = [] ↔ flags.Shows cells := by
  simp [unlike, Flags.Shows]

/-- A row under way: the set of the entity still counts as at first for the cells to come. -/
structure UnderWay (m : Matrix) (entity : String) (shown old : Flags)
    (cells : List (String × Bool)) : Prop where
  distinct : (Entries.keys cells).Nodup
  known : ∀ c ∈ cells, c.1 ∈ Flags.vocabulary
  idle : m.loading = false
  cell : Entries.get? entity m.current = some old
  agree : ∀ c ∈ cells, old.isSet (.text c.1) = shown.isSet (.text c.1)

variable {cells : List (String × Bool)}

theorem UnderWay.skip (h : UnderWay m entity shown old ((permission, value) :: cells)) :
    UnderWay m entity shown old cells where
  distinct := (List.nodup_cons.mp h.distinct).2
  known := (List.forall_mem_cons.mp h.known).2
  idle := h.idle
  cell := h.cell
  agree := (List.forall_mem_cons.mp h.agree).2

/-- **One flag turned over** does not touch the cells to come. -/
theorem UnderWay.turn (h : UnderWay m entity shown old ((permission, value) :: cells))
    (hne : old.isSet (.text permission) ≠ value) :
    Edit m (m.putCell entity (old.flip (.text permission))) ∧
      UnderWay (m.putCell entity (old.flip (.text permission))) entity shown
        (old.showing permission value) cells := by
  have hset := setPermission_of_ne (List.forall_mem_cons.mp h.known).1 h.idle h.cell hne
  have edit := Edit.setPermission (m := m) entity permission value
  rw [hset] at edit
  refine ⟨edit, h.skip.distinct, h.skip.known, ?_, ?_, fun c hc => ?_⟩
  · exact (eq_of_withoutCells (Edits.frame (.single edit)).1).2.2.1.trans h.idle
  · rw [putCell_current, Entries.get?_put_self, Flags.showing, if_neg hne]
  · have hc' : c.1 ≠ permission := by
      rintro rfl
      exact (List.nodup_cons.mp h.distinct).1 (Entries.mem_keys_of_mem hc)
    rw [Flags.isSet_showing_of_ne hc', h.skip.agree c hc]

/-- **What a row does**: as many edits as there are cells that count otherwise, after which the set
of the entity shows the row. -/
theorem UnderWay.applyCells_eq (n : Nat) (h : UnderWay m entity shown old cells) :
    ∃ m', applyCells entity shown cells n m = (.ok (n + (unlike shown cells).length), m') ∧
      Edits m m' ∧ m'.entities = m.entities ∧ ∀ e, Entries.get? e m'.current =
        if e = entity then some (old.showAll cells) else Entries.get? e m.current := by
  induction cells generalizing n m old with
  | nil =>
    refine ⟨m, rfl, .refl, rfl, fun e => ?_⟩
    by_cases he : e = entity
    · rw [if_pos he, he]
      exact h.cell
    · rw [if_neg he]
  | cons c rest ih =>
    obtain ⟨permission, value⟩ := c
    have hagree := h.agree _ List.mem_cons_self
    by_cases hc : shown.isSet (.text permission) = value
    · obtain ⟨m', happly, hedits, hentities, hcells⟩ := ih n h.skip
      refine ⟨m', ?_, hedits, hentities, ?_⟩
      · rw [applyCells, if_pos hc, happly, unlike, unlike,
          List.filter_cons_of_neg (by simpa using hc)]
      · rw [Flags.showAll_cons, Flags.showing, if_pos (hagree.trans hc)]
        exact hcells
    · have hne := hagree.trans_ne hc
      obtain ⟨edit, hturned⟩ := h.turn hne
      obtain ⟨m', happly, hedits, hentities, hcells⟩ := ih (n + 1) hturned
      refine ⟨m', ?_, hedits.head edit, hentities.trans ?_, fun e => ?_⟩
      · rw [applyCells, if_neg hc,
          setPermission_of_ne (h.known _ List.mem_cons_self) h.idle h.cell hne]
        refine happly.trans ?_
        rw [unlike, unlike, List.filter_cons_of_pos (by simpa using hc), List.length_cons,
          Nat.add_right_comm, Nat.add_assoc]
      · rw [entities, putCell_current,
          Entries.keys_put_of_mem _ (Entries.mem_keys_iff.mpr ⟨old, h.cell⟩), entities]
      · rw [hcells, putCell_current]
        by_cases he : e = entity
        · rw [if_pos he, if_pos he, Flags.showAll_cons]
        · rw [if_neg he, if_neg he, Entries.get?_put_of_ne he]

/-- A row that shows what is there changes nothing. -/
theorem applyCells_of_shown (entity : String) (n : Nat) (m : Matrix)
    (h : shown.Shows cells) : applyCells entity shown cells n m = (.ok n, m) := by
  induction cells with
  | nil => rfl
  | cons c rest ih =>
    obtain ⟨hc, hrest⟩ := List.forall_mem_cons.mp h
    rw [applyCells, if_pos hc, ih hrest]

/-- **The first edited cell of a row is refused** while a load is under way. -/
theorem applyCells_of_loading (loading : m.loading = true)
    (known : ∀ c ∈ cells, c.1 ∈ Flags.vocabulary) (n : Nat) (edited : unlike shown cells ≠ []) :
    applyCells entity shown cells n m = (.error (m.stillLoading entity), m) := by
  induction cells with
  | nil => exact absurd rfl edited
  | cons c rest ih =>
    obtain ⟨hknown, hrest⟩ := List.forall_mem_cons.mp known
    rw [applyCells]
    by_cases hc : shown.isSet (.text c.1) = c.2
    · rw [if_pos hc]
      refine ih hrest ?_
      rwa [unlike, List.filter_cons_of_neg (by simpa using hc)] at edited
    · rw [if_neg hc, setPermission_of_loading hknown loading]

/-! ## All rows -/

/-- What the values of a row ask for. -/
abbrev wanted (values : List Bool) : List (String × Bool) := Flags.vocabulary.zip values

theorem known_of_mem_wanted {values : List Bool} : ∀ c ∈ wanted values, c.1 ∈ Flags.vocabulary :=
  fun _ hc => (List.of_mem_zip hc).1

theorem nodup_wanted (values : List Bool) : (Entries.keys (wanted values)).Nodup := by
  rw [Entries.keys, wanted, List.zip_eq_zip_take_min, List.map_fst_zip (by simp)]
  exact List.Nodup.sublist (List.take_sublist _ _) (by decide)

/-- The set that an edited table leaves for an entity. -/
def afterRows (rows : List EditedRow) (entity : String) (flags : Flags) : Flags :=
  match Entries.get? entity rows with
  | some values => flags.showAll (wanted values)
  | none => flags

theorem afterRows_cons_of_ne {e : String} (h : entity ≠ e) (values : List Bool)
    (rest : List EditedRow) : afterRows ((entity, values) :: rest) e = afterRows rest e := by
  unfold afterRows
  rw [Entries.get?_cons, if_neg h]

/-- The cells of a row that count otherwise than the matrix shows; none without a cell. -/
def editedInRow (m : Matrix) (row : EditedRow) : List (String × String × Bool) :=
  match Entries.get? row.1 m.current with
  | some flags => (unlike flags (wanted row.2)).map (Prod.mk row.1)
  | none => []

/-- **The edited cells**: those of entities with a cell that count otherwise than the matrix
shows. -/
def editedCells (m : Matrix) (rows : List EditedRow) : List (String × String × Bool) :=
  rows.flatMap m.editedInRow

theorem editedCells_congr {m' : Matrix} {rows : List EditedRow}
    (h : ∀ row ∈ rows, Entries.get? row.1 m'.current = Entries.get? row.1 m.current) :
    m'.editedCells rows = m.editedCells rows :=
  List.flatMap_congr fun row hrow => by rw [editedInRow, editedInRow, h row hrow]

/-- Whether rows show the cells as they are. -/
def Shown (m : Matrix) (rows : List EditedRow) : Prop :=
  ∀ row ∈ rows, ∀ flags, Entries.get? row.1 m.current = some flags → flags.Shows (wanted row.2)

theorem editedInRow_eq_nil_iff {row : EditedRow} :
    m.editedInRow row = [] ↔
      ∀ flags, Entries.get? row.1 m.current = some flags → flags.Shows (wanted row.2) := by
  rw [editedInRow]
  cases Entries.get? row.1 m.current with
  | none => simp
  | some flags =>
    rw [List.map_eq_nil_iff, unlike_eq_nil_iff]
    exact ⟨fun h _ hflags => Option.some.inj hflags ▸ h, fun h => h flags rfl⟩

/-- **No cell is edited exactly if the rows show what is there.** -/
theorem editedCells_eq_nil_iff {rows : List EditedRow} : m.editedCells rows = [] ↔ m.Shown rows := by
  rw [editedCells, List.flatMap_eq_nil_iff]
  exact forall₂_congr fun _ _ => editedInRow_eq_nil_iff

/-- A matrix after edits that leave in each cell what rows ask for. -/
structure TakenOver (m : Matrix) (rows : List EditedRow) (m' : Matrix) : Prop where
  edits : Edits m m'
  entities : m'.entities = m.entities
  cells : ∀ e, Entries.get? e m'.current = (Entries.get? e m.current).map (afterRows rows e)

/-- Rows that show what is there ask for nothing else. -/
theorem takenOver_of_shown {rows : List EditedRow} (shown : m.Shown rows) :
    TakenOver m rows m where
  edits := .refl
  entities := rfl
  cells e := by
    cases hc : Entries.get? e m.current with
    | none => rfl
    | some flags =>
      rw [Option.map_some, afterRows]
      split
      · rename_i values hrow
        rw [Flags.showAll_of_shows (shown _ (Entries.mem_of_get? hrow) flags hc)]
      · rfl

/-- **What edited rows do**: as many edits as there are edited cells, after which the set of each
entity shows its row. -/
theorem applyRows_eq {rows : List EditedRow} (n : Nat) (distinct : (Entries.keys rows).Nodup)
    (idle : m.loading = false) :
    ∃ m', applyRows rows n m = (.ok (n + (m.editedCells rows).length), m') ∧
      TakenOver m rows m' := by
  induction rows generalizing n m with
  | nil => exact ⟨m, rfl, .refl, rfl, fun e => Option.map_id'.symm⟩
  | cons row rest ih =>
    obtain ⟨entity, values⟩ := row
    obtain ⟨hfresh, hrest⟩ := List.nodup_cons.mp distinct
    rw [applyRows, editedCells, List.flatMap_cons, editedInRow]
    cases hc : Entries.get? entity m.current with
    | none =>
      obtain ⟨m', happly, hedits, hentities, hcells⟩ := ih n hrest idle
      refine ⟨m', happly, hedits, hentities, fun e => ?_⟩
      rw [hcells]
      by_cases he : entity = e
      · rw [← he, hc]
        rfl
      · rw [afterRows_cons_of_ne he]
    | some shown =>
      have underWay : UnderWay m entity shown shown (wanted values) :=
        ⟨nodup_wanted values, known_of_mem_wanted, idle, hc, fun _ _ => rfl⟩
      obtain ⟨m₁, hrow, hedits₁, hentities₁, hcells₁⟩ := underWay.applyCells_eq n
      have idle₁ := (eq_of_withoutCells hedits₁.frame.1).2.2.1.trans idle
      obtain ⟨m', happly, hedits, hentities, hcells⟩ :=
        ih (n + (unlike shown (wanted values)).length) hrest idle₁
      -- the rows to come are of other entities, so they find the cells as they were
      have hedited : m₁.editedCells rest = m.editedCells rest :=
        editedCells_congr fun row hmem => by
          rw [hcells₁, if_neg]
          rintro rfl
          exact hfresh (Entries.mem_keys_of_mem hmem)
      refine ⟨m', ?_, hedits₁.trans hedits, hentities.trans hentities₁, fun e => ?_⟩
      · dsimp only
        rw [hrow]
        refine happly.trans ?_
        rw [hedited, List.length_append, List.length_map, Nat.add_assoc, editedCells]
      · rw [hcells, hcells₁]
        by_cases he : e = entity
        · subst he
          rw [if_pos rfl, hc, Option.map_some, Option.map_some, afterRows, afterRows,
            Entries.not_mem_keys_iff.mp hfresh, Entries.get?_cons, if_pos rfl]
        · rw [if_neg he, afterRows_cons_of_ne (Ne.symm he)]

/-- **Rows that show what is there change nothing.** -/
theorem applyRows_of_shown {rows : List EditedRow} (n : Nat) (shown : m.Shown rows) :
    applyRows rows n m = (.ok n, m) := by
  induction rows with
  | nil => rfl
  | cons row rest ih =>
    obtain ⟨hrow, hrest⟩ := List.forall_mem_cons.mp shown
    rw [applyRows]
    cases hc : Entries.get? row.1 m.current with
    | none => exact ih hrest
    | some flags =>
      dsimp only
      rw [applyCells_of_shown row.1 n m (hrow flags hc)]
      exact ih hrest

/-- **The first edited cell is refused** while a load is under way, and nothing is changed. -/
theorem applyRows_of_loading {rows : List EditedRow} (loading : m.loading = true) (n : Nat)
    {cell : String × String × Bool} {others : List (String × String × Bool)}
    (edited : m.editedCells rows = cell :: others) :
    applyRows rows n m = (.error (m.stillLoading cell.1), m) := by
  induction rows with
  | nil => cases edited
  | cons row rest ih =>
    rw [editedCells, List.flatMap_cons, ← editedCells, editedInRow] at edited
    rw [applyRows]
    cases hc : Entries.get? row.1 m.current with
    | none =>
      rw [hc] at edited
      exact ih edited
    | some shown =>
      rw [hc] at edited
      dsimp only at edited ⊢
      cases hu : unlike shown (wanted row.2) with
      | nil =>
        rw [hu] at edited
        rw [applyCells_of_shown row.1 n m (unlike_eq_nil_iff.mp hu)]
        exact ih edited
      | cons first more =>
        rw [hu] at edited
        obtain ⟨rfl, -⟩ := List.cons.inj edited
        rw [applyCells_of_loading loading known_of_mem_wanted n (hu ▸ List.cons_ne_nil first more)]

end Matrix

end AdminConsole
