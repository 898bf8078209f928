import AdminConsole.Proofs.Permission.Parity

/-!
# Proofs/Permission/Orderly — runs in which no load starts during a commit

An `OrderlyRun` is a run (`OrderlyRun.run`) in which the host only edits while the writes of a commit
are under way.  Three things hold after each of them that a load in the midst of a commit can spoil
(`Orderly`): the entities with a cell are those with a baseline, there is no cell while a load is
under way, and a flag outside the vocabulary, which no edit can name, is in every cell what it is in
the baseline.

A commit may move a baseline only to the cell that was there when it began
(`baseline_commitPending_cases`).
-/

namespace AdminConsole.Matrix

/-! ## Edits -/

/-- The names of the permissions that edits can change. -/
def editable : List Scalar := Flags.vocabulary.map .text

theorem toggle_of_unknown {permission : String} (unknown : permission ∉ Flags.vocabulary)
    (m : Matrix) (entity : String) :
    m.toggle entity permission = .error (m.refuse entity (unknownPermission permission)) := by
  rw [toggle, if_pos (by simpa using unknown)]

/-- **What an edit makes of the cells**: nothing, the baseline, or one flag of the vocabulary turned
over. -/
theorem Edit.current_cases {m m' : Matrix} (h : Edit m m') :
    m'.current = m.current ∨ m'.current = m.baseline ∨
      ∃ entity permission, entity ∈ Entries.keys m.current ∧ permission ∈ Flags.vocabulary ∧
        m'.current = turnOver m.current entity permission := by
  have toggled (entity permission : String) :
      (m.after (m.toggle entity permission)).current = m.current ∨
        ∃ e p, e ∈ Entries.keys m.current ∧ p ∈ Flags.vocabulary ∧
          (m.after (m.toggle entity permission)).current = turnOver m.current e p := by
    by_cases known : permission ∈ Flags.vocabulary
    case neg =>
      rw [toggle_of_unknown known]
      exact .inl rfl
    rcases m.toggle_cases entity permission with ⟨_, hr⟩ | ⟨old, hc, hl, -⟩
    · rw [hr]
      exact .inl rfl
    · exact .inr ⟨entity, permission, Entries.mem_keys_iff.mpr ⟨old, hc⟩, known,
        current_toggle hl known entity⟩
  cases h with
  | toggle entity permission => exact (toggled entity permission).imp_right .inr
  | setPermission entity permission enabled =>
    rcases m.setPermission_cases entity permission enabled with ⟨_, hr⟩ | ⟨_, _, _, hs⟩ | ht
    · rw [hr]
      exact .inl rfl
    · rw [hs]
      exact .inl rfl
    · rw [ht]
      exact (toggled entity permission).imp_right .inr
  | discard => exact .inr (.inl rfl)

/-- **A toggle leaves the flags outside the vocabulary as they are.** -/
theorem flagAt_turnOver_of_not_editable {cells : PermissionRows} {entity permission : String}
    {name : Scalar} (h : entity ∈ Entries.keys cells) (known : permission ∈ Flags.vocabulary)
    (outside : name ∉ editable) (e : String) :
    flagAt (turnOver cells entity permission) e name = flagAt cells e name := by
  rw [flagAt_turnOver h, if_neg]
  rintro ⟨-, rfl⟩
  exact outside (List.mem_map_of_mem known)

/-! ## Commits -/

/-- **A commit leaves a baseline as it is, or moves it to the cell that it found.** -/
theorem baseline_commitPending_cases {σ : Type} {m : Matrix} (h : Consistent m) {writer : Writer σ}
    (editing : ∀ subject entity flags m st, Edits m (writer subject entity flags m st).2.1) (st : σ)
    (e : String) :
    Entries.get? e (m.commitPending writer st).2.1.baseline = Entries.get? e m.baseline ∨
      Entries.get? e (m.commitPending writer st).2.1.baseline = Entries.get? e m.current := by
  have hbaseline := (get?_commitPending m writer st e).1
  rw [(edits_runWrites editing m.writtenSubject m.pending m st).frame.2] at hbaseline
  cases hlast : lastWritten (recorded (runWrites writer m.writtenSubject m.pending m st).1) e with
  | none =>
    rw [hlast] at hbaseline
    exact .inl hbaseline
  | some flags =>
    have hanswer := List.takeWhile_subset _ (mem_of_lastWritten hlast)
    have hsent := List.mem_map_of_mem (f := fun a : WriteAnswer => (a.1, a.2.1)) hanswer
    rw [answered_runWrites] at hsent
    rw [hlast] at hbaseline
    exact .inr (hbaseline.trans (h.mem_pending_iff.mp hsent).1.symm)

/-! ## Runs -/

/-- **Runs of operations in which no load starts during a commit**: who answers a load or a reset
may run operations of its own, and while writes are under way the host only edits. -/
inductive OrderlyRun : Matrix → Matrix → Prop
  | nil (m : Matrix) : OrderlyRun m m
  | edit {m m₁ m₂ : Matrix} (run : OrderlyRun m m₁) (edit : Edit m₁ m₂) : OrderlyRun m m₂
  | beginLoad {m m₁ : Matrix} (run : OrderlyRun m m₁) (subject : Value) :
      OrderlyRun m (m₁.beginLoad subject).1
  | applyBaseline {m m₁ : Matrix} (run : OrderlyRun m m₁) (tag : Int) (rows : Value) :
      OrderlyRun m (m₁.after (m₁.applyBaseline tag rows))
  | failLoad {m m₁ : Matrix} (run : OrderlyRun m m₁) (tag : Int) (error : Fault) :
      OrderlyRun m (m₁.failLoad tag error).1
  | loadBaseline {m m₁ : Matrix} {σ : Type} (run : OrderlyRun m m₁) (loader : Loader σ)
      (subject : Value) (st : σ)
      (loading : ∀ subject m st, OrderlyRun m (loader subject m st).2.1) :
      OrderlyRun m (Matrix.loadBaseline loader subject m₁ st).2.1
  | commitPending {m m₁ : Matrix} {σ : Type} (run : OrderlyRun m m₁) (writer : Writer σ) (st : σ)
      (editing : ∀ subject entity flags m st, Edits m (writer subject entity flags m st).2.1) :
      OrderlyRun m (m₁.commitPending writer st).2.1
  | restoreDefaults {m m₁ : Matrix} {σ : Type} (run : OrderlyRun m m₁) (resetter : Resetter σ)
      (loader : Loader σ) (entities : List String) (st : σ)
      (resetting : ∀ subject entity m st, OrderlyRun m (resetter subject entity m st).2.1)
      (loading : ∀ subject m st, OrderlyRun m (loader subject m st).2.1) :
      OrderlyRun m (m₁.restoreDefaults resetter loader entities st).2.1

theorem Edits.run {m m' : Matrix} (h : Edits m m') : Run m m' := by
  induction h with
  | refl => exact .nil m
  | tail _ edit ih => exact ih.edit edit

/-- **Orderly runs are runs.** -/
theorem OrderlyRun.run {m m' : Matrix} (run : OrderlyRun m m') : Run m m' := by
  induction run with
  | nil m => exact .nil m
  | edit _ edit ih => exact ih.edit edit
  | beginLoad _ subject ih => exact ih.beginLoad subject
  | applyBaseline _ tag rows ih => exact ih.applyBaseline tag rows
  | failLoad _ tag error ih => exact ih.failLoad tag error
  | loadBaseline _ loader subject st _ ih loading => exact ih.loadBaseline loader subject st loading
  | commitPending _ writer st editing ih =>
    exact ih.commitPending writer st fun subject entity flags m st =>
      (editing subject entity flags m st).run
  | restoreDefaults _ resetter loader entities st _ _ ih resetting loading =>
    exact ih.restoreDefaults resetter loader entities st resetting loading

/-- What orderly runs lead to from a new matrix. -/
def OrderlyReachable (m : Matrix) : Prop := ∃ n m₀, create n = .ok m₀ ∧ OrderlyRun m₀ m

/-- What holds after every orderly run. -/
structure Orderly (m : Matrix) : Prop where
  consistent : Consistent m
  cells : Entries.keys m.current = Entries.keys m.baseline
  idle : m.loading = true → m.baseline = []
  outside : ∀ e, ∀ name ∉ editable, flagAt m.current e name = flagAt m.baseline e name

/-- Cells that show the baseline are in order, if they are none while a load is under way. -/
theorem orderly_of_clean {m : Matrix} (current : m.current = m.baseline) (pending : m.pending = [])
    (idle : m.loading = true → m.baseline = []) : Orderly m where
  consistent := consistent_of_clean current pending
  cells := by rw [current]
  idle := idle
  outside _ _ _ := by rw [current]

/-- Without a cell while a load is under way, there is nothing to look up. -/
theorem Orderly.current_of_loading {m : Matrix} (h : Orderly m) (loading : m.loading = true) :
    m.current = [] := by
  have hkeys := h.cells
  rw [h.idle loading, Entries.keys_nil] at hkeys
  exact List.map_eq_nil_iff.mp hkeys

theorem Orderly.edit {m m' : Matrix} (h : Orderly m) (edit : Edit m m') : Orderly m' := by
  have edits : Edits m m' := .single edit
  obtain ⟨hframe, hbaseline⟩ := edits.frame
  refine ⟨h.consistent.edit edit, edits.keys_current h.cells, ?_, fun e name outside => ?_⟩
  · rw [(eq_of_withoutCells hframe).2.2.1, hbaseline]
    exact h.idle
  · rw [hbaseline]
    rcases edit.current_cases with hc | hc | ⟨entity, permission, hcell, known, hc⟩
    · rw [hc]
      exact h.outside e name outside
    · rw [hc]
    · rw [hc, flagAt_turnOver_of_not_editable hcell known outside]
      exact h.outside e name outside

theorem Orderly.edits {m m' : Matrix} (h : Orderly m) (edits : Edits m m') : Orderly m' := by
  induction edits with
  | refl => exact h
  | tail _ edit ih => exact ih.edit edit

theorem orderly_beginLoad (m : Matrix) (subject : Value) : Orderly (m.beginLoad subject).1 :=
  orderly_of_clean rfl rfl fun _ => rfl

theorem orderly_install (m : Matrix) (rows : PermissionRows) : Orderly (m.install rows) :=
  orderly_of_clean rfl rfl nofun

theorem Orderly.failed {m : Matrix} (h : Orderly m) (error : Fault) :
    Orderly { m with loading := false, loadError := some error } :=
  ⟨h.consistent.failed error, h.cells, nofun, h.outside⟩

theorem Orderly.loadBaseline {σ : Type} {loader : Loader σ}
    (loading : ∀ subject m st, Orderly m → Orderly (loader subject m st).2.1) (subject : Value)
    {m : Matrix} (st : σ) (h : Orderly m) :
    Orderly (Matrix.loadBaseline loader subject m st).2.1 :=
  loadBaseline_keeps (fun m subject _ => orderly_beginLoad m subject)
    (fun m rows _ => orderly_install m rows) (fun _ error h => h.failed error) loading subject st h

/-- **A commit keeps a matrix in order**, if the host only edits meanwhile. -/
theorem Orderly.commitPending {σ : Type} {m : Matrix} (h : Orderly m) {writer : Writer σ}
    (editing : ∀ subject entity flags m st, Edits m (writer subject entity flags m st).2.1)
    (st : σ) : Orderly (m.commitPending writer st).2.1 := by
  have edited := h.edits (edits_runWrites editing m.writtenSubject m.pending m st)
  have hbaseline := (edits_runWrites editing m.writtenSubject m.pending m st).frame.2
  obtain ⟨hkb, hkc⟩ := keys_commitPending editing h.consistent h.cells st
  refine ⟨?_, hkc.trans hkb.symm, fun loading => ?_, fun e name outside => ?_⟩
  · exact commitPending_keeps (fun _ _ _ _ _ hc => hc.edits (editing _ _ _ _ _))
      (fun _ entity flags hc => hc.written entity flags) st h.consistent
  · rw [(eq_of_withoutCells (commitPending_withoutCells editing m st)).2.2.1] at loading
    rw [h.idle loading] at hkb
    exact List.map_eq_nil_iff.mp hkb
  · -- neither the edits meanwhile nor the new baseline differ outside the vocabulary
    rw [current_commitPending, edited.outside e name outside, hbaseline, flagAt, flagAt]
    rcases baseline_commitPending_cases h.consistent editing st e with hb | hb
    · rw [hb]
    · rw [hb]
      exact (h.outside e name outside).symm

/-- **Every orderly run keeps a matrix in order.** -/
theorem OrderlyRun.orderly {m m' : Matrix} (run : OrderlyRun m m') (h : Orderly m) :
    Orderly m' := by
  induction run with
  | nil => exact h
  | edit _ edit ih => exact (ih h).edit edit
  | beginLoad _ subject => exact orderly_beginLoad _ subject
  | @applyBaseline _ m₁ _ tag rows ih =>
    cases ha : m₁.applyBaseline tag rows with
    | error => exact ih h
    | ok => exact applyBaseline_keeps (fun m rows _ => orderly_install m rows) (ih h) ha
  | failLoad _ tag error ih =>
      exact failLoad_keeps (fun _ error h => h.failed error) tag error (ih h)
  | loadBaseline _ loader subject st _ ih loading => exact .loadBaseline loading subject st (ih h)
  | commitPending _ writer st editing ih => exact (ih h).commitPending editing st
  | restoreDefaults _ resetter loader entities st _ _ ih resetting loading =>
    exact restoreDefaults_keeps resetting (fun subject _ st h => h.loadBaseline loading subject st)
      entities st (ih h)

theorem OrderlyReachable.reachable {m : Matrix} (h : OrderlyReachable m) : Reachable m := by
  obtain ⟨n, m₀, created, run⟩ := h
  exact ⟨n, m₀, created, run.run⟩

theorem OrderlyReachable.orderly {m : Matrix} (h : OrderlyReachable m) : Orderly m := by
  obtain ⟨n, m₀, created, run⟩ := h
  refine run.orderly ?_
  rw [eq_of_create created]
  exact orderly_of_clean rfl rfl nofun

end AdminConsole.Matrix
