import AdminConsole.Proofs.Permission.Cell
import Mathlib.Logic.Relation

/-!
# Proofs/Permission/Run — runs of operations on a matrix

A `Run` is any sequence of operations, each answered in any way and raising or not.  Whoever
answers a load, a write or a reset may run operations of its own before it answers, so toggles
between the writes of a commit are part of a run.  What single operations keep, the composite ones
keep as well: `loadBaseline_keeps`, `commitPending_keeps`, `restoreDefaults_keeps`.  So a property
that holds after every single step (`StepInvariant`) holds after every run: `Run.keeps`.

A restore is its resets and, if one of them returned, a load (`restoreDefaults_of_resets`).
-/

namespace AdminConsole.Matrix

/-! ## Edits and runs -/

/-- The matrix after an operation; one that raises leaves it as it was. -/
def after {α : Type} (m : Matrix) : Except Fault (Matrix × α) → Matrix
  | .ok (m', _) => m'
  | .error _ => m

/-- An edit of the host. -/
inductive Edit (m : Matrix) : Matrix → Prop
  | toggle (entity permission : String) : Edit m (m.after (m.toggle entity permission))
  | setPermission (entity permission : String) (enabled : Bool) :
      Edit m (m.after (m.setPermission entity permission enabled))
  | discard : Edit m m.discard

/-- **An edit changes nothing, gives up all edits, or puts one set into a cell that is there.** -/
theorem Edit.cases {m m' : Matrix} (h : Edit m m') :
    m' = m ∨ m' = m.discard ∨ ∃ entity old flags, Entries.get? entity m.current = some old ∧
      m.loading = false ∧ m' = m.putCell entity flags := by
  have toggled : ∀ e p, m.after (m.toggle e p) = m ∨ ∃ entity old flags,
      Entries.get? entity m.current = some old ∧ m.loading = false ∧
        m.after (m.toggle e p) = m.putCell entity flags := by
    intro e p
    rcases m.toggle_cases e p with ⟨_, hr⟩ | ⟨old, hc, hl, ht⟩
    · rw [hr]
      exact .inl rfl
    · rw [ht]
      exact .inr ⟨e, old, _, hc, hl, rfl⟩
  cases h with
  | toggle entity permission => exact (toggled entity permission).imp_right .inr
  | setPermission entity permission enabled =>
    rcases m.setPermission_cases entity permission enabled with ⟨_, hr⟩ | ⟨_, _, _, hs⟩ | ht
    · rw [hr]
      exact .inl rfl
    · rw [hs]
      exact .inl rfl
    · rw [ht]
      exact (toggled entity permission).imp_right .inr
  | discard => exact .inr (.inl rfl)

/-- Edits, one after another. -/
abbrev Edits : Matrix → Matrix → Prop := Relation.ReflTransGen Edit

/-- **An edit touches the current cells and the pending map only.** -/
theorem Edits.frame {m m' : Matrix} (h : Edits m m') :
    m'.withoutCells = m.withoutCells ∧ m'.baseline = m.baseline := by
  induction h with
  | refl => exact ⟨rfl, rfl⟩
  | tail _ edit ih =>
    rcases edit.cases with rfl | rfl | ⟨entity, _, flags, -, -, rfl⟩
    · exact ih
    · exact ih
    · rw [putCell_withoutCells, putCell_baseline]
      exact ih

/-- **Edits add no cell and drop none.** -/
theorem Edits.keys_current {m m' : Matrix} (h : Edits m m')
    (hk : Entries.keys m.current = Entries.keys m.baseline) :
    Entries.keys m'.current = Entries.keys m'.baseline := by
  induction h with
  | refl => exact hk
  | tail _ edit ih =>
    rcases edit.cases with rfl | rfl | ⟨entity, old, flags, hc, -, rfl⟩
    · exact ih
    · rfl
    · rw [putCell_baseline, putCell_current, ← ih]
      exact Entries.keys_put_of_mem flags (Entries.mem_keys_iff.mpr ⟨old, hc⟩)

/-- **Runs of operations**, from a matrix to the matrix that they leave. -/
inductive Run : Matrix → Matrix → Prop
  | nil (m : Matrix) : Run m m
  | edit {m m₁ m₂ : Matrix} (run : Run m m₁) (edit : Edit m₁ m₂) : Run m m₂
  | beginLoad {m m₁ : Matrix} (run : Run m m₁) (subject : Value) :
      Run m (m₁.beginLoad subject).1
  | applyBaseline {m m₁ : Matrix} (run : Run m m₁) (tag : Int) (rows : Value) :
      Run m (m₁.after (m₁.applyBaseline tag rows))
  | failLoad {m m₁ : Matrix} (run : Run m m₁) (tag : Int) (error : Fault) :
      Run m (m₁.failLoad tag error).1
  | loadBaseline {m m₁ : Matrix} {σ : Type} (run : Run m m₁) (loader : Loader σ) (subject : Value)
      (st : σ) (loading : ∀ subject m st, Run m (loader subject m st).2.1) :
      Run m (Matrix.loadBaseline loader subject m₁ st).2.1
  | commitPending {m m₁ : Matrix} {σ : Type} (run : Run m m₁) (writer : Writer σ) (st : σ)
      (writing : ∀ subject entity flags m st, Run m (writer subject entity flags m st).2.1) :
      Run m (m₁.commitPending writer st).2.1
  | restoreDefaults {m m₁ : Matrix} {σ : Type} (run : Run m m₁) (resetter : Resetter σ)
      (loader : Loader σ) (entities : List String) (st : σ)
      (resetting : ∀ subject entity m st, Run m (resetter subject entity m st).2.1)
      (loading : ∀ subject m st, Run m (loader subject m st).2.1) :
      Run m (m₁.restoreDefaults resetter loader entities st).2.1

/-- A new matrix has no cells, and nothing was loaded. -/
theorem eq_of_create {n : Value} {m : Matrix} (created : create n = .ok m) :
    m = { maxParallel := m.maxParallel } := by
  rw [create] at created
  split at created
  case h_1 => rw [← Except.ok.inj created]
  case h_2 => nomatch created

/-! ## Restores -/

/-- The batch of a restore after the rows were loaded again. -/
def reloaded (batch : BatchOutcome) (outcome : Outcome) : BatchOutcome :=
  match outcome.error with
  | some e => batch.addFailure reloadKey e
  | none => batch

section Restores

variable {σ : Type} {resetter : Resetter σ} {loader : Loader σ} {entities : List String}
  {m m₁ : Matrix} {st st₁ : σ}

theorem restoreDefaults_of_error {f : Fault}
    (resets : resetAll resetter m.writtenSubject entities
      { action := "default ACL restore", subject := m.writtenSubject } m st =
        (.error f, m₁, st₁)) :
    m.restoreDefaults resetter loader entities st = (.error f, m₁, st₁) := by
  rw [restoreDefaults, resets]

/-- **What comes after the resets**: a load if one of them returned, and nothing else. -/
theorem restoreDefaults_of_resets {batch : BatchOutcome}
    (resets : resetAll resetter m.writtenSubject entities
      { action := "default ACL restore", subject := m.writtenSubject } m st =
        (.ok batch, m₁, st₁)) :
    m.restoreDefaults resetter loader entities st =
      if batch.succeeded = [] then (.ok batch, m₁, st₁)
      else (.ok (reloaded batch (loadBaseline loader m.writtenSubject m₁ st₁).1),
        (loadBaseline loader m.writtenSubject m₁ st₁).2) := by
  unfold restoreDefaults reloaded
  simp only [resets, List.isEmpty_iff]
  split
  · rfl
  · rcases loadBaseline loader m.writtenSubject m₁ st₁ with ⟨outcome, m', st'⟩
    dsimp only
    cases outcome.error <;> rfl

end Restores

/-! ## What composite operations keep

Each of them runs the operations of its collaborators and single steps of its own, so it keeps a
property that all of these keep. -/

section Keeps

variable {P : Matrix → Prop} {σ : Type}

theorem applyBaseline_keeps (install : ∀ m rows, P m → P (m.install rows)) {m m' : Matrix}
    {tag : Int} {rows : Value} {taken : Bool} (h : P m)
    (applied : m.applyBaseline tag rows = .ok (m', taken)) : P m' := by
  rw [applyBaseline] at applied
  split at applied
  · cases hr : readRows rows with
    | error f => simp [hr, bind, Except.bind] at applied
    | ok rows' =>
      rw [hr] at applied
      obtain ⟨rfl, -⟩ := Prod.mk.inj (Except.ok.inj applied)
      exact install m rows' h
  · obtain ⟨rfl, -⟩ := Prod.mk.inj (Except.ok.inj applied)
    exact h

theorem failLoad_keeps
    (fail : ∀ m error, P m → P { m with loading := false, loadError := some error }) {m : Matrix}
    (tag : Int) (error : Fault) (h : P m) : P (m.failLoad tag error).1 := by
  rw [failLoad]
  split
  · exact fail m error h
  · exact h

theorem loadBaseline_keeps {loader : Loader σ} (begin : ∀ m subject, P m → P (m.beginLoad subject).1)
    (install : ∀ m rows, P m → P (m.install rows))
    (fail : ∀ m error, P m → P { m with loading := false, loadError := some error })
    (loading : ∀ subject m st, P m → P (loader subject m st).2.1) (subject : Value) {m : Matrix}
    (st : σ) (h : P m) : P (loadBaseline loader subject m st).2.1 := by
  have asked := loading subject _ st (begin m subject h)
  unfold loadBaseline
  rcases hl : loader subject (m.beginLoad subject).1 st with ⟨answer, m₁, st₁⟩
  rw [hl] at asked
  simp only [hl]
  cases answer with
  | error f => exact failLoad_keeps fail _ _ asked
  | ok rows =>
    dsimp only
    split
    · exact failLoad_keeps fail _ _ asked
    · exact applyBaseline_keeps install asked ‹_›
    · exact applyBaseline_keeps install asked ‹_›

theorem runWrites_keeps {writer : Writer σ}
    (writing : ∀ subject entity flags m st, P m → P (writer subject entity flags m st).2.1)
    (subject : Value) : ∀ (snapshot : PermissionRows) (m : Matrix) (st : σ), P m →
      P (runWrites writer subject snapshot m st).2.1
  | [], _, _, h => h
  | (entity, flags) :: rest, m, st, h =>
      runWrites_keeps writing subject rest _ _ (writing subject entity flags m st h)

theorem recordWrites_keeps (written : ∀ m entity flags, P m → P (m.written entity flags)) :
    ∀ (answers : List (String × Flags × Except Fault Unit)) (batch : BatchOutcome) (m : Matrix),
      P m → P (recordWrites answers batch m).2
  | [], _, _, h => h
  | (entity, flags, .ok ()) :: rest, _, m, h =>
      recordWrites_keeps written rest _ _ (written m entity flags h)
  | (_, _, .error (.console _)) :: rest, _, m, h => recordWrites_keeps written rest _ m h
  | (_, _, .error (.mishap _)) :: _, _, _, h => h
  | (_, _, .error (.invalid _)) :: _, _, _, h => h

theorem commitPending_keeps {writer : Writer σ}
    (writing : ∀ subject entity flags m st, P m → P (writer subject entity flags m st).2.1)
    (written : ∀ m entity flags, P m → P (m.written entity flags)) {m : Matrix} (st : σ) (h : P m) :
    P (m.commitPending writer st).2.1 :=
  recordWrites_keeps written _ _ _ (runWrites_keeps writing m.writtenSubject m.pending m st h)

theorem resetAll_keeps {resetter : Resetter σ}
    (resetting : ∀ subject entity m st, P m → P (resetter subject entity m st).2.1)
    (subject : Value) : ∀ (entities : List String) (batch : BatchOutcome) (m : Matrix) (st : σ),
      P m → P (resetAll resetter subject entities batch m st).2.1
  | [], _, _, _, h => h
  | entity :: rest, batch, m, st, h => by
      have asked := resetting subject entity m st h
      unfold resetAll
      rcases hr : resetter subject entity m st with ⟨answer, m₁, st₁⟩
      rw [hr] at asked
      match answer with
      | .ok () => exact resetAll_keeps resetting subject rest _ m₁ st₁ asked
      | .error (.console _) => exact resetAll_keeps resetting subject rest _ m₁ st₁ asked
      | .error (.mishap _) => exact asked
      | .error (.invalid _) => exact asked

theorem restoreDefaults_keeps {resetter : Resetter σ} {loader : Loader σ}
    (resetting : ∀ subject entity m st, P m → P (resetter subject entity m st).2.1)
    (load : ∀ subject m st, P m → P (loadBaseline loader subject m st).2.1)
    (entities : List String) {m : Matrix} (st : σ) (h : P m) :
    P (m.restoreDefaults resetter loader entities st).2.1 := by
  have reset := resetAll_keeps resetting m.writtenSubject entities
    { action := "default ACL restore", subject := m.writtenSubject } m st h
  rcases resets : resetAll resetter m.writtenSubject entities
    { action := "default ACL restore", subject := m.writtenSubject } m st with ⟨answer, m₁, st₁⟩
  rw [resets] at reset
  cases answer with
  | error f => rwa [restoreDefaults_of_error resets]
  | ok batch =>
    rw [restoreDefaults_of_resets resets]
    split
    · exact reset
    · exact load m.writtenSubject m₁ st₁ reset

/-- **What every single step keeps**: an edit, the begin, the end or the failure of a load, and the
record of one write. -/
structure StepInvariant (P : Matrix → Prop) : Prop where
  edit : ∀ {m m' : Matrix}, Edit m m' → P m → P m'
  beginLoad : ∀ m subject, P m → P (m.beginLoad subject).1
  install : ∀ m rows, P m → P (m.install rows)
  fail : ∀ m error, P m → P { m with loading := false, loadError := some error }
  written : ∀ m entity flags, P m → P (m.written entity flags)

/-- **What every single step keeps, every run keeps**, steps that raise included. -/
theorem Run.keeps (steps : StepInvariant P) {m m' : Matrix} (run : Run m m') (h : P m) : P m' := by
  -- what a collaborator does is a run of its own, so there is an induction hypothesis for it
  induction run with
  | nil => exact h
  | edit _ edit ih => exact steps.edit edit (ih h)
  | beginLoad _ subject ih => exact steps.beginLoad _ subject (ih h)
  | @applyBaseline _ m₁ _ tag rows ih =>
    cases ha : m₁.applyBaseline tag rows with
    | error => exact ih h
    | ok => exact applyBaseline_keeps steps.install (ih h) ha
  | failLoad _ tag error ih => exact failLoad_keeps steps.fail tag error (ih h)
  | loadBaseline _ loader subject st _ ih loading =>
    exact loadBaseline_keeps steps.beginLoad steps.install steps.fail loading subject st (ih h)
  | commitPending _ writer st _ ih writing =>
    exact commitPending_keeps writing steps.written st (ih h)
  | restoreDefaults _ resetter loader entities st _ _ ih resetting loading =>
    exact restoreDefaults_keeps resetting (fun subject _ st =>
      loadBaseline_keeps steps.beginLoad steps.install steps.fail loading subject st) entities st
      (ih h)

end Keeps

end AdminConsole.Matrix
