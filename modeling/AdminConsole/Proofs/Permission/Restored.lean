import AdminConsole.Proofs.Permission.Mirror

/-!
# Proofs/Permission/Restored — what a restore asks for and what it leaves

A restore resets the entities one by one and keeps which resets returned and which raised a console
error (`resetAll_of_regular`).  If one returned, the rows are loaded again, and the matrix is the
one that this load leaves; if none did, nothing changes (`restoreDefaults_noted`).

Nothing is pending after the load, as long as the loader edits no cell: `WithoutEdits` are the
operations that bring no pending entry about.
-/

namespace AdminConsole.Matrix

variable {σ : Type}

/-! ## Calls and answers -/

/-- A call of a restore. -/
inductive RestoreCall where
  | reset (subject : Value) (entity : String)
  | load (subject : Value)
  deriving DecidableEq, Repr

/-- The same resetter, with its calls kept. -/
def Resetter.noted (resetter : Resetter σ) : Resetter (σ × List RestoreCall) :=
  fun subject entity m st =>
    let (answer, m, st') := resetter subject entity m st.1
    (answer, m, st', st.2 ++ [.reset subject entity])

/-- The same loader, with its calls kept. -/
def Loader.noted (loader : Loader σ) : Loader (σ × List RestoreCall) := fun subject m st =>
  let (answer, m, st') := loader subject m st.1
  (answer, m, st', st.2 ++ [.load subject])

/-- **A resetter that leaves the matrix alone**, whatever it answers. -/
def Resetter.Quiet (resetter : Resetter σ) : Prop :=
  ∀ subject entity m st, (resetter subject entity m st).2.1 = m

/-- The answer to a reset. -/
abbrev ResetAnswer := String × Except Fault Unit

/-- The answers of one reset after another. -/
def runResets (resetter : Resetter σ) (subject : Value) (m : Matrix) :
    List String → σ → List ResetAnswer × σ
  | [], st => ([], st)
  | entity :: rest, st =>
    let (answer, _, st) := resetter subject entity m st
    let (answers, st) := runResets resetter subject m rest st
    ((entity, answer) :: answers, st)

/-- What a batch keeps of the answers. -/
def recordResets : List ResetAnswer → BatchOutcome → BatchOutcome
  | [], batch => batch
  | (entity, .ok ()) :: rest, batch => recordResets rest (batch.addSuccess entity)
  | (entity, .error f) :: rest, batch => recordResets rest (batch.addFailure entity f)

/-- The entities whose reset returned. -/
def resetEntities (answers : List ResetAnswer) : List String :=
  (answers.filter fun a => a.2.isOk).map Prod.fst

variable {resetter : Resetter σ} {loader : Loader σ} {subject : Value} {m : Matrix}

/-- **There is one answer for each entity**, in order. -/
theorem fst_runResets (resetter : Resetter σ) (subject : Value) (m : Matrix) :
    ∀ (entities : List String) (st : σ),
      (runResets resetter subject m entities st).1.map Prod.fst = entities
  | [], _ => rfl
  | entity :: rest, _ => congrArg (entity :: ·) (fst_runResets resetter subject m rest _)

theorem runResets_noted (resetter : Resetter σ) (subject : Value) (m : Matrix) :
    ∀ (entities : List String) (st : σ) (calls : List RestoreCall),
      runResets resetter.noted subject m entities (st, calls) =
        ((runResets resetter subject m entities st).1,
          (runResets resetter subject m entities st).2, calls ++ entities.map (.reset subject))
  | [], st, calls => by simp [runResets]
  | entity :: rest, st, calls => by
      simp [runResets, Resetter.noted, runResets_noted resetter subject m rest]

/-- A load with its call kept. -/
theorem loadBaseline_noted (loader : Loader σ) (subject : Value) (m : Matrix) (st : σ)
    (calls : List RestoreCall) : loadBaseline loader.noted subject m (st, calls) =
      ((loadBaseline loader subject m st).1, (loadBaseline loader subject m st).2.1,
        (loadBaseline loader subject m st).2.2, calls ++ [.load subject]) := by
  rcases asked : loader subject (m.beginLoad subject).1 st with ⟨answer, m₁, st₁⟩
  have noted : loader.noted subject (m.beginLoad subject).1 (st, calls) =
      (answer, m₁, st₁, calls ++ [.load subject]) := by simp [Loader.noted, asked]
  unfold loadBaseline
  simp only [asked, noted]
  cases answer with
  | error f => rfl
  | ok rows =>
    dsimp only
    cases m₁.applyBaseline (m.beginLoad subject).2 rows with
    | error f => rfl
    | ok applied =>
      obtain ⟨m', taken⟩ := applied
      cases taken <;> rfl

/-! ## The batch -/

theorem succeeded_recordResets : ∀ (answers : List ResetAnswer) (batch : BatchOutcome),
    (recordResets answers batch).succeeded = batch.succeeded ++ resetEntities answers
  | [], batch => (List.append_nil _).symm
  | (entity, .ok ()) :: rest, batch => by
      rw [recordResets, succeeded_recordResets rest]
      exact List.append_assoc ..
  | (entity, .error f) :: rest, batch => by
      rw [recordResets, succeeded_recordResets rest]
      rfl

theorem ok_recordResets_iff : ∀ (answers : List ResetAnswer) (batch : BatchOutcome),
    (recordResets answers batch).ok = true ↔ batch.ok = true ∧ ∀ a ∈ answers, a.2 = .ok ()
  | [], batch => by simp [recordResets]
  | (entity, .ok ()) :: rest, batch => by
      rw [recordResets, ok_recordResets_iff rest]
      simp [BatchOutcome.ok, BatchOutcome.addSuccess]
  | (entity, .error f) :: rest, batch => by
      rw [recordResets, ok_recordResets_iff rest]
      simp [BatchOutcome.ok, addFailure_failed_ne_nil]

theorem resetEntities_eq_nil_iff {answers : List ResetAnswer} :
    resetEntities answers = [] ↔ ∀ a ∈ answers, a.2 ≠ .ok () := by
  rw [resetEntities, List.map_eq_nil_iff, List.filter_eq_nil_iff]
  refine forall₂_congr fun a _ => not_congr ?_
  match a with
  | (_, .ok ()) => exact iff_of_true rfl rfl
  | (_, .error _) => exact iff_of_false nofun nofun

/-- **Resets that return or raise a console error** are all made, and the batch keeps them. -/
theorem resetAll_of_regular (quiet : resetter.Quiet) : ∀ {entities : List String}
    {batch : BatchOutcome} {st st₁ : σ} {answers : List ResetAnswer},
    runResets resetter subject m entities st = (answers, st₁) → (∀ a ∈ answers, Regular a.2) →
      resetAll resetter subject entities batch m st = (.ok (recordResets answers batch), m, st₁)
  | [], batch, st, st₁, answers, answered, _ => by
      obtain ⟨rfl, rfl⟩ := Prod.mk.inj answered
      rfl
  | entity :: rest, batch, st, st₁, answers, answered, regular => by
      rcases asked : resetter subject entity m st with ⟨answer, m', st'⟩
      have hm : m' = m := by rw [← quiet subject entity m st, asked]
      rw [hm] at asked
      rcases hrest : runResets resetter subject m rest st' with ⟨answers', st''⟩
      simp only [runResets, asked, hrest] at answered
      obtain ⟨rfl, rfl⟩ := Prod.mk.inj answered
      have regular' : ∀ a ∈ answers', Regular a.2 :=
        fun a ha => regular a (List.mem_cons_of_mem _ ha)
      unfold resetAll
      rcases regular _ List.mem_cons_self with rfl | ⟨error, rfl⟩
      · simp only [asked]
        exact resetAll_of_regular quiet hrest regular'
      · simp only [asked]
        exact resetAll_of_regular quiet hrest regular'

theorem succeeded_reloaded (batch : BatchOutcome) (outcome : Outcome) :
    (reloaded batch outcome).succeeded = batch.succeeded := by
  unfold reloaded
  cases outcome.error <;> rfl

theorem ok_reloaded_iff (batch : BatchOutcome) (outcome : Outcome) :
    (reloaded batch outcome).ok = true ↔ batch.ok = true ∧ outcome.error = none := by
  unfold reloaded
  cases outcome.error <;> simp [BatchOutcome.ok, addFailure_failed_ne_nil]

/-! ## Loaders that edit nothing -/

/-- **Operations that edit no cell**: loads and whatever comes of them, commits, restores, and
giving up all edits.  Whoever answers in the course of them edits no cell either. -/
inductive WithoutEdits : Matrix → Matrix → Prop
  | nil (m : Matrix) : WithoutEdits m m
  | discard {m m₁ : Matrix} (run : WithoutEdits m m₁) : WithoutEdits m m₁.discard
  | beginLoad {m m₁ : Matrix} (run : WithoutEdits m m₁) (subject : Value) :
      WithoutEdits m (m₁.beginLoad subject).1
  | applyBaseline {m m₁ : Matrix} (run : WithoutEdits m m₁) (tag : Int) (rows : Value) :
      WithoutEdits m (m₁.after (m₁.applyBaseline tag rows))
  | failLoad {m m₁ : Matrix} (run : WithoutEdits m m₁) (tag : Int) (error : Fault) :
      WithoutEdits m (m₁.failLoad tag error).1
  | loadBaseline {m m₁ : Matrix} {σ : Type} (run : WithoutEdits m m₁) (loader : Loader σ)
      (subject : Value) (st : σ)
      (loading : ∀ subject m st, WithoutEdits m (loader subject m st).2.1) :
      WithoutEdits m (Matrix.loadBaseline loader subject m₁ st).2.1
  | commitPending {m m₁ : Matrix} {σ : Type} (run : WithoutEdits m m₁) (writer : Writer σ) (st : σ)
      (writing : ∀ subject entity flags m st,
        WithoutEdits m (writer subject entity flags m st).2.1) :
      WithoutEdits m (m₁.commitPending writer st).2.1
  | restoreDefaults {m m₁ : Matrix} {σ : Type} (run : WithoutEdits m m₁) (resetter : Resetter σ)
      (loader : Loader σ) (entities : List String) (st : σ)
      (resetting : ∀ subject entity m st, WithoutEdits m (resetter subject entity m st).2.1)
      (loading : ∀ subject m st, WithoutEdits m (loader subject m st).2.1) :
      WithoutEdits m (m₁.restoreDefaults resetter loader entities st).2.1

/-- A commit with nothing pending writes and records nothing. -/
theorem commitPending_of_clean (clean : m.pending = []) (writer : Writer σ) (st : σ) :
    (m.commitPending writer st).2.1 = m := by
  simp [commitPending, clean, runWrites, recordWrites]

/-- **A load clears the pending entries**, and they stay cleared if its loader keeps them so. -/
theorem pending_loadBaseline (loading : ∀ subject m st, m.pending = [] →
      (loader subject m st).2.1.pending = []) (subject : Value) (m : Matrix) (st : σ) :
    (loadBaseline loader subject m st).2.1.pending = [] := by
  -- what was pending before has no part in it
  change (loadBaseline loader subject { m with pending := [] } st).2.1.pending = []
  exact loadBaseline_keeps (P := fun m => m.pending = []) (fun _ _ _ => rfl) (fun _ _ _ => rfl)
    (fun _ _ h => h) loading subject st rfl

theorem WithoutEdits.pending {m m' : Matrix} (run : WithoutEdits m m') (clean : m.pending = []) :
    m'.pending = [] := by
  induction run with
  | nil => exact clean
  | discard _ ih => rfl
  | beginLoad _ subject ih => rfl
  | @applyBaseline _ m₁ _ tag rows ih =>
    cases ha : m₁.applyBaseline tag rows with
    | error f => exact ih clean
    | ok applied =>
      exact applyBaseline_keeps (P := fun m => m.pending = []) (fun _ _ _ => rfl) (ih clean) ha
  | failLoad _ tag error ih =>
    exact failLoad_keeps (P := fun m => m.pending = []) (fun _ _ h => h) tag error (ih clean)
  | loadBaseline _ loader subject st _ ih loading => exact pending_loadBaseline loading subject _ st
  | commitPending _ writer st _ ih _ =>
    rw [commitPending_of_clean (ih clean)]
    exact ih clean
  | restoreDefaults _ resetter loader entities st _ _ ih resetting loading =>
    exact restoreDefaults_keeps (P := fun m => m.pending = []) resetting
      (fun subject m st _ => pending_loadBaseline loading subject m st) entities st (ih clean)

/-! ## Restores -/

/-- The batch of a restore after its resets. -/
def resetBatch (m : Matrix) (answers : List ResetAnswer) : BatchOutcome :=
  recordResets answers { action := "default ACL restore", subject := m.writtenSubject }

theorem succeeded_resetBatch (m : Matrix) (answers : List ResetAnswer) :
    (m.resetBatch answers).succeeded = resetEntities answers := by
  rw [resetBatch, succeeded_recordResets, List.nil_append]

theorem ok_resetBatch_iff (m : Matrix) (answers : List ResetAnswer) :
    (m.resetBatch answers).ok = true ↔ ∀ a ∈ answers, a.2 = .ok () := by
  rw [resetBatch, ok_recordResets_iff]
  exact and_iff_right rfl

/-- **A restore with its calls kept**: the resets in order, and a load if one of them returned. -/
theorem restoreDefaults_noted (loader : Loader σ) (quiet : resetter.Quiet)
    {entities : List String} {st st₁ : σ} {answers : List ResetAnswer}
    (answered : runResets resetter m.writtenSubject m entities st = (answers, st₁))
    (regular : ∀ a ∈ answers, Regular a.2) :
    m.restoreDefaults resetter.noted loader.noted entities (st, []) =
      if resetEntities answers = [] then
        (.ok (m.resetBatch answers), m, st₁, entities.map (.reset m.writtenSubject))
      else
        let (outcome, m', st') := loadBaseline loader m.writtenSubject m st₁
        (.ok (reloaded (m.resetBatch answers) outcome), m', st',
          entities.map (.reset m.writtenSubject) ++ [.load m.writtenSubject]) := by
  have noted : runResets resetter.noted m.writtenSubject m entities (st, []) =
      (answers, st₁, entities.map (.reset m.writtenSubject)) := by
    rw [runResets_noted, answered, List.nil_append]
  have quiet' : resetter.noted.Quiet := fun subject entity m st => quiet subject entity m st.1
  rw [restoreDefaults_of_resets (resetAll_of_regular quiet' noted regular), ← resetBatch,
    succeeded_resetBatch, loadBaseline_noted]

/-- **A restore resets each entity once and ends as the load after it does.**  Take any matrix, any
list of entities, resets that leave the matrix alone and return or raise a console error, and any
loader.

* Every reset is for the shown subject, the empty text if there is none, in the order of the list,
  and the batch lists those that returned.
* If none returned, nothing is loaded and the matrix is unchanged.
* If one returned, there is one load, for the same subject, and the matrix is the one that this load
  leaves.  The batch is fine exactly if all resets returned and the load had no error, and nothing
  is pending if the loader edits nothing. -/
theorem restore_ends_as_load (m : Matrix) (quiet : resetter.Quiet) (loader : Loader σ)
    (entities : List String) {st st₁ : σ} {answers : List ResetAnswer}
    (answered : runResets resetter m.writtenSubject m entities st = (answers, st₁))
    (regular : ∀ a ∈ answers, Regular a.2) :
    (m.subject = .null → m.writtenSubject = .text "") ∧
    (∀ s, m.subject = .text s → m.writtenSubject = .text s) ∧
    answers.map Prod.fst = entities ∧
    ∃ batch m' st' calls,
      m.restoreDefaults resetter.noted loader.noted entities (st, []) =
        (.ok batch, m', st', calls) ∧
      batch.succeeded = resetEntities answers ∧
      ((∀ a ∈ answers, a.2 ≠ .ok ()) →
        calls = entities.map (.reset m.writtenSubject) ∧ m' = m ∧ st' = st₁ ∧
        (batch.ok = true ↔ entities = [])) ∧
      ((∃ a ∈ answers, a.2 = .ok ()) →
        calls = entities.map (.reset m.writtenSubject) ++ [.load m.writtenSubject] ∧
        ∃ outcome, loadBaseline loader m.writtenSubject m st₁ = (outcome, m', st') ∧
          (batch.ok = true ↔ (∀ a ∈ answers, a.2 = .ok ()) ∧ outcome.error = none) ∧
          ((∀ subject m st, WithoutEdits m (loader subject m st).2.1) → m'.pending = [])) := by
  have fst : answers.map Prod.fst = entities := by
    rw [← fst_runResets resetter m.writtenSubject m entities st, answered]
  refine ⟨fun none => by rw [writtenSubject, none]; rfl,
    fun s text => by rw [writtenSubject, text, orElse_text], fst, ?_⟩
  have hrestore := restoreDefaults_noted loader quiet answered regular
  by_cases none : ∀ a ∈ answers, a.2 ≠ .ok ()
  · rw [if_pos (resetEntities_eq_nil_iff.mpr none)] at hrestore
    refine ⟨_, _, _, _, hrestore, succeeded_resetBatch m answers, fun _ => ⟨rfl, rfl, rfl, ?_⟩,
      fun worked => worked.elim fun a h => absurd h.2 (none a h.1)⟩
    -- without a success there was no reset at all
    rw [ok_resetBatch_iff, ← fst, List.map_eq_nil_iff]
    exact ⟨fun all => List.eq_nil_iff_forall_not_mem.mpr fun a ha => none a ha (all a ha),
      fun empty => by simp [empty]⟩
  · rw [if_neg (mt resetEntities_eq_nil_iff.mp none)] at hrestore
    rcases reload : loadBaseline loader m.writtenSubject m st₁ with ⟨outcome, m', st'⟩
    rw [reload] at hrestore
    refine ⟨_, _, _, _, hrestore, by rw [succeeded_reloaded, succeeded_resetBatch],
      fun h => absurd h none, fun _ => ⟨rfl, outcome, rfl, ?_, fun unedited => ?_⟩⟩
    · rw [ok_reloaded_iff, ok_resetBatch_iff]
    · have hpending := pending_loadBaseline
        (fun subject m st clean => (unedited subject m st).pending clean) m.writtenSubject m st₁
      rwa [reload] at hpending

/-- A resetter that is refused for invoices. -/
def refusesInvoices : Resetter Unit := fun _ entity m st =>
  (if entity = "invoices" then .error (.console (.general "busy" .empty [])) else .ok (), m, st)

/-- A loader that answers with the default of orders. -/
def loadsDefault : Loader Unit := fun _ m st =>
  (.ok (.object [("orders", .object [("read", .bool true)])]), m, st)

/-- A restore of two entities, one of which is refused: the rows are loaded once, the edit of the
cell is gone, and the batch has a failure. -/
theorem restore_ends_as_load_refusedInvoices : ∃ batch m',
    toggledCell.restoreDefaults refusesInvoices.noted loadsDefault.noted ["orders", "invoices"]
      ((), []) = (.ok batch, m', (), [.reset (.text "alice") "orders",
        .reset (.text "alice") "invoices", .load (.text "alice")]) ∧
    batch.succeeded = ["orders"] ∧ batch.ok = false ∧ m'.pending = [] := by
  have answered : runResets refusesInvoices toggledCell.writtenSubject toggledCell
      ["orders", "invoices"] () = ([("orders", .ok ()),
        ("invoices", .error (.console (.general "busy" .empty [])))], ()) := rfl
  have regular : ∀ a ∈ [("orders", .ok ()),
      ("invoices", .error (.console (.general "busy" .empty [])))], Regular a.2 := by
    simp [Regular]
  obtain ⟨-, hsubject, -, batch, m', st', calls, hrestore, hsucceeded, -, hworked⟩ :=
    restore_ends_as_load toggledCell (fun _ _ _ _ => rfl) loadsDefault ["orders", "invoices"]
      answered regular
  obtain ⟨rfl, outcome, -, hok, hpending⟩ := hworked ⟨_, List.mem_cons_self, rfl⟩
  rw [hsubject "alice" rfl] at hrestore
  refine ⟨batch, m', hrestore, hsucceeded, ?_, hpending fun _ m _ => .nil m⟩
  rw [← Bool.not_eq_true, hok]
  simp

end AdminConsole.Matrix
