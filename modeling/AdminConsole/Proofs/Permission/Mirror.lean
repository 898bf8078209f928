import AdminConsole.Proofs.Permission.Commit

/-!
# Proofs/Permission/Mirror — the baseline mirrors the server

A server stores a permission set for each subject and entity.  Of what answers for it only this is
assumed: a load returns the rows of its subject or fails (`Loads`), a write stores the set that it
was given or raises a console error and stores nothing (`Writes`), a reset stores some set or
raises a console error and stores nothing (`Resets`).  Then `Mirrors` — every baseline is the
stored set — holds after each operation of a single client, whatever failed
(`ClientRun.mirrors`), and a commit without failures and edits leaves the server with the flags
that the cells show (`baseline_mirrors_server`).
-/

namespace AdminConsole.Matrix

variable {σ : Type}

/-! ## Servers -/

/-- What a server stores: the permission set of each subject and entity. -/
abbrev Stored := Value → String → Option Flags

/-- The store with one more set. -/
def Stored.write (s : Stored) (subject : Value) (entity : String) (flags : Flags) : Stored :=
  fun u e => if u = subject ∧ e = entity then some flags else s u e

/-- Permission rows as the document that a load answers. -/
def rowsDocument (rows : PermissionRows) : Value :=
  .object (rows.map fun (entity, flags) => (entity, .map flags))

/-- **A loader returns the rows of its subject as they are stored, or fails.** -/
structure Loads (view : σ → Stored) (loader : Loader σ) : Prop where
  matrix : ∀ subject m st, (loader subject m st).2.1 = m
  store : ∀ subject m st, view (loader subject m st).2.2 = view st
  answer : ∀ subject m st, (∃ f, (loader subject m st).1 = .error f) ∨
    ∃ rows, (loader subject m st).1 = .ok (rowsDocument rows) ∧
      ∀ e, Entries.get? e rows = view st subject e

/-- **A writer stores the set that it is given, or raises a console error and stores nothing.**
The host may edit while it waits. -/
structure Writes (view : σ → Stored) (writer : Writer σ) : Prop where
  edits : ∀ subject entity flags m st, Edits m (writer subject entity flags m st).2.1
  answer : ∀ subject entity flags m st,
    ((writer subject entity flags m st).1 = .ok () ∧
      view (writer subject entity flags m st).2.2 = (view st).write subject entity flags) ∨
    ((∃ error, (writer subject entity flags m st).1 = .error (.console error)) ∧
      view (writer subject entity flags m st).2.2 = view st)

/-- **A resetter stores a set of the server's choice, or raises a console error and stores
nothing.** -/
structure Resets (view : σ → Stored) (resetter : Resetter σ) : Prop where
  matrix : ∀ subject entity m st, (resetter subject entity m st).2.1 = m
  answer : ∀ subject entity m st,
    ((resetter subject entity m st).1 = .ok () ∧
      ∃ flags, view (resetter subject entity m st).2.2 = (view st).write subject entity flags) ∨
    ((∃ error, (resetter subject entity m st).1 = .error (.console error)) ∧
      view (resetter subject entity m st).2.2 = view st)

/-- **Runs of a single client**: the matrix and the world after any operations of the client, with
any pattern of failures. -/
inductive ClientRun (view : σ → Stored) : Matrix → σ → Prop
  | new {n : Value} {m : Matrix} (created : create n = .ok m) (st : σ) : ClientRun view m st
  | edit {m m' : Matrix} {st : σ} (run : ClientRun view m st) (edit : Edit m m') :
      ClientRun view m' st
  | loadBaseline {m : Matrix} {st : σ} {loader : Loader σ} (run : ClientRun view m st)
      (loads : Loads view loader) (subject : String) :
      ClientRun view (Matrix.loadBaseline loader (.text subject) m st).2.1
        (Matrix.loadBaseline loader (.text subject) m st).2.2
  | commitPending {m : Matrix} {st : σ} {writer : Writer σ} (run : ClientRun view m st)
      (writes : Writes view writer) :
      ClientRun view (m.commitPending writer st).2.1 (m.commitPending writer st).2.2
  | restoreDefaults {m : Matrix} {st : σ} {resetter : Resetter σ} {loader : Loader σ}
      (run : ClientRun view m st) (resets : Resets view resetter) (loads : Loads view loader)
      (entities : List String) :
      ClientRun view (m.restoreDefaults resetter loader entities st).2.1
        (m.restoreDefaults resetter loader entities st).2.2

/-! ## The invariant -/

/-- A matrix mirrors a store: its baselines are the stored sets, and its writes go to the subject
that it shows. -/
structure Mirrors (s : Stored) (m : Matrix) : Prop where
  consistent : Consistent m
  cells : Entries.keys m.current = Entries.keys m.baseline
  baseline : ∀ e set, Entries.get? e m.baseline = some set → s m.subject e = some set
  subject : m.baseline = [] ∨ m.writtenSubject = m.subject

/-- Without cells there is nothing to mirror. -/
theorem mirrors_of_no_cells (s : Stored) {m : Matrix} (baseline : m.baseline = [])
    (current : m.current = []) (pending : m.pending = []) : Mirrors s m where
  consistent := consistent_of_clean (current.trans baseline.symm) pending
  cells := by rw [current, baseline]
  baseline e set h := by
    rw [baseline] at h
    nomatch h
  subject := .inl baseline

theorem Mirrors.edit {s : Stored} {m m' : Matrix} (h : Mirrors s m) (edit : Edit m m') :
    Mirrors s m' := by
  have edits : Edits m m' := .single edit
  obtain ⟨hframe, hbase⟩ := edits.frame
  have hsubject : m'.subject = m.subject := (eq_of_withoutCells hframe).1
  refine ⟨h.consistent.edit edit, edits.keys_current h.cells, ?_, ?_⟩
  · rw [hbase, hsubject]
    exact h.baseline
  · rw [hbase, writtenSubject, hsubject]
    exact h.subject

/-- A pending entity is written for the subject that is shown. -/
theorem Mirrors.writtenSubject_eq {s : Stored} {m : Matrix} (h : Mirrors s m)
    (pending : m.pending ≠ []) : m.writtenSubject = m.subject := by
  refine h.subject.resolve_left fun hb => pending ?_
  have hk : Entries.keys m.current = [] := by rw [h.cells, hb]; rfl
  refine List.eq_nil_iff_forall_not_mem.mpr fun ⟨entity, flags⟩ hmem => ?_
  have hget := (h.consistent.mem_pending_iff.mp hmem).1
  rw [List.map_eq_nil_iff.mp hk] at hget
  nomatch hget

/-! ## Loading -/

theorem readRows_rowsDocument (rows : PermissionRows) : readRows (rowsDocument rows) = .ok rows := by
  have h : ∀ rows : PermissionRows, readRows.readEntries
      ((rows.map fun row => (row.1, Value.map row.2)).map fun row => (.text row.1, row.2))
        = .ok rows := by
    intro rows
    induction rows with
    | nil => rfl
    | cons row rest ih =>
      simp only [List.map_cons, readRows.readEntries, ih]
      rfl
  exact h rows

/-- **After a load the matrix mirrors the store**, whatever it held before. -/
theorem mirrors_loadBaseline {view : σ → Stored} {loader : Loader σ} (loads : Loads view loader)
    {subject : Value} (named : subject.orElse (.text "") = subject) (m : Matrix) (st : σ) :
    Mirrors (view (loadBaseline loader subject m st).2.2)
      (loadBaseline loader subject m st).2.1 := by
  have hm := loads.matrix subject (m.beginLoad subject).1 st
  have hs := loads.store subject (m.beginLoad subject).1 st
  have ha := loads.answer subject (m.beginLoad subject).1 st
  unfold loadBaseline
  rcases hl : loader subject (m.beginLoad subject).1 st with ⟨answer, m₁, st₁⟩
  simp only [hl] at hm hs ha ⊢
  subst hm
  have hcurrent : (m.beginLoad subject).1.sequencer.isCurrent (m.beginLoad subject).2 = true :=
    beq_self_eq_true _
  rcases ha with ⟨f, rfl⟩ | ⟨rows, rfl, hrows⟩
  · dsimp only
    rw [failLoad, if_pos hcurrent]
    exact mirrors_of_no_cells _ rfl rfl rfl
  · have happlied : (m.beginLoad subject).1.applyBaseline (m.beginLoad subject).2
        (rowsDocument rows) = .ok ((m.beginLoad subject).1.install rows, true) := by
      rw [applyBaseline, if_pos hcurrent, readRows_rowsDocument]
      rfl
    simp only [happlied]
    refine ⟨consistent_install _ rows, rfl, fun e set hset => ?_, .inr named⟩
    rw [hs]
    exact (hrows e).symm.trans hset

/-! ## Committing -/

theorem Writes.regular {view : σ → Stored} {writer : Writer σ} (writes : Writes view writer)
    (subject : Value) (entity : String) (flags : Flags) (m : Matrix) (st : σ) :
    Regular (writer subject entity flags m st).1 :=
  (writes.answer subject entity flags m st).imp And.left And.left

/-- **The writes leave the store with the sets taken over** that were answered well. -/
theorem store_runWrites {view : σ → Stored} {writer : Writer σ} (writes : Writes view writer)
    (subject : Value) : ∀ (snapshot : PermissionRows) (m : Matrix) (st : σ),
      view (runWrites writer subject snapshot m st).2.2 subject
        = takeOver (runWrites writer subject snapshot m st).1 (view st subject)
  | [], _, _ => rfl
  | (entity, flags) :: rest, m, st => by
      refine (store_runWrites writes subject rest _ _).trans ?_
      change _ = takeOver ((entity, flags, (writer subject entity flags m st).1) :: _) _
      rcases writes.answer subject entity flags m st with ⟨ha, hs⟩ | ⟨⟨error, ha⟩, hs⟩
      · have hwrite : (view st).write subject entity flags subject
            = fun e => if e = entity then some flags else view st subject e := by
          funext e
          simp only [Stored.write, true_and]
        rw [ha, hs, hwrite, takeOver]
      · rw [ha, hs, takeOver]

theorem Mirrors.commitPending {view : σ → Stored} {writer : Writer σ} (writes : Writes view writer)
    {m : Matrix} {st : σ} (h : Mirrors (view st) m) :
    Mirrors (view (m.commitPending writer st).2.2) (m.commitPending writer st).2.1 := by
  by_cases hp : m.pending = []
  · have hnone : (m.commitPending writer st).2 = (m, st) := by
      simp only [Matrix.commitPending, hp, runWrites, recordWrites]
    rw [hnone]
    exact h
  have hu := h.writtenSubject_eq hp
  have hsubject := (eq_of_withoutCells (commitPending_withoutCells writes.edits m st)).1
  obtain ⟨hkb, hkc⟩ := keys_commitPending writes.edits h.consistent h.cells st
  refine ⟨?_, hkc.trans hkb.symm, fun e set hset => ?_, .inr ?_⟩
  · exact commitPending_keeps (fun _ _ _ _ _ hc => hc.edits (writes.edits _ _ _ _ _))
      (fun _ entity flags hc => hc.written entity flags) st h.consistent
  · rw [get?_baseline_commitPending writes.edits writes.regular] at hset
    rw [hsubject, ← hu]
    refine (congrFun (store_runWrites writes m.writtenSubject m.pending m st) e).trans ?_
    refine takeOver_mono _ (fun e set hbase => ?_) e set hset
    rw [hu]
    exact h.baseline e set hbase
  · rw [writtenSubject, hsubject]
    exact hu

/-- A cell of a mirroring matrix has a baseline, and it is the stored set. -/
theorem Mirrors.exists_stored {s : Stored} {m : Matrix} (h : Mirrors s m) {e : String}
    (cell : e ∈ Entries.keys m.current) :
    ∃ set, Entries.get? e m.baseline = some set ∧ s m.subject e = some set := by
  rw [h.cells] at cell
  obtain ⟨set, hset⟩ := Entries.mem_keys_iff.mp cell
  exact ⟨set, hset, h.baseline e set hset⟩

/-- **With nothing pending the server has the flags that the cells show.** -/
theorem Mirrors.isSet_of_clean {s : Stored} {m : Matrix} (h : Mirrors s m) (clean : m.pending = [])
    {entity : String} {current : Flags} (cell : Entries.get? entity m.current = some current) :
    ∃ set, s m.subject entity = some set ∧ ∀ name, set.isSet name = current.isSet name := by
  obtain ⟨set, hbase, hset⟩ := h.exists_stored (Entries.mem_keys_iff.mpr ⟨current, cell⟩)
  have hpend := h.consistent.get?_pending entity
  rw [clean, cell, Entries.get?_nil, eq_comm, Option.filter_eq_none_iff] at hpend
  have hsame : Flags.same current set = true := by
    simpa [differs, hbase, Flags.same?] using hpend current rfl
  exact ⟨set, hset, fun name => (Flags.same_iff.mp hsame name).symm⟩

/-- **Every write of a commit is needed**: it goes to the shown subject, carries the whole current
set of its entity, and differs from what the server stores. -/
theorem Mirrors.of_mem_calls {s : Stored} {m : Matrix} (h : Mirrors s m) (writer : Writer σ)
    (st : σ) {subject : Value} {entity : String} {flags : Flags}
    (call : (subject, entity, flags) ∈ (m.commitPending writer.noted (st, [])).2.2.2) :
    subject = m.subject ∧ Entries.get? entity m.current = some flags ∧
      ∃ set, s m.subject entity = some set ∧ ∃ name, flags.isSet name ≠ set.isSet name := by
  rw [calls_commitPending] at call
  obtain ⟨⟨entity', flags'⟩, hpend, hcall⟩ := List.mem_map.mp call
  obtain ⟨rfl, rfl, rfl⟩ : m.writtenSubject = subject ∧ entity' = entity ∧ flags' = flags := by
    simpa using hcall
  obtain ⟨hcur, hdiff⟩ := h.consistent.mem_pending_iff.mp hpend
  obtain ⟨set, hbase, hset⟩ := h.exists_stored (Entries.mem_keys_iff.mpr ⟨flags', hcur⟩)
  refine ⟨h.writtenSubject_eq (List.ne_nil_of_mem hpend), hcur, set, hset, ?_⟩
  rw [hbase, Flags.same?, ← Bool.not_eq_true, Flags.same_iff] at hdiff
  exact not_forall.mp hdiff

/-- Without an edit meanwhile a commit keeps the cells that it found. -/
theorem current_commitPending_of_unedited {writer : Writer σ}
    (unedited : ∀ subject entity flags m st, (writer subject entity flags m st).2.1 = m)
    (m : Matrix) (st : σ) : (m.commitPending writer st).2.1.current = m.current := by
  rw [current_commitPending]
  exact congrArg Matrix.current (runWrites_keeps (P := (· = m))
    (fun _ _ _ _ _ h => (unedited _ _ _ _ _).trans h) m.writtenSubject m.pending m st rfl)

/-- **A commit that nothing disturbed leaves nothing pending**: no write failed, and the host did
not edit meanwhile. -/
theorem Mirrors.pending_commitPending {view : σ → Stored} {writer : Writer σ}
    (writes : Writes view writer)
    (unedited : ∀ subject entity flags m st, (writer subject entity flags m st).2.1 = m)
    {m : Matrix} {st : σ} (h : Mirrors (view st) m) {batch : BatchOutcome}
    (returned : (m.commitPending writer st).1 = .ok batch) (failed : batch.failed = []) :
    (m.commitPending writer st).2.1.pending = [] := by
  have answered := answered_runWrites writer m.writtenSubject m.pending m st
  have entities := entities_runWrites writer m.writtenSubject m.pending m st
  have hbase := get?_baseline_commitPending writes.edits writes.regular m st
  refine Entries.eq_nil_of_get? fun e => ?_
  rw [(h.commitPending writes).consistent.get?_pending, Option.filter_eq_none_iff,
    current_commitPending_of_unedited unedited]
  intro current hcur
  rw [differs, hbase, Bool.not_eq_true, Bool.not_eq_false']
  by_cases hpend : e ∈ Entries.keys m.pending
  · -- the entity was written, and its baseline is the cell now
    obtain ⟨held, hheld⟩ := Entries.mem_keys_iff.mp hpend
    have hmem := Entries.mem_of_get? hheld
    obtain rfl : held = current := by
      have hget := (h.consistent.mem_pending_iff.mp hmem).1
      rw [hcur] at hget
      exact (Option.some.inj hget).symm
    rw [← answered] at hmem
    obtain ⟨⟨e', held', answer⟩, ha, heq⟩ := List.mem_map.mp hmem
    obtain ⟨rfl, rfl⟩ : e' = e ∧ held' = held := by simpa using heq
    obtain rfl : answer = .ok () := (ok_of_recordWrites _ _ _ returned failed).2 _ ha
    have hdistinct := h.consistent.distinct
    rw [← entities] at hdistinct
    rw [takeOver_of_mem hdistinct ha]
    exact Flags.same_self held'
  · -- the entity was clean, and its baseline is the old one
    have hnone : ∀ a ∈ (runWrites writer m.writtenSubject m.pending m st).1, a.1 ≠ e := by
      intro a ha he
      rw [← entities] at hpend
      exact hpend (List.mem_map.mpr ⟨a, ha, he⟩)
    rw [takeOver_of_not_mem hnone]
    by_contra hdiff
    have hmem := h.consistent.mem_pending_iff.mpr ⟨hcur, Bool.not_eq_true _ ▸ hdiff⟩
    exact hpend (Entries.mem_keys_of_mem hmem)

/-! ## Restoring defaults -/

/-- Resets leave the matrix alone, and the store as well unless one of them worked. -/
theorem resetAll_of_resets {view : σ → Stored} {resetter : Resetter σ}
    (resets : Resets view resetter) (subject : Value) :
    ∀ (entities : List String) (batch : BatchOutcome) (m : Matrix) (st : σ),
      ∃ batch', (resetAll resetter subject entities batch m st).1 = .ok batch' ∧
        (resetAll resetter subject entities batch m st).2.1 = m ∧
        (batch'.succeeded = [] → batch.succeeded = [] ∧
          view (resetAll resetter subject entities batch m st).2.2 = view st)
  | [], batch, _, _ => ⟨batch, rfl, rfl, fun h => ⟨h, rfl⟩⟩
  | entity :: rest, batch, m, st => by
      have hm := resets.matrix subject entity m st
      have ha := resets.answer subject entity m st
      unfold resetAll
      rcases hr : resetter subject entity m st with ⟨answer, m₁, st₁⟩
      simp only [hr] at hm ha
      subst hm
      rcases ha with ⟨rfl, -⟩ | ⟨⟨error, rfl⟩, hs⟩
      · obtain ⟨batch', hok, hm', hnone⟩ :=
          resetAll_of_resets resets subject rest (batch.addSuccess entity) m₁ st₁
        refine ⟨batch', hok, hm', fun h => ?_⟩
        exact absurd (hnone h).1 (List.append_ne_nil_of_right_ne_nil _ (List.cons_ne_nil entity []))
      · obtain ⟨batch', hok, hm', hnone⟩ := resetAll_of_resets resets subject rest
          (batch.addFailure entity (.console error)) m₁ st₁
        refine ⟨batch', hok, hm', fun h => ?_⟩
        rw [← hs]
        exact hnone h

/-- A subject that writes can go to is kept as it is. -/
theorem orElse_writtenSubject (m : Matrix) :
    m.writtenSubject.orElse (.text "") = m.writtenSubject := by
  unfold writtenSubject Value.orElse
  by_cases h : m.subject.truthy = true
  · rw [if_pos h, if_pos h]
  · rw [if_neg h, ite_self]

theorem orElse_text (s : String) : (Value.text s).orElse (.text "") = .text s := by
  unfold Value.orElse
  by_cases h : s = ""
  · rw [h, ite_self]
  · exact if_pos (by simpa [Value.truthy] using h)

theorem Mirrors.restoreDefaults {view : σ → Stored} {resetter : Resetter σ} {loader : Loader σ}
    (resets : Resets view resetter) (loads : Loads view loader) (entities : List String)
    {m : Matrix} {st : σ} (h : Mirrors (view st) m) :
    Mirrors (view (m.restoreDefaults resetter loader entities st).2.2)
      (m.restoreDefaults resetter loader entities st).2.1 := by
  obtain ⟨batch, hok, hm, hnone⟩ := resetAll_of_resets resets m.writtenSubject entities
    { action := "default ACL restore", subject := m.writtenSubject } m st
  rcases hr : resetAll resetter m.writtenSubject entities
    { action := "default ACL restore", subject := m.writtenSubject } m st with ⟨answer, m₁, st₁⟩
  simp only [hr] at hok hm hnone
  subst hok hm
  rw [restoreDefaults_of_resets hr]
  by_cases hs : batch.succeeded = []
  · rw [if_pos hs, (hnone hs).2]
    exact h
  · rw [if_neg hs]
    exact mirrors_loadBaseline loads (orElse_writtenSubject m₁) m₁ st₁

/-! ## Runs -/

/-- **After each operation of a single client the matrix mirrors the store.** -/
theorem ClientRun.mirrors {view : σ → Stored} {m : Matrix} {st : σ} (run : ClientRun view m st) :
    Mirrors (view st) m := by
  induction run with
  | new created st =>
    rw [eq_of_create created]
    exact mirrors_of_no_cells _ rfl rfl rfl
  | edit _ edit ih => exact ih.edit edit
  | loadBaseline _ loads subject ih => exact mirrors_loadBaseline loads (orElse_text subject) _ _
  | commitPending _ writes ih => exact ih.commitPending writes
  | restoreDefaults _ resets loads entities ih => exact ih.restoreDefaults resets loads entities

/-- **The matrix simulates the server.**  After any run of a single client, whatever failed:

* the baseline of every entity with a cell is the set that the server stores;
* every write that a commit issues is for the shown subject, carries the whole current set of its
  entity and differs from the stored one, a missing flag counting as off;
* a commit returns, and if the host did not edit meanwhile, its cells are those that it found; if no
  write failed either, the stored set of every entity with a cell has the flags of the cell, and
  nothing is pending. -/
theorem baseline_mirrors_server {view : σ → Stored} {m : Matrix} {st : σ}
    (run : ClientRun view m st) :
    (∀ entity ∈ m.entities, ∃ set, Entries.get? entity m.baseline = some set ∧
      view st m.subject entity = some set) ∧
    (∀ (writer : Writer σ) (subject : Value) (entity : String) (flags : Flags),
      (subject, entity, flags) ∈ (m.commitPending writer.noted (st, [])).2.2.2 →
        subject = m.subject ∧ Entries.get? entity m.current = some flags ∧
          ∃ set, view st m.subject entity = some set ∧
            ∃ name, flags.isSet name ≠ set.isSet name) ∧
    (∀ writer : Writer σ, Writes view writer →
      ∃ batch m' st', m.commitPending writer st = (.ok batch, m', st') ∧
        ((∀ subject entity flags m st, (writer subject entity flags m st).2.1 = m) →
          m'.subject = m.subject ∧ m'.current = m.current ∧ (batch.failed = [] →
            m'.pending = [] ∧ ∀ entity current, Entries.get? entity m'.current = some current →
              ∃ set, view st' m'.subject entity = some set ∧
                ∀ name, set.isSet name = current.isSet name))) := by
  have h := run.mirrors
  refine ⟨fun entity cell => h.exists_stored cell,
    fun writer subject entity flags call => h.of_mem_calls writer st call, fun writer writes => ?_⟩
  obtain ⟨batch, returned⟩ := exists_batch_commitPending writes.regular m st
  refine ⟨batch, (m.commitPending writer st).2.1, (m.commitPending writer st).2.2,
    Prod.ext returned rfl, fun unedited =>
      ⟨(eq_of_withoutCells (commitPending_withoutCells writes.edits m st)).1,
        current_commitPending_of_unedited unedited m st, fun failed => ?_⟩⟩
  have clean := h.pending_commitPending writes unedited returned failed
  exact ⟨clean, fun entity current cell => (h.commitPending writes).isSet_of_clean clean cell⟩

/-! ## A server that never fails -/

/-- The permission rows of each subject. -/
abbrev ServerRows := Value → PermissionRows

/-- What rows by subject store. -/
def ServerRows.view (rows : ServerRows) : Stored := fun subject entity =>
  Entries.get? entity (rows subject)

def loadRows : Loader ServerRows := fun subject m rows => (.ok (rowsDocument (rows subject)), m, rows)

def writeRows : Writer ServerRows := fun subject entity flags m rows =>
  (.ok (), m, Function.update rows subject (Entries.put entity flags (rows subject)))

theorem loads_loadRows : Loads ServerRows.view loadRows where
  matrix _ _ _ := rfl
  store _ _ _ := rfl
  answer subject _ rows := .inr ⟨rows subject, rfl, fun _ => rfl⟩

theorem writes_writeRows : Writes ServerRows.view writeRows where
  edits _ _ _ _ _ := .refl
  answer subject entity flags m rows := by
    refine .inl ⟨rfl, funext fun u => funext fun e => ?_⟩
    simp only [writeRows, ServerRows.view, Stored.write]
    by_cases hu : u = subject
    · subst hu
      rw [Function.update_self, Entries.get?_put]
      simp only [true_and]
    · rw [Function.update_of_ne hu, if_neg fun h => hu h.1]

/-- The server from which the cell of `toggledCell` was loaded. -/
def toggledCellRows : ServerRows := fun _ => [("orders", [(.text "read", .bool true)])]

theorem clientRun_toggledCell : ClientRun ServerRows.view toggledCell toggledCellRows := by
  have started : ClientRun ServerRows.view {} toggledCellRows := .new (n := .int 4) rfl _
  exact (started.loadBaseline loads_loadRows "alice").edit (.toggle "orders" "read")

theorem baseline_mirrors_server_toggledCell :
    ClientRun ServerRows.view toggledCell toggledCellRows ∧
    (∃ set, Entries.get? "orders" toggledCell.baseline = some set ∧
      toggledCellRows.view (.text "alice") "orders" = some set) ∧
    ∃ batch m' rows, toggledCell.commitPending writeRows toggledCellRows = (.ok batch, m', rows) ∧
      m'.current = toggledCell.current ∧ m'.pending = [] ∧
      ∃ set, rows.view m'.subject "orders" = some set ∧
        ∀ name, set.isSet name = Flags.isSet [(.text "read", .bool false)] name := by
  obtain ⟨hstored, -, hcommit⟩ := baseline_mirrors_server clientRun_toggledCell
  obtain ⟨batch, m', rows, hrun, hquiet⟩ := hcommit writeRows writes_writeRows
  obtain ⟨-, hcurrent, hclean⟩ := hquiet fun _ _ _ _ _ => rfl
  obtain rfl : _ = batch := Except.ok.inj (congrArg Prod.fst hrun)
  obtain ⟨hpending, hshown⟩ := hclean rfl
  exact ⟨clientRun_toggledCell, hstored "orders" (by decide), _, m', rows, hrun, hcurrent, hpending,
    hshown "orders" _ (by rw [hcurrent]; rfl)⟩

end AdminConsole.Matrix
