import AdminConsole.Proofs.Permission.Newest

/-!
# Proofs/Permission/Ended — a load ends, or leaves the matrix to a newer one

A loader may work on the matrix before it answers: it edits, commits, restores and loads, as it
likes.  `Meanwhile` are these operations, with the number of loads that they began.

A load that was begun later has a later tag (`Meanwhile.generation_eq`), so if there was one the
answer changes nothing (`loadBaseline_of_stale`).  If there was none, the operations had no cell to
work on and changed nothing themselves (`Meanwhile.eq_self`), and the answer ends the load: with
the rows that it brings, or with an error (`loadBaseline_of_current`, `load_ends`).
-/

namespace AdminConsole.Matrix

variable {σ : Type}

/-- **Operations while a load under a tag is waited for**, and how many loads they began.  Whoever
answers in the course of them may run operations as well.  Only the answer to the load itself is not
among them. -/
inductive Meanwhile (tag : Int) : Nat → Matrix → Matrix → Prop
  | nil (m : Matrix) : Meanwhile tag 0 m m
  | append {n k : Nat} {m m₁ m₂ : Matrix} (first : Meanwhile tag n m m₁)
      (second : Meanwhile tag k m₁ m₂) : Meanwhile tag (n + k) m m₂
  | edit {m m' : Matrix} (edit : Edit m m') : Meanwhile tag 0 m m'
  | beginLoad (m : Matrix) (subject : Value) : Meanwhile tag 1 m (m.beginLoad subject).1
  | applyBaseline (m : Matrix) {other : Int} (foreign : other ≠ tag) (rows : Value) :
      Meanwhile tag 0 m (m.after (m.applyBaseline other rows))
  | failLoad (m : Matrix) {other : Int} (foreign : other ≠ tag) (error : Fault) :
      Meanwhile tag 0 m (m.failLoad other error).1
  | loadBaseline {n : Nat} {m : Matrix} {σ : Type} (loader : Loader σ) (subject : Value) (st : σ)
      (loading : Meanwhile tag n (m.beginLoad subject).1
        (loader subject (m.beginLoad subject).1 st).2.1) :
      Meanwhile tag (n + 1) m (Matrix.loadBaseline loader subject m st).2.1
  | commitPending {n : Nat} {m : Matrix} {σ : Type} (writer : Writer σ) (st : σ)
      (writing : Meanwhile tag n m (runWrites writer m.writtenSubject m.pending m st).2.1) :
      Meanwhile tag n m (m.commitPending writer st).2.1
  /-- No reset worked, or one raised: nothing is loaded. -/
  | restoreNothing {n : Nat} {m m₁ : Matrix} {σ : Type} {st₁ : σ}
      {answer : Except Fault BatchOutcome} (resetter : Resetter σ) (loader : Loader σ)
      (entities : List String) (st : σ)
      (resets : resetAll resetter m.writtenSubject entities
        { action := "default ACL restore", subject := m.writtenSubject } m st = (answer, m₁, st₁))
      (failed : ∀ batch, answer = .ok batch → batch.succeeded = [])
      (resetting : Meanwhile tag n m m₁) :
      Meanwhile tag n m (m.restoreDefaults resetter loader entities st).2.1
  /-- Some reset worked: the rows are loaded again. -/
  | restoreDefaults {n k : Nat} {m m₁ : Matrix} {σ : Type} {st₁ : σ} {batch : BatchOutcome}
      (resetter : Resetter σ) (loader : Loader σ) (entities : List String) (st : σ)
      (resets : resetAll resetter m.writtenSubject entities
        { action := "default ACL restore", subject := m.writtenSubject } m st =
          (.ok batch, m₁, st₁))
      (worked : batch.succeeded ≠ []) (resetting : Meanwhile tag n m m₁)
      (loading : Meanwhile tag k (m₁.beginLoad m.writtenSubject).1
        (loader m.writtenSubject (m₁.beginLoad m.writtenSubject).1 st₁).2.1) :
      Meanwhile tag (n + (k + 1)) m (m.restoreDefaults resetter loader entities st).2.1

/-- A row of an answer can be read as a mapping. -/
def ReadsAs (e : Scalar × Value) (row : String × Flags) : Prop :=
  e.1.plain = row.1 ∧ e.2.toMapping = .ok row.2

/-- **The rows that an answer brings**: it is a mapping, and each of its rows can be read as one. -/
def Brings (answer : Except Fault Value) (rows : PermissionRows) : Prop :=
  ∃ es, answer = .ok (.map es) ∧ List.Forall₂ ReadsAs es rows

variable {loader : Loader σ} {subject : Value} {m m₁ : Matrix} {st st₁ : σ}
  {answer : Except Fault Value} {rows : PermissionRows}

/-! ## Reading rows -/

theorem readEntries_eq_ok_iff (es : List (Scalar × Value)) (rows : PermissionRows) :
    readRows.readEntries es = .ok rows ↔ List.Forall₂ ReadsAs es rows := by
  induction es generalizing rows with
  | nil => cases rows <;> simp [readRows.readEntries]
  | cons e rest ih =>
    rw [readRows.readEntries]
    cases hv : e.2.toMapping with
    | error f => cases rows <;> simp [bind, Except.bind, ReadsAs, hv]
    | ok flags =>
      cases hrest : readRows.readEntries rest with
      | error f => cases rows <;> simp [bind, Except.bind, ← ih, hrest]
      | ok rows' =>
        cases rows <;>
          simp [bind, Except.bind, pure, Except.pure, ReadsAs, Prod.ext_iff, ← ih, hv, hrest]

theorem brings_ok_iff {v : Value} : Brings (.ok v) rows ↔ readRows v = .ok rows := by
  cases v with
  | map es => simp [Brings, readRows, readEntries_eq_ok_iff]
  | _ => simp [Brings, readRows]

theorem not_brings_error (f : Fault) : ¬ Brings (.error f) rows := by
  rintro ⟨es, h, -⟩
  nomatch h

/-! ## The answer to a load -/

section Answer

variable (asked : loader subject (m.beginLoad subject).1 st = (answer, m₁, st₁))

include asked

/-- **An answer under an old tag leaves what the loader left.** -/
theorem loadBaseline_of_stale (stale : (m.beginLoad subject).2 ≠ m₁.sequencer.generation) :
    ∃ outcome, loadBaseline loader subject m st = (outcome, m₁, st₁) := by
  unfold loadBaseline
  simp only [asked, failLoad_of_ne stale]
  cases answer with
  | error f => exact ⟨_, rfl⟩
  | ok v =>
    have ha := ((m₁.applyBaseline_cases _ v).resolve_right fun h => stale h.1).2
    simp only [ha]
    exact ⟨_, rfl⟩

/-- **An answer under the latest tag ends the load**, with its rows or with an error. -/
theorem loadBaseline_of_current (current : (m.beginLoad subject).2 = m₁.sequencer.generation) :
    (∃ rows message, Brings answer rows ∧
      loadBaseline loader subject m st = (.success message, m₁.install rows, st₁)) ∨
    ∃ error message, (∀ rows, ¬ Brings answer rows) ∧
      loadBaseline loader subject m st = (.remoteFailure message error,
        { m₁ with loading := false, loadError := some error }, st₁) := by
  have hcurrent : m₁.sequencer.isCurrent (m.beginLoad subject).2 = true := beq_iff_eq.mpr current
  have hfail (error : Fault) : (m₁.failLoad (m.beginLoad subject).2 error).1 =
      { m₁ with loading := false, loadError := some error } := by rw [failLoad, if_pos hcurrent]
  unfold loadBaseline
  simp only [asked, hfail]
  cases answer with
  | error f => exact .inr ⟨_, _, fun rows => not_brings_error f, rfl⟩
  | ok v =>
    simp only [brings_ok_iff]
    rw [applyBaseline, if_pos hcurrent]
    cases readRows v with
    | error f => exact .inr ⟨_, _, by simp, rfl⟩
    | ok rows => exact .inl ⟨rows, _, rfl, rfl⟩

/-- Only the start of a load takes a tag. -/
theorem loadBaseline_sequencer :
    (loadBaseline loader subject m st).2.1.sequencer = m₁.sequencer := by
  by_cases current : (m.beginLoad subject).2 = m₁.sequencer.generation
  · rcases loadBaseline_of_current asked current with ⟨rows, message, -, h⟩ | ⟨_, _, -, h⟩
    · rw [h, install]
    · rw [h]
  · obtain ⟨outcome, h⟩ := loadBaseline_of_stale asked current
    rw [h]

end Answer

/-! ## Restores -/

section Restore

variable {resetter : Resetter σ} {entities : List String}

theorem restoreDefaults_of_failed {answer : Except Fault BatchOutcome}
    (resets : resetAll resetter m.writtenSubject entities
      { action := "default ACL restore", subject := m.writtenSubject } m st = (answer, m₁, st₁))
    (failed : ∀ batch, answer = .ok batch → batch.succeeded = []) :
    (m.restoreDefaults resetter loader entities st).2.1 = m₁ := by
  cases answer with
  | error f => rw [restoreDefaults_of_error resets]
  | ok batch => rw [restoreDefaults_of_resets resets, if_pos (failed batch rfl)]

theorem restoreDefaults_of_worked {batch : BatchOutcome}
    (resets : resetAll resetter m.writtenSubject entities
      { action := "default ACL restore", subject := m.writtenSubject } m st =
        (.ok batch, m₁, st₁))
    (worked : batch.succeeded ≠ []) :
    (m.restoreDefaults resetter loader entities st).2.1 =
      (loadBaseline loader m.writtenSubject m₁ st₁).2.1 := by
  rw [restoreDefaults_of_resets resets, if_neg worked]

end Restore

/-! ## Operations while a load is waited for -/

theorem after_applyBaseline_sequencer (m : Matrix) (tag : Int) (rows : Value) :
    (m.after (m.applyBaseline tag rows)).sequencer = m.sequencer := by
  rcases m.applyBaseline_cases tag rows with ⟨-, ha⟩ | ⟨-, ⟨f, ha⟩ | ⟨rows', -, ha⟩⟩
  · rw [ha]
    rfl
  · rw [ha]
    rfl
  · rw [ha]
    rfl

/-- **Every load that was begun took the next tag.** -/
theorem Meanwhile.generation_eq {tag : Int} {begun : Nat} {m m' : Matrix}
    (run : Meanwhile tag begun m m') :
    m'.sequencer.generation = m.sequencer.generation + begun := by
  induction run with
  | nil m => exact (Int.add_zero _).symm
  | append _ _ ih ih' =>
    push_cast
    omega
  | edit edit =>
    have frame := (Edits.frame (.single edit)).1
    rw [(eq_of_withoutCells frame).2.1]
    exact (Int.add_zero _).symm
  | beginLoad m subject => rfl
  | applyBaseline m foreign rows =>
    rw [after_applyBaseline_sequencer]
    exact (Int.add_zero _).symm
  | @failLoad m other foreign error =>
    have kept : (m.failLoad other error).1.sequencer = m.sequencer :=
      failLoad_keeps (P := fun m' => m'.sequencer = m.sequencer) (fun _ _ h => h) other error rfl
    rw [kept]
    exact (Int.add_zero _).symm
  | @loadBaseline _ m _ loader subject st _ ih =>
    rw [loadBaseline_sequencer rfl, ih]
    change m.sequencer.generation + 1 + _ = _
    push_cast
    omega
  | commitPending writer st _ ih =>
    rw [← ih]
    exact congrArg Sequencer.generation (eq_of_withoutCells (recordWrites_frame _ _ _).1).2.1
  | restoreNothing resetter loader entities st resets failed _ ih =>
    rw [restoreDefaults_of_failed resets failed, ih]
  | @restoreDefaults _ _ m m₁ _ _ _ resetter loader entities st resets worked _ _ ih ih' =>
    rw [restoreDefaults_of_worked resets worked, loadBaseline_sequencer rfl, ih']
    change m₁.sequencer.generation + 1 + _ = _
    push_cast
    omega

/-- **Operations without cells change nothing**, unless they begin a load. -/
theorem Meanwhile.eq_self {tag : Int} {begun : Nat} {m m' : Matrix}
    (run : Meanwhile tag begun m m') (none : begun = 0) (latest : tag = m.sequencer.generation)
    (empty : m.withoutCells = m) : m' = m := by
  induction run with
  | nil m => rfl
  | append _ _ ih ih' =>
    obtain ⟨hn, hk⟩ := Nat.add_eq_zero_iff.mp none
    obtain rfl := ih hn latest empty
    exact ih' hk latest empty
  | edit edit =>
    rcases edit.cases with rfl | rfl | ⟨entity, old, flags, hold, -, -⟩
    · rfl
    · rw [← empty]
      rfl
    · rw [← empty] at hold
      nomatch hold
  | beginLoad m subject => nomatch none
  | applyBaseline m foreign rows =>
    rcases m.applyBaseline_cases _ rows with ⟨-, ha⟩ | ⟨current, -⟩
    · rw [ha]
      rfl
    · exact absurd (current.trans latest.symm) foreign
  | failLoad m foreign error =>
    rw [failLoad_of_ne fun current => foreign (current.trans latest.symm)]
  | loadBaseline loader subject st _ _ => nomatch none
  | commitPending writer st _ _ =>
    -- there is nothing pending to write
    rw [← empty]
    rfl
  | restoreNothing resetter loader entities st resets failed _ ih =>
    rw [restoreDefaults_of_failed resets failed]
    exact ih none latest empty
  | restoreDefaults => nomatch none

/-- **A load always ends.**  Take any matrix, any subject, and any loader, whatever it answers and
whatever it did on the matrix before, except to answer this load itself.

* If no newer load was begun, the matrix is not loading any more.  Either the outcome is a success,
  there is no load error, and baselines and cells are the rows of the answer with nothing pending;
  or the outcome has an error, which is the load error, and no entity is loaded.  The first holds
  exactly if the answer brings rows.
* If a newer load was begun, the matrix is exactly what the loader left. -/
theorem load_ends {begun : Nat}
    (asked : loader subject (m.beginLoad subject).1 st = (answer, m₁, st₁))
    (meanwhile : Meanwhile (m.beginLoad subject).2 begun (m.beginLoad subject).1 m₁) :
    ∃ outcome m', loadBaseline loader subject m st = (outcome, m', st₁) ∧
      (begun = 0 → m'.loading = false ∧
        ((∃ rows, Brings answer rows ∧ outcome.ok = true ∧ m'.loadError = none ∧
            m'.baseline = rows ∧ m'.current = rows ∧ m'.pending = []) ∨
          ∃ error, (∀ rows, ¬ Brings answer rows) ∧ outcome.ok = false ∧
            outcome.error = some error ∧ m'.loadError = some error ∧ m'.entities = [])) ∧
      (begun ≠ 0 → m' = m₁) := by
  by_cases hbegun : begun = 0
  · obtain rfl := meanwhile.eq_self hbegun rfl rfl
    rcases loadBaseline_of_current asked rfl with
      ⟨rows, message, brings, h⟩ | ⟨error, message, none, h⟩
    · refine ⟨_, _, h, fun _ => ⟨rfl, .inl ?_⟩, fun h => absurd hbegun h⟩
      exact ⟨rows, brings, rfl, rfl, rfl, rfl, rfl⟩
    · refine ⟨_, _, h, fun _ => ⟨rfl, .inr ?_⟩, fun h => absurd hbegun h⟩
      exact ⟨error, none, rfl, rfl, rfl, rfl⟩
  · have hgeneration := meanwhile.generation_eq
    have stale : (m.beginLoad subject).2 ≠ m₁.sequencer.generation := by
      change _ = (m.beginLoad subject).2 + _ at hgeneration
      omega
    obtain ⟨outcome, h⟩ := loadBaseline_of_stale asked stale
    exact ⟨outcome, m₁, h, fun none => absurd none hbegun, fun _ => rfl⟩

/-- A loader that loads the rows of bob before it answers. -/
def loadsBob : Loader Unit := fun _ m st =>
  let answered : Loader Unit := fun _ m st => (.ok overtakingRows, m, st)
  (.ok (.object []), (loadBaseline answered (.text "bob") m st).2.1, st)

/-- A loader that tries a toggle, and whose answer has a row that is no mapping. -/
def answersBroken : Loader Unit := fun _ m st =>
  (.ok (.object [("orders", .int 5)]), m.after (m.toggle "orders" "read"), st)

/-- A load of alice during which bob was loaded shows bob; one with a broken answer has ended with
an error and no entity. -/
theorem load_ends_overtaken :
    (Meanwhile 1 1 (({} : Matrix).beginLoad (.text "alice")).1 overtaken ∧
      ∃ outcome, loadBaseline loadsBob (.text "alice") {} () = (outcome, overtaken, ())) ∧
    ∃ outcome m' error, loadBaseline answersBroken (.text "alice") {} () = (outcome, m', ()) ∧
      m'.loading = false ∧ outcome.error = some error ∧ m'.loadError = some error ∧
      m'.entities = [] := by
  have asked : loadsBob (.text "alice") (({} : Matrix).beginLoad (.text "alice")).1 () =
      (.ok (.object []), overtaken, ()) := rfl
  have newer : Meanwhile 1 1 (({} : Matrix).beginLoad (.text "alice")).1 overtaken :=
    .loadBaseline (fun _ m st => (.ok overtakingRows, m, st)) (.text "bob") () (.nil _)
  obtain ⟨outcome, m', hload, -, hnewer⟩ := load_ends asked newer
  obtain rfl := hnewer Nat.one_ne_zero
  refine ⟨⟨newer, outcome, hload⟩, ?_⟩
  have asked' : answersBroken (.text "alice") (({} : Matrix).beginLoad (.text "alice")).1 () =
      (.ok (.object [("orders", .int 5)]), _, ()) := rfl
  obtain ⟨outcome', m', hload', hended, -⟩ := load_ends asked' (.edit (.toggle "orders" "read"))
  obtain ⟨hloading, ⟨rows, ⟨es, hes, hrows⟩, -⟩ | ⟨error, -, -, herror, hloadError, hentities⟩⟩ :=
    hended rfl
  · -- the row cannot be read
    obtain rfl : [(.text "orders", .int 5)] = es := by simpa [Value.object] using hes
    obtain ⟨row, _, hrow, -, -⟩ := List.forall₂_cons_left_iff.mp hrows
    nomatch hrow.2
  · exact ⟨outcome', m', error, hload', hloading, herror, hloadError, hentities⟩

end AdminConsole.Matrix
