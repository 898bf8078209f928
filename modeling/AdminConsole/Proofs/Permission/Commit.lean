import AdminConsole.Proofs.Permission.Pending

/-!
# Proofs/Permission/Commit — what a commit writes and what it records

The writes of a commit are the pending entries at its start (`calls_commitPending`).  When every
answer is a success or a console error, the commit returns, its baselines are the old ones with
the sets taken over that were written (`baseline_recordWrites`), and without a failure in the
batch no write has failed (`ok_of_recordWrites`).
-/

namespace AdminConsole.Matrix

variable {σ : Type}

/-- The answer to the write of a set. -/
abbrev WriteAnswer := String × Flags × Except Fault Unit

/-- An answer that a commit survives: a success or a console error. -/
def Regular (answer : Except Fault Unit) : Prop :=
  answer = .ok () ∨ ∃ error, answer = .error (.console error)

/-- Sets by entity, with those taken over that were written. -/
def takeOver : List WriteAnswer → (String → Option Flags) → String → Option Flags
  | [], sets => sets
  | (entity, flags, .ok ()) :: rest, sets =>
      takeOver rest fun e => if e = entity then some flags else sets e
  | (_, _, .error _) :: rest, sets => takeOver rest sets

/-! ## Sets taken over -/

theorem takeOver_of_not_mem {e : String} : ∀ {answers : List WriteAnswer}
    {sets : String → Option Flags}, (∀ a ∈ answers, a.1 ≠ e) → takeOver answers sets e = sets e
  | [], _, _ => rfl
  | (entity, flags, .ok ()) :: rest, sets, h => by
      rw [takeOver, takeOver_of_not_mem fun a ha => h a (List.mem_cons_of_mem _ ha)]
      exact if_neg (Ne.symm (h _ List.mem_cons_self))
  | (_, _, .error _) :: rest, sets, h => by
      rw [takeOver, takeOver_of_not_mem fun a ha => h a (List.mem_cons_of_mem _ ha)]

/-- **A set that was written is the one taken over**, an entity being written at most once. -/
theorem takeOver_of_mem {e : String} {set : Flags} : ∀ {answers : List WriteAnswer}
    {sets : String → Option Flags}, (answers.map Prod.fst).Nodup → (e, set, .ok ()) ∈ answers →
      takeOver answers sets e = some set
  | [], _, _, h => by simp at h
  | (entity, flags, .ok ()) :: rest, sets, hn, h => by
      obtain ⟨hhead, hn⟩ := List.nodup_cons.mp hn
      rcases List.mem_cons.mp h with h | h
      · obtain ⟨rfl, rfl⟩ : e = entity ∧ set = flags := by simpa using h
        have hrest : ∀ a ∈ rest, a.1 ≠ e := fun a ha he => hhead (List.mem_map.mpr ⟨a, ha, he⟩)
        rw [takeOver, takeOver_of_not_mem hrest, if_pos rfl]
      · rw [takeOver]
        exact takeOver_of_mem hn h
  | (_, _, .error _) :: rest, sets, hn, h => by
      have hrest : (e, set, .ok ()) ∈ rest := by simpa using h
      rw [takeOver]
      exact takeOver_of_mem (List.nodup_cons.mp hn).2 hrest

/-- What two families of sets share, they share after taking over the same writes. -/
theorem takeOver_mono : ∀ (answers : List WriteAnswer) {sets sets' : String → Option Flags},
    (∀ e set, sets e = some set → sets' e = some set) →
      ∀ e set, takeOver answers sets e = some set → takeOver answers sets' e = some set
  | [], _, _, h => h
  | (entity, flags, .ok ()) :: rest, sets, sets', h => by
      refine takeOver_mono rest fun e set => ?_
      by_cases he : e = entity
      · rw [if_pos he, if_pos he]
        exact id
      · rw [if_neg he, if_neg he]
        exact h e set
  | (_, _, .error _) :: rest, _, _, h => takeOver_mono rest h

/-! ## Running the writes -/

/-- **Every pending entry is written once, with its set.** -/
theorem answered_runWrites (writer : Writer σ) (subject : Value) :
    ∀ (snapshot : PermissionRows) (m : Matrix) (st : σ),
      (runWrites writer subject snapshot m st).1.map (fun a => (a.1, a.2.1)) = snapshot
  | [], _, _ => rfl
  | (entity, flags) :: rest, _, _ =>
      congrArg ((entity, flags) :: ·) (answered_runWrites writer subject rest _ _)

theorem entities_runWrites (writer : Writer σ) (subject : Value) (snapshot : PermissionRows)
    (m : Matrix) (st : σ) :
    (runWrites writer subject snapshot m st).1.map Prod.fst = Entries.keys snapshot := by
  have h := congrArg Entries.keys (answered_runWrites writer subject snapshot m st)
  rwa [Entries.keys, List.map_map] at h

theorem regular_runWrites {writer : Writer σ}
    (regular : ∀ subject entity flags m st, Regular (writer subject entity flags m st).1)
    (subject : Value) : ∀ (snapshot : PermissionRows) (m : Matrix) (st : σ),
      ∀ a ∈ (runWrites writer subject snapshot m st).1, Regular a.2.2
  | [], _, _ => by simp [runWrites]
  | (entity, flags) :: rest, m, st => by
      intro a ha
      rcases List.mem_cons.mp ha with rfl | ha
      · exact regular subject entity flags m st
      · exact regular_runWrites regular subject rest _ _ a ha

/-- A writer that also notes its calls. -/
def Writer.noted (writer : Writer σ) : Writer (σ × List (Value × String × Flags)) :=
  fun subject entity flags m st =>
    let (answer, m, st') := writer subject entity flags m st.1
    (answer, m, st', st.2 ++ [(subject, entity, flags)])

theorem calls_runWrites (writer : Writer σ) (subject : Value) :
    ∀ (snapshot : PermissionRows) (m : Matrix) (st : σ) (calls : List (Value × String × Flags)),
      (runWrites writer.noted subject snapshot m (st, calls)).2.2.2
        = calls ++ snapshot.map fun (entity, flags) => (subject, entity, flags)
  | [], _, _, calls => (List.append_nil calls).symm
  | (entity, flags) :: rest, m, st, calls => by
      refine (calls_runWrites writer subject rest _ _ _).trans ?_
      rw [List.append_assoc]
      rfl

/-- **The calls of a commit are the entries that were pending at its start.** -/
theorem calls_commitPending (writer : Writer σ) (m : Matrix) (st : σ) :
    (m.commitPending writer.noted (st, [])).2.2.2
      = m.pending.map fun (entity, flags) => (m.writtenSubject, entity, flags) :=
  calls_runWrites writer m.writtenSubject m.pending m st []

/-! ## Recording the answers -/

/-- **Recording answers changes baselines and the pending map only.** -/
theorem recordWrites_frame (answers : List WriteAnswer) (batch : BatchOutcome) (m : Matrix) :
    (recordWrites answers batch m).2.withoutCells = m.withoutCells ∧
      (recordWrites answers batch m).2.current = m.current := by
  refine recordWrites_keeps (P := fun m' => m'.withoutCells = m.withoutCells ∧
    m'.current = m.current) (fun m' entity flags h => ?_) answers batch m ⟨rfl, rfl⟩
  rw [written_withoutCells, written_current]
  exact h

/-- **The baselines after a commit** are the old ones with the written sets taken over. -/
theorem baseline_recordWrites : ∀ (answers : List WriteAnswer) (batch : BatchOutcome) (m : Matrix),
    (∀ a ∈ answers, Regular a.2.2) → ∀ e,
      Entries.get? e (recordWrites answers batch m).2.baseline
        = takeOver answers (fun e => Entries.get? e m.baseline) e
  | [], _, _, _, _ => rfl
  | (entity, flags, .ok ()) :: rest, batch, m, h, e => by
      have ih := baseline_recordWrites rest (batch.addSuccess entity) (m.written entity flags)
        (fun a ha => h a (List.mem_cons_of_mem _ ha)) e
      simp only [written_baseline, Entries.get?_put] at ih
      exact ih
  | (entity, flags, .error (.console error)) :: rest, batch, m, h, e =>
      baseline_recordWrites rest _ m (fun a ha => h a (List.mem_cons_of_mem _ ha)) e
  | (_, _, .error (.mishap _)) :: _, _, _, h, _ => by
      simpa [Regular] using h _ List.mem_cons_self
  | (_, _, .error (.invalid _)) :: _, _, _, h, _ => by
      simpa [Regular] using h _ List.mem_cons_self

/-- Recording answers of entities that have a baseline adds no entity. -/
theorem keys_baseline_recordWrites : ∀ (answers : List WriteAnswer) (batch : BatchOutcome)
    (m : Matrix), (∀ a ∈ answers, a.1 ∈ Entries.keys m.baseline) →
      Entries.keys (recordWrites answers batch m).2.baseline = Entries.keys m.baseline
  | [], _, _, _ => rfl
  | (entity, flags, .ok ()) :: rest, batch, m, h => by
      have hk : Entries.keys (m.written entity flags).baseline = Entries.keys m.baseline := by
        rw [written_baseline]
        exact Entries.keys_put_of_mem flags (h _ List.mem_cons_self)
      refine (keys_baseline_recordWrites rest _ _ fun a ha => ?_).trans hk
      rw [hk]
      exact h a (List.mem_cons_of_mem _ ha)
  | (entity, flags, .error (.console error)) :: rest, batch, m, h =>
      keys_baseline_recordWrites rest _ m fun a ha => h a (List.mem_cons_of_mem _ ha)
  | (_, _, .error (.mishap _)) :: _, _, _, _ => rfl
  | (_, _, .error (.invalid _)) :: _, _, _, _ => rfl

/-- Regular answers end in a batch. -/
theorem exists_batch_recordWrites : ∀ (answers : List WriteAnswer) (batch : BatchOutcome)
    (m : Matrix), (∀ a ∈ answers, Regular a.2.2) →
      ∃ batch', (recordWrites answers batch m).1 = .ok batch'
  | [], _, _, _ => ⟨_, rfl⟩
  | (entity, flags, .ok ()) :: rest, _, _, h =>
      exists_batch_recordWrites rest _ _ fun a ha => h a (List.mem_cons_of_mem _ ha)
  | (entity, flags, .error (.console error)) :: rest, _, m, h =>
      exists_batch_recordWrites rest _ m fun a ha => h a (List.mem_cons_of_mem _ ha)
  | (_, _, .error (.mishap _)) :: _, _, _, h => by
      simpa [Regular] using h _ List.mem_cons_self
  | (_, _, .error (.invalid _)) :: _, _, _, h => by
      simpa [Regular] using h _ List.mem_cons_self

/-- A failure that is noted in a batch stays there. -/
theorem addFailure_failed_ne_nil (batch : BatchOutcome) (entity : String) (error : Fault) :
    (batch.addFailure entity error).failed ≠ [] :=
  List.ne_nil_of_mem (Entries.mem_put_self entity error batch.failed)

/-- **A batch without failures has had none**: every write of it was answered well. -/
theorem ok_of_recordWrites : ∀ (answers : List WriteAnswer) (batch : BatchOutcome) (m : Matrix)
    {batch' : BatchOutcome}, (recordWrites answers batch m).1 = .ok batch' → batch'.failed = [] →
      batch.failed = [] ∧ ∀ a ∈ answers, a.2.2 = .ok ()
  | [], batch, _, batch', h, hf => by
      obtain rfl := Except.ok.inj h
      exact ⟨hf, by simp⟩
  | (entity, flags, .ok ()) :: rest, batch, m, batch', h, hf => by
      obtain ⟨hb, hrest⟩ := ok_of_recordWrites rest (batch.addSuccess entity) _ h hf
      refine ⟨hb, fun a ha => ?_⟩
      rcases List.mem_cons.mp ha with rfl | ha
      · rfl
      · exact hrest a ha
  | (entity, flags, .error (.console error)) :: rest, batch, m, _, h, hf =>
      absurd (ok_of_recordWrites rest _ m h hf).1
        (addFailure_failed_ne_nil batch entity (.console error))
  | (_, _, .error (.mishap _)) :: _, _, _, _, h, _ => nomatch h
  | (_, _, .error (.invalid _)) :: _, _, _, _, h, _ => nomatch h

/-- **The steps of single writes** are those of all writes together. -/
theorem steps_runWrites {Step : Matrix → Matrix → Prop} {writer : Writer σ}
    (stepping : ∀ subject entity flags m st,
      Relation.ReflTransGen Step m (writer subject entity flags m st).2.1)
    (subject : Value) (snapshot : PermissionRows) (m : Matrix) (st : σ) :
    Relation.ReflTransGen Step m (runWrites writer subject snapshot m st).2.1 :=
  runWrites_keeps (P := Relation.ReflTransGen Step m) (fun subject entity flags m st h =>
    h.trans (stepping subject entity flags m st)) subject snapshot m st .refl

/-! ## The commit as a whole

The host may edit while the writes run; nothing else happens to the matrix. -/

section Commit

variable {writer : Writer σ}
  (editing : ∀ subject entity flags m st, Edits m (writer subject entity flags m st).2.1)

include editing

theorem edits_runWrites (subject : Value) (snapshot : PermissionRows) (m : Matrix) (st : σ) :
    Edits m (runWrites writer subject snapshot m st).2.1 :=
  steps_runWrites editing subject snapshot m st

/-- **A commit changes cells only**: the subject and the state of its load stay. -/
theorem commitPending_withoutCells (m : Matrix) (st : σ) :
    (m.commitPending writer st).2.1.withoutCells = m.withoutCells :=
  (recordWrites_frame _ _ _).1.trans (edits_runWrites editing _ m.pending m st).frame.1

omit editing in
theorem current_commitPending (m : Matrix) (st : σ) :
    (m.commitPending writer st).2.1.current
      = (runWrites writer m.writtenSubject m.pending m st).2.1.current :=
  (recordWrites_frame _ _ _).2

theorem get?_baseline_commitPending
    (regular : ∀ subject entity flags m st, Regular (writer subject entity flags m st).1)
    (m : Matrix) (st : σ) (e : String) :
    Entries.get? e (m.commitPending writer st).2.1.baseline
      = takeOver (runWrites writer m.writtenSubject m.pending m st).1
          (fun e => Entries.get? e m.baseline) e := by
  have edited := edits_runWrites editing m.writtenSubject m.pending m st
  refine (baseline_recordWrites _ _ _ (regular_runWrites regular _ _ m st) e).trans ?_
  rw [edited.frame.2]

omit editing in
/-- **A commit whose answers are regular returns a batch.** -/
theorem exists_batch_commitPending
    (regular : ∀ subject entity flags m st, Regular (writer subject entity flags m st).1)
    (m : Matrix) (st : σ) : ∃ batch, (m.commitPending writer st).1 = .ok batch :=
  exists_batch_recordWrites _ _ _ (regular_runWrites regular m.writtenSubject m.pending m st)

/-- **A commit adds no entity and drops none.** -/
theorem keys_commitPending {m : Matrix} (h : Consistent m)
    (hk : Entries.keys m.current = Entries.keys m.baseline) (st : σ) :
    Entries.keys (m.commitPending writer st).2.1.baseline = Entries.keys m.baseline ∧
      Entries.keys (m.commitPending writer st).2.1.current = Entries.keys m.baseline := by
  have hedits := edits_runWrites editing m.writtenSubject m.pending m st
  have hb := hedits.frame.2
  have hanswered : ∀ a ∈ (runWrites writer m.writtenSubject m.pending m st).1,
      a.1 ∈ Entries.keys (runWrites writer m.writtenSubject m.pending m st).2.1.baseline := by
    intro a ha
    have hp : a.1 ∈ Entries.keys m.pending := by
      rw [← entities_runWrites writer m.writtenSubject m.pending m st]
      exact List.mem_map_of_mem ha
    obtain ⟨flags, hflags⟩ := Entries.mem_keys_iff.mp hp
    rw [hb, ← hk, Entries.mem_keys_iff]
    exact ⟨flags, (h.mem_pending_iff.mp (Entries.mem_of_get? hflags)).1⟩
  refine ⟨?_, ?_⟩
  · refine (keys_baseline_recordWrites _ _ _ hanswered).trans ?_
    rw [hb]
  · rw [current_commitPending, hedits.keys_current hk, hb]

end Commit

end AdminConsole.Matrix
