import AdminConsole.Proofs.Permission.Mirror
import AdminConsole.Proofs.Permission.Recording

/-!
# Proofs/Permission/Attribution — which write a result belongs to

The writes of a commit run in any order, and the host may toggle cells between them.  A `Course`
says what happens during the write of each entity; `commitInOrder` is the commit whose writes run
in a given order, of which the commit itself is a case (`commitInOrder_pending`).

The answers are put back into the order of the pending map before any is recorded, so neither the
order nor the toggles show in the batch: it lists exactly the entities that were pending, each with
its own answer, and the baselines move for those that were written and for no other
(`commit_attributed`).
-/

namespace AdminConsole

/-! ## Sorted texts -/

theorem sortTexts_perm (ss : List String) : (sortTexts ss).Perm ss := List.mergeSort_perm ss _

theorem pairwise_sortTexts (ss : List String) : (sortTexts ss).Pairwise (· ≤ ·) := by
  have sorted : (sortTexts ss).Pairwise fun a b => decide (a ≤ b) = true :=
    List.pairwise_mergeSort
      (fun a b c hab hbc => by
        simpa using String.le_trans (by simpa using hab) (by simpa using hbc))
      (fun a b => by simpa using String.le_total a b) ss
  exact sorted.imp fun h => by simpa using h

namespace Matrix

variable {σ : Type}

/-! ## Toggles -/

/-- The cells with one flag turned over, if the entity has a cell. -/
def turnOver (cells : PermissionRows) (entity permission : String) : PermissionRows :=
  match Entries.get? entity cells with
  | some flags => Entries.put entity (flags.flip (.text permission)) cells
  | none => cells

/-- **The cells with flags turned over**, one after another: each toggle names an entity and a
permission. -/
def turnedOver (toggles : List (String × String)) (cells : PermissionRows) : PermissionRows :=
  toggles.foldl (fun cells t => turnOver cells t.1 t.2) cells

/-- The matrix after toggles of the host. -/
def toggleAll (toggles : List (String × String)) (m : Matrix) : Matrix :=
  toggles.foldl (fun m t => m.after (m.toggle t.1 t.2)) m

theorem edits_toggleAll (toggles : List (String × String)) (m : Matrix) :
    Edits m (m.toggleAll toggles) := by
  induction toggles generalizing m with
  | nil => exact .refl
  | cons t rest ih => exact (ih _).head (.toggle t.1 t.2)

/-- **A toggle of a known permission turns over one flag**; without a cell there is nothing to
turn over. -/
theorem current_toggle {m : Matrix} (idle : m.loading = false) {permission : String}
    (known : permission ∈ Flags.vocabulary) (entity : String) :
    (m.after (m.toggle entity permission)).current = turnOver m.current entity permission := by
  rw [toggle, if_neg (by simpa using known), if_neg (by simp [idle]), turnOver]
  cases Entries.get? entity m.current with
  | none => rfl
  | some flags => exact putCell_current m entity _

theorem current_toggleAll {toggles : List (String × String)}
    (known : ∀ t ∈ toggles, t.2 ∈ Flags.vocabulary) {m : Matrix} (idle : m.loading = false) :
    (m.toggleAll toggles).current = turnedOver toggles m.current := by
  induction toggles generalizing m with
  | nil => rfl
  | cons t rest ih =>
    have frame := (Edits.frame (.single (Edit.toggle (m := m) t.1 t.2))).1
    have idle' := (eq_of_withoutCells frame).2.2.1.trans idle
    refine (ih (fun u hu => known u (List.mem_cons_of_mem _ hu)) idle').trans ?_
    rw [current_toggle idle (known t List.mem_cons_self)]
    rfl

/-! ## Courses of events -/

/-- What happens during a write: the toggles that the host makes, and the error of the write if it
fails. -/
structure Exchange where
  toggles : List (String × String) := []
  failure : Option ConsoleError := none

/-- What happens during the write of each entity. -/
abbrev Course := String → Exchange

namespace Course

/-- The answer to the write of an entity. -/
def answer (course : Course) (entity : String) : Except Fault Unit :=
  match (course entity).failure with
  | some error => .error (.console error)
  | none => .ok ()

/-- **The writer to whom a course happens.** It notes the calls that it gets. -/
def writer (course : Course) : Writer (List (Value × String × Flags)) :=
  fun subject entity flags m calls =>
    (course.answer entity, m.toggleAll (course entity).toggles, calls ++ [(subject, entity, flags)])

theorem regular_answer (course : Course) (entity : String) : Regular (course.answer entity) := by
  unfold answer
  cases (course entity).failure with
  | none => exact .inl rfl
  | some error => exact .inr ⟨error, rfl⟩

/-- The answers of a course to some writes. -/
def answers (course : Course) (rows : PermissionRows) : List WriteAnswer :=
  rows.map fun (entity, flags) => (entity, flags, course.answer entity)

theorem keys_answers (course : Course) (rows : PermissionRows) :
    Entries.keys (course.answers rows) = Entries.keys rows := by
  rw [Entries.keys, answers, List.map_map]
  rfl

theorem regular_answers (course : Course) (rows : PermissionRows) :
    ∀ a ∈ course.answers rows, Regular a.2.2 := by
  intro a ha
  obtain ⟨row, -, rfl⟩ := List.mem_map.mp ha
  exact course.regular_answer row.1

/-- **Writes in any order are answered one by one**, each call noted once. -/
theorem runWrites_eq (course : Course) (subject : Value) : ∀ (rows : PermissionRows) (m : Matrix)
    (calls : List (Value × String × Flags)), runWrites course.writer subject rows m calls =
      (course.answers rows, m.toggleAll (rows.flatMap fun row => (course row.1).toggles),
        calls ++ rows.map fun (entity, flags) => (subject, entity, flags))
  | [], m, calls => by
      rw [List.map_nil, List.append_nil]
      rfl
  | (entity, flags) :: rest, m, calls => by
      simp only [runWrites, writer, runWrites_eq course subject rest, List.append_assoc,
        List.flatMap_cons, toggleAll, List.foldl_append]
      rfl

end Course

/-! ## Writes in any order -/

/-- The answers to writes in the order of a snapshot. -/
def inOrderOf (snapshot : PermissionRows) (answers : List WriteAnswer) : List WriteAnswer :=
  snapshot.filterMap fun row => (Entries.get? row.1 answers).map fun answer => (row.1, answer)

/-- **A commit whose writes run in a given order.** The answers are recorded in the order of the
pending map. -/
def commitInOrder (order : PermissionRows) (writer : Writer σ) (m : Matrix) (st : σ) :
    Except Fault BatchOutcome × Matrix × σ :=
  let subject := m.writtenSubject
  let (answers, m', st) := runWrites writer subject order m st
  let (result, m') :=
    recordWrites (inOrderOf m.pending answers) { action := "ACL update", subject := subject } m'
  (result, m', st)

/-- Answers to distinct entities are found again. -/
theorem inOrderOf_eq {snapshot : PermissionRows} {answers : List WriteAnswer}
    {answer : String × Flags → Except Fault Unit} (distinct : (Entries.keys answers).Nodup)
    (answered : ∀ row ∈ snapshot, (row.1, row.2, answer row) ∈ answers) :
    inOrderOf snapshot answers = snapshot.map fun row => (row.1, row.2, answer row) := by
  rw [inOrderOf, ← List.filterMap_eq_map]
  refine List.filterMap_congr fun row hrow => ?_
  rw [Entries.get?_of_mem distinct (answered row hrow)]
  rfl

theorem inOrderOf_self {answers : List WriteAnswer} (distinct : (Entries.keys answers).Nodup) :
    inOrderOf (answers.map fun a => (a.1, a.2.1)) answers = answers := by
  rw [inOrderOf, List.filterMap_map]
  refine (List.filterMap_congr fun a ha => ?_).trans List.filterMap_some
  rw [Function.comp_apply, Entries.get?_of_mem distinct ha]
  rfl

/-- **The commit runs its writes in the order of the pending map.** -/
theorem commitInOrder_pending {m : Matrix} (h : Consistent m) (writer : Writer σ) (st : σ) :
    m.commitInOrder m.pending writer st = m.commitPending writer st := by
  have answered := answered_runWrites writer m.writtenSubject m.pending m st
  have same := inOrderOf_self (nodup_answered h writer st)
  rw [answered] at same
  simp only [commitInOrder, commitPending, same]

/-! ## The batch -/

/-- **The batch of regular answers**: those that went well, sorted, and the errors of the others. -/
theorem batch_recordWrites (course : Course) : ∀ (rows : PermissionRows) (batch : BatchOutcome)
    (m : Matrix), (Entries.keys (batch.failed) ++ Entries.keys rows).Nodup →
      (recordWrites (course.answers rows) batch m).1 = .ok { batch with
        succeeded := sortTexts (batch.succeeded ++
          (Entries.keys rows).filter fun e => (course e).failure.isNone)
        failed := batch.failed ++
          rows.filterMap fun row => (course row.1).failure.map fun e => (row.1, .console e) }
  | [], batch, m, _ => by
      rw [List.filterMap_nil, List.append_nil]
      exact congrArg (fun texts => Except.ok { batch with succeeded := sortTexts texts })
        (List.append_nil batch.succeeded).symm
  | (entity, flags) :: rest, batch, m, distinct => by
      rw [Entries.keys_cons] at distinct ⊢
      cases hf : (course entity).failure with
      | none =>
          have ih := batch_recordWrites course rest (batch.addSuccess entity)
            (m.written entity flags) (distinct.sublist (by simp [BatchOutcome.addSuccess]))
          simpa [Course.answers, Course.answer, hf, recordWrites, BatchOutcome.addSuccess] using ih
      | some error =>
          have fresh : entity ∉ Entries.keys batch.failed := fun hmem =>
            List.disjoint_of_nodup_append distinct hmem List.mem_cons_self
          have failed : (batch.addFailure entity (.console error)).failed =
              batch.failed ++ [(entity, .console error)] := Entries.put_of_not_mem _ fresh
          have ih := batch_recordWrites course rest (batch.addFailure entity (.console error)) m
            (by rw [failed]; simpa [Entries.keys] using distinct)
          rw [failed] at ih
          simpa [Course.answers, Course.answer, hf, recordWrites, BatchOutcome.addFailure] using ih

/-! ## The cells -/

/-- **The sets that a course takes over** are those of the entities whose write did not fail. -/
theorem takeOver_answers (course : Course) {rows : PermissionRows}
    (distinct : (Entries.keys rows).Nodup) (sets : String → Option Flags) (e : String) :
    takeOver (course.answers rows) sets e =
      ((Entries.get? e rows).filter fun _ => (course e).failure.isNone).or (sets e) := by
  have keys : ((course.answers rows).map Prod.fst).Nodup := by
    rw [← course.keys_answers] at distinct
    exact distinct
  cases hrow : Entries.get? e rows with
  | none =>
      refine takeOver_of_not_mem fun a ha he => ?_
      obtain ⟨row, hmem, rfl⟩ := List.mem_map.mp ha
      exact Entries.not_mem_keys_iff.mpr hrow (he ▸ List.mem_map_of_mem hmem)
  | some flags =>
      have hmem : (e, flags, course.answer e) ∈ course.answers rows :=
        List.mem_map_of_mem (f := fun row : String × Flags => (row.1, row.2, course.answer row.1))
          (Entries.mem_of_get? hrow)
      cases hf : (course e).failure with
      | none =>
          rw [Course.answer, hf] at hmem
          exact takeOver_of_mem keys hmem
      | some error =>
          -- the entity is answered once, by an error, so nothing of it is taken over
          have hlast : lastWritten (course.answers rows) e = none := by
            refine Option.eq_none_iff_forall_ne_some.mpr fun flags' hlast => ?_
            have hok := Entries.get?_of_mem keys (mem_of_lastWritten hlast)
            rw [Entries.get?_of_mem keys hmem, Course.answer, hf] at hok
            simp at hok
          rw [takeOver_eq_or, hlast]
          rfl

/-! ## The commit -/

/-- **The order of the writes does not show** in what is recorded, only in the order of the calls
and of the toggles. -/
theorem commitInOrder_course {m : Matrix} (h : Consistent m) {order : PermissionRows}
    (runs : order.Perm m.pending) (course : Course) :
    m.commitInOrder order course.writer [] =
      let (result, m') := recordWrites (course.answers m.pending)
        { action := "ACL update", subject := m.writtenSubject }
        (m.toggleAll (order.flatMap fun row => (course row.1).toggles))
      (result, m', order.map fun (entity, flags) => (m.writtenSubject, entity, flags)) := by
  have distinct : (Entries.keys (course.answers order)).Nodup := by
    rw [course.keys_answers]
    exact (runs.map Prod.fst).nodup_iff.mpr h.distinct
  have answered : inOrderOf m.pending (course.answers order) = course.answers m.pending :=
    inOrderOf_eq distinct fun row hrow =>
      List.mem_map_of_mem (f := fun row : String × Flags => (row.1, row.2, course.answer row.1))
        (runs.mem_iff.mpr hrow)
  simp only [commitInOrder, course.runWrites_eq, answered, List.nil_append]

/-- **Results stay with their entities**, in whatever order the writes run and whatever the host
toggles meanwhile.  Take a reachable matrix that is loaded, any order of its pending entries, and
any course of toggles and console errors.

* In the order of the pending map this is the commit, whatever its writer; its batch is the same in
  every order.
* The commit calls its writer once for each entity that was pending, with the subject and with the
  set that was pending at the start.
* The batch lists the entities whose write did not fail, sorted, and the others with their own
  errors.
* The baseline of an entity whose write did not fail is the set that was written; every other
  baseline is the old one.
* The cells are the old ones with the toggles applied, and pending are exactly those that differ
  from their baseline now. -/
theorem commit_attributed {m : Matrix} (reachable : Reachable m) (loaded : m.loaded = true)
    {subject : String} (shown : m.subject = .text subject) {order : PermissionRows}
    (runs : order.Perm m.pending) {course : Course}
    (known : ∀ e, ∀ t ∈ (course e).toggles, t.2 ∈ Flags.vocabulary) :
    (∀ {σ : Type} (writer : Writer σ) (st : σ),
      m.commitInOrder m.pending writer st = m.commitPending writer st) ∧
    ∃ batch m', (m.commitPending course.writer []).1 = .ok batch ∧
      m.commitInOrder order course.writer [] =
        (.ok batch, m', order.map fun (entity, flags) => (.text subject, entity, flags)) ∧
      (batch.succeeded.Pairwise (· ≤ ·) ∧ batch.succeeded.Perm
        ((Entries.keys m.pending).filter fun e => (course e).failure.isNone)) ∧
      batch.failed = (m.pending.filterMap fun row =>
        (course row.1).failure.map fun error => (row.1, .console error)) ∧
      (∀ e, Entries.get? e m'.baseline =
        ((Entries.get? e m.pending).filter fun _ => (course e).failure.isNone).or
          (Entries.get? e m.baseline)) ∧
      m'.current = turnedOver (order.flatMap fun row => (course row.1).toggles) m.current ∧
      (∀ e flags, (e, flags) ∈ m'.pending ↔ Entries.get? e m'.current = some flags ∧
        Flags.same? (some flags) (Entries.get? e m'.baseline) = false) ∧
      m'.withoutCells = m.withoutCells := by
  have h := reachable.consistent
  have idle : m.loading = false := by
    rw [Matrix.loaded, Bool.and_eq_true, Bool.and_eq_true] at loaded
    simpa using loaded.1.2
  have written : m.writtenSubject = .text subject := by
    rw [writtenSubject, shown, orElse_text]
  have edits := edits_toggleAll (order.flatMap fun row => (course row.1).toggles) m
  have frame := recordWrites_frame (course.answers m.pending)
    { action := "ACL update", subject := .text subject }
    (m.toggleAll (order.flatMap fun row => (course row.1).toggles))
  have commit := commitInOrder_course h runs course
  have pendingOrder := commitInOrder_course h (List.Perm.refl m.pending) course
  rw [commitInOrder_pending h] at pendingOrder
  rw [written] at commit pendingOrder
  refine ⟨commitInOrder_pending h, _, _,
    (congrArg Prod.fst pendingOrder).trans (batch_recordWrites course _ _ _ h.distinct),
    commit.trans (congrArg (·, _, _) (batch_recordWrites course _ _ _ h.distinct)),
    ⟨pairwise_sortTexts _, sortTexts_perm _⟩, rfl, fun e => ?_, ?_, fun e flags => ?_, ?_⟩
  · rw [baseline_recordWrites _ _ _ (course.regular_answers m.pending),
      takeOver_answers course h.distinct, edits.frame.2]
  · rw [frame.2]
    refine current_toggleAll (fun t ht => ?_) idle
    obtain ⟨row, -, hrow⟩ := List.mem_flatMap.mp ht
    exact known row.1 t hrow
  · exact (recordWrites_keeps (fun _ entity flags hc => hc.written entity flags) _ _ _
      (h.edits edits)).mem_pending_iff
  · exact frame.1.trans edits.frame.1

/-- The write of one entity is refused; the cell of another is toggled back during its own write. -/
def toggledBack : Course := fun entity =>
  if entity = "orders" then { failure := some (.general "busy" .empty []) }
  else { toggles := [("invoices", "read")] }

/-- The entity whose cell was toggled back is pending again, with the set that the cell has now. -/
theorem commit_attributed_twoToggled :
    (Reachable twoToggled ∧ twoToggled.loaded = true ∧ twoToggled.subject = .text "alice" ∧
      twoToggled.pending.reverse.Perm twoToggled.pending ∧
      ∀ e, ∀ t ∈ (toggledBack e).toggles, t.2 ∈ Flags.vocabulary) ∧
    ∃ batch m', (twoToggled.commitPending toggledBack.writer []).1 = .ok batch ∧
      twoToggled.commitInOrder twoToggled.pending.reverse toggledBack.writer [] =
        (.ok batch, m', [(.text "alice", "invoices", [(.text "read", .bool true)]),
          (.text "alice", "orders", [(.text "read", .bool true)])]) ∧
      batch.succeeded.Perm ["invoices"] ∧
      batch.failed = [("orders", .console (.general "busy" .empty []))] ∧
      Entries.get? "invoices" m'.baseline = some [(.text "read", .bool true)] ∧
      Entries.get? "orders" m'.baseline = some [(.text "read", .bool false)] ∧
      ("invoices", [(.text "read", .bool false)]) ∈ m'.pending := by
  have known : ∀ e, ∀ t ∈ (toggledBack e).toggles, t.2 ∈ Flags.vocabulary := by
    intro e t ht
    unfold toggledBack at ht
    split at ht
    · cases ht
    · obtain rfl := List.mem_singleton.mp ht
      decide
  have runs := List.reverse_perm twoToggled.pending
  obtain ⟨-, batch, m', hbatch, hrun, hsucceeded, hfailed, hbaseline, hcurrent, hpending, -⟩ :=
    commit_attributed reachable_twoToggled rfl rfl runs known
  refine ⟨⟨reachable_twoToggled, rfl, rfl, runs, known⟩, batch, m', hbatch, hrun, hsucceeded.2,
    hfailed, hbaseline "invoices", hbaseline "orders", (hpending _ _).mpr ⟨?_, ?_⟩⟩
  · rw [hcurrent]
    decide
  · rw [hbaseline]
    decide

end Matrix

end AdminConsole
