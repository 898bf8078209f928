import AdminConsole.Proofs.Faults
import AdminConsole.Proofs.Permission.Commit
import Mathlib.Data.List.TakeWhile

/-!
# Proofs/Permission/Recording — which writes of a commit are recorded

All writes run before any answer is recorded, and the first answer that is neither a success nor a
console error ends the recording.  So the answers `recorded` are those before it, and what becomes
of an entity depends on them alone:

* its baseline is the set that was written and recorded last, else it stays
  (`get?_baseline_recordWrites`);
* its pending entry is brought in line with its cell if a write was recorded, else it stays
  (`get?_pending_recordWrites`).

A write is therefore recorded exactly if every answer before it is regular
(`recorded_iff_regular_before`).
-/

namespace AdminConsole.Matrix

variable {σ : Type}

/-! ## The answers that are recorded -/

/-- Whether a commit survives an answer. -/
def isRegular : Except Fault Unit → Bool
  | .ok () | .error (.console _) => true
  | .error (.mishap _) | .error (.invalid _) => false

theorem isRegular_iff {answer : Except Fault Unit} : isRegular answer = true ↔ Regular answer := by
  rcases answer with (error | record | mishap) | _
  · exact ⟨fun _ => .inr ⟨error, rfl⟩, fun _ => rfl⟩
  · simp [isRegular, Regular]
  · simp [isRegular, Regular]
  · exact ⟨fun _ => .inl rfl, fun _ => rfl⟩

/-- The answers before the first that a commit does not survive. -/
def recorded (answers : List WriteAnswer) : List WriteAnswer :=
  answers.takeWhile fun a => isRegular a.2.2

theorem regular_recorded {answers : List WriteAnswer} : ∀ a ∈ recorded answers, Regular a.2.2 :=
  fun _ h => isRegular_iff.mp
    (List.mem_takeWhile_imp (p := fun a : WriteAnswer => isRegular a.2.2) h)

/-- **What comes after regular answers** is recorded as it would be without them. -/
theorem recorded_append {before : List WriteAnswer} (regular : ∀ a ∈ before, Regular a.2.2)
    (rest : List WriteAnswer) : recorded (before ++ rest) = before ++ recorded rest :=
  List.takeWhile_append_of_pos fun a ha => isRegular_iff.mpr (regular a ha)

/-- **What comes after an answer that is not regular** is not recorded. -/
theorem recorded_append_of_irregular {before : List WriteAnswer}
    (irregular : ¬ ∀ a ∈ before, Regular a.2.2) (rest : List WriteAnswer) :
    recorded (before ++ rest) = recorded before := by
  have hlength : (before.takeWhile fun a => isRegular a.2.2).length ≠ before.length := fun h =>
    irregular fun a ha => isRegular_iff.mp
      (List.takeWhile_eq_self_iff.mp ((List.takeWhile_prefix _).eq_of_length h) a ha)
  rw [recorded, List.takeWhile_append, if_neg hlength]
  rfl

/-- **Only these answers count** for the matrix that a recording leaves. -/
theorem recordWrites_recorded : ∀ (answers : List WriteAnswer) (batch : BatchOutcome) (m : Matrix),
    (recordWrites answers batch m).2 = (recordWrites (recorded answers) batch m).2
  | [], _, _ => rfl
  | (entity, flags, .ok ()) :: rest, batch, m =>
      recordWrites_recorded rest (batch.addSuccess entity) (m.written entity flags)
  | (entity, _, .error (.console error)) :: rest, batch, m =>
      recordWrites_recorded rest (batch.addFailure entity (.console error)) m
  | (_, _, .error (.mishap _)) :: _, _, _ => rfl
  | (_, _, .error (.invalid _)) :: _, _, _ => rfl

/-! ## What becomes of an entity -/

/-- The set of an entity that was written last. -/
def lastWritten (answers : List WriteAnswer) : String → Option Flags :=
  takeOver answers fun _ => none

theorem takeOver_eq_or (e : String) : ∀ (answers : List WriteAnswer) (sets : String → Option Flags),
    takeOver answers sets e = (lastWritten answers e).or (sets e)
  | [], _ => rfl
  | (entity, flags, .ok ()) :: rest, sets => by
      rw [lastWritten, takeOver, takeOver, takeOver_eq_or e rest,
        takeOver_eq_or e rest fun e => if e = entity then some flags else none, Option.or_assoc]
      congr 1
      by_cases he : e = entity
      · rw [if_pos he, if_pos he]
        rfl
      · rw [if_neg he, if_neg he]
        rfl
  | (_, _, .error _) :: rest, sets => takeOver_eq_or e rest sets

theorem mem_of_lastWritten {e : String} {flags : Flags} {answers : List WriteAnswer}
    (h : lastWritten answers e = some flags) : (e, flags, .ok ()) ∈ answers := by
  induction answers with
  | nil => cases h
  | cons a rest ih =>
      obtain ⟨entity, written, fault | _⟩ := a
      · exact List.mem_cons_of_mem _ (ih h)
      · rw [lastWritten, takeOver, takeOver_eq_or] at h
        rcases Option.or_eq_some_iff.mp h with hrest | ⟨-, hhead⟩
        · exact List.mem_cons_of_mem _ (ih hrest)
        · by_cases he : e = entity
          · rw [if_pos he] at hhead
            obtain rfl := Option.some.inj hhead
            exact he ▸ List.mem_cons_self
          · rw [if_neg he] at hhead
            cases hhead

/-- **The baselines after a recording**, whatever was answered. -/
theorem get?_baseline_recordWrites (answers : List WriteAnswer) (batch : BatchOutcome) (m : Matrix)
    (e : String) : Entries.get? e (recordWrites answers batch m).2.baseline =
      (lastWritten (recorded answers) e).or (Entries.get? e m.baseline) := by
  rw [recordWrites_recorded, baseline_recordWrites _ batch m regular_recorded, takeOver_eq_or]

/-- The pending entries after a recording of regular answers. -/
theorem get?_pending_of_regular (e : String) : ∀ (answers : List WriteAnswer) (batch : BatchOutcome)
    (m : Matrix), (∀ a ∈ answers, Regular a.2.2) →
      Entries.get? e (recordWrites answers batch m).2.pending =
        match lastWritten answers e with
        | some flags => (Entries.get? e m.current).filter fun current => !Flags.same current flags
        | none => Entries.get? e m.pending
  | [], _, _, _ => rfl
  | (entity, flags, .ok ()) :: rest, batch, m, h => by
      have ih := get?_pending_of_regular e rest (batch.addSuccess entity) (m.written entity flags)
        fun a ha => h a (List.mem_cons_of_mem _ ha)
      rw [written_current, get?_pending_written] at ih
      rw [lastWritten, takeOver, takeOver_eq_or e rest]
      refine ih.trans ?_
      cases lastWritten rest e with
      | some flags => rfl
      | none =>
          by_cases he : e = entity
          · subst he
            simp
          · simp [he]
  | (entity, flags, .error (.console error)) :: rest, batch, m, h =>
      get?_pending_of_regular e rest _ m fun a ha => h a (List.mem_cons_of_mem _ ha)
  | (_, _, .error (.mishap _)) :: _, _, _, h => by
      simpa [Regular] using h _ List.mem_cons_self
  | (_, _, .error (.invalid _)) :: _, _, _, h => by
      simpa [Regular] using h _ List.mem_cons_self

/-- **The pending entries after a recording**, whatever was answered. -/
theorem get?_pending_recordWrites (answers : List WriteAnswer) (batch : BatchOutcome) (m : Matrix)
    (e : String) : Entries.get? e (recordWrites answers batch m).2.pending =
      match lastWritten (recorded answers) e with
      | some flags => (Entries.get? e m.current).filter fun current => !Flags.same current flags
      | none => Entries.get? e m.pending := by
  rw [recordWrites_recorded]
  exact get?_pending_of_regular e (recorded answers) batch m regular_recorded

/-! ## The writes of a commit -/

/-- The baselines and the pending entries after a commit, whatever its writer does and answers. -/
theorem get?_commitPending (m : Matrix) (writer : Writer σ) (st : σ) (e : String) :
    (Entries.get? e (m.commitPending writer st).2.1.baseline =
      (lastWritten (recorded (runWrites writer m.writtenSubject m.pending m st).1) e).or
        (Entries.get? e (runWrites writer m.writtenSubject m.pending m st).2.1.baseline)) ∧
    Entries.get? e (m.commitPending writer st).2.1.pending =
      match lastWritten (recorded (runWrites writer m.writtenSubject m.pending m st).1) e with
      | some flags => (Entries.get? e (m.commitPending writer st).2.1.current).filter
          fun current => !Flags.same current flags
      | none => Entries.get? e (runWrites writer m.writtenSubject m.pending m st).2.1.pending := by
  refine ⟨get?_baseline_recordWrites _ _ _ e, ?_⟩
  rw [current_commitPending]
  exact get?_pending_recordWrites _ _ _ e

/-- Every entity is written once. -/
theorem nodup_answered {m : Matrix} (h : Consistent m) (writer : Writer σ) (st : σ) :
    ((runWrites writer m.writtenSubject m.pending m st).1.map Prod.fst).Nodup := by
  rw [entities_runWrites]
  exact h.distinct

/-- **A write is recorded exactly if every answer before it is regular.**  Take any reachable
matrix, a writer under which only edits happen, and a write of it that returned.

* If each answer before was a success or a console error, the baseline is the set that was written,
  and the entity is pending only where its cell was edited meanwhile.
* Otherwise the write is forgotten: the baseline is the old one, which is not the set that was
  written, and the entity is pending where its cell differs from this. -/
theorem recorded_iff_regular_before {m : Matrix} (reachable : Reachable m) {writer : Writer σ}
    (editing : ∀ subject entity flags m st, Edits m (writer subject entity flags m st).2.1)
    {st : σ} {before after : List WriteAnswer} {e : String} {flags : Flags}
    (answered : (runWrites writer m.writtenSubject m.pending m st).1 =
      before ++ (e, flags, .ok ()) :: after) :
    ((∀ a ∈ before, Regular a.2.2) →
      Entries.get? e (m.commitPending writer st).2.1.baseline = some flags ∧
      Entries.get? e (m.commitPending writer st).2.1.pending =
        (Entries.get? e (m.commitPending writer st).2.1.current).filter
          fun current => !Flags.same current flags) ∧
    ((¬ ∀ a ∈ before, Regular a.2.2) →
      Entries.get? e (m.commitPending writer st).2.1.baseline = Entries.get? e m.baseline ∧
      Entries.get? e m.baseline ≠ some flags ∧
      Entries.get? e (m.commitPending writer st).2.1.pending =
        (Entries.get? e (m.commitPending writer st).2.1.current).filter (m.differs e)) := by
  have h := reachable.consistent
  have hedits := edits_runWrites editing m.writtenSubject m.pending m st
  have hnodup := nodup_answered h writer st
  obtain ⟨hbaseline, hpending⟩ := get?_commitPending m writer st e
  rw [answered] at hnodup hbaseline hpending
  refine ⟨fun regular => ?_, fun irregular => ?_⟩
  · have hlast : lastWritten (recorded (before ++ (e, flags, .ok ()) :: after)) e = some flags := by
      refine takeOver_of_mem (hnodup.sublist ((List.takeWhile_sublist _).map _)) ?_
      rw [recorded_append regular]
      exact List.mem_append_right before List.mem_cons_self
    rw [hlast] at hbaseline hpending
    exact ⟨hbaseline, hpending⟩
  · -- the entity is written once, so it is not among the answers that are still recorded
    have hlast : lastWritten (recorded (before ++ (e, flags, .ok ()) :: after)) e = none := by
      rw [recorded_append_of_irregular irregular]
      refine takeOver_of_not_mem fun a ha he => ?_
      rw [List.map_append] at hnodup
      exact (List.nodup_append.mp hnodup).2.2 a.1
        (List.mem_map_of_mem ((List.takeWhile_subset _) ha)) e List.mem_cons_self he
    have hmem : (e, flags) ∈ m.pending := by
      have hmem := List.mem_map_of_mem (f := fun a : WriteAnswer => (a.1, a.2.1))
        (answered ▸ List.mem_append_right before List.mem_cons_self)
      rwa [answered_runWrites] at hmem
    rw [hlast] at hbaseline hpending
    refine ⟨?_, ?_, ?_⟩
    · rw [hbaseline, hedits.frame.2]
      rfl
    · intro hold
      have hdiffers := (h.mem_pending_iff.mp hmem).2
      rw [hold, Flags.same?, Flags.same_self] at hdiffers
      cases hdiffers
    · have hdiffers : (runWrites writer m.writtenSubject m.pending m st).2.1.differs e =
          m.differs e := by
        funext
        rw [differs, differs, hedits.frame.2]
      rw [hpending, current_commitPending, ← hdiffers]
      exact (h.edits hedits).get?_pending e

/-- A matrix with two cells, one flag of each turned over. -/
def twoToggled : Matrix where
  subject := .text "alice"
  baseline :=
    [("orders", [(.text "read", .bool false)]), ("invoices", [(.text "read", .bool false)])]
  current := [("orders", [(.text "read", .bool true)]), ("invoices", [(.text "read", .bool true)])]
  pending := [("orders", [(.text "read", .bool true)]), ("invoices", [(.text "read", .bool true)])]
  sequencer := ⟨1⟩

theorem reachable_twoToggled : Reachable twoToggled := by
  refine ⟨.int 4, {}, rfl, ?_⟩
  have begun := Run.beginLoad (.nil {}) (.text "alice")
  have loaded := begun.applyBaseline 1 (.object [("orders", .object [("read", .bool false)]),
    ("invoices", .object [("read", .bool false)])])
  exact (loaded.edit (.toggle "orders" "read")).edit (.toggle "invoices" "read")

/-- A writer that leaves the matrix alone, and whose write of one entity fails. -/
def failingOrders (f : Fault) : Writer Unit := fun _ entity _ m st =>
  (if entity = "orders" then .error f else .ok (), m, st)

/-- A refused write of one entity leaves the other recorded, one whose answer cannot be read does
not. -/
theorem recorded_iff_regular_before_twoToggled :
    Reachable twoToggled ∧
    (Entries.get? "invoices" (twoToggled.commitPending
        (failingOrders (.console (.general "busy" .empty []))) ()).2.1.baseline =
      some [(.text "read", .bool true)] ∧
    Entries.get? "invoices" (twoToggled.commitPending
        (failingOrders (.console (.general "busy" .empty []))) ()).2.1.pending = none) ∧
    Entries.get? "invoices" (twoToggled.commitPending
        (failingOrders .unreadInteger) ()).2.1.baseline = some [(.text "read", .bool false)] := by
  have editing (f : Fault) : ∀ subject entity flags m st,
      Edits m (failingOrders f subject entity flags m st).2.1 := fun _ _ _ _ _ => .refl
  have answered (f : Fault) :
      (runWrites (failingOrders f) twoToggled.writtenSubject twoToggled.pending twoToggled ()).1 =
        [("orders", [(.text "read", .bool true)], .error f)] ++
          ("invoices", [(.text "read", .bool true)], .ok ()) :: [] := rfl
  obtain ⟨hkept, hpending⟩ := (recorded_iff_regular_before reachable_twoToggled (editing _)
    (answered (.console (.general "busy" .empty [])))).1 (by simp [Regular])
  obtain ⟨hlost, -⟩ := (recorded_iff_regular_before reachable_twoToggled (editing _)
    (answered .unreadInteger)).2 (by simp [Regular, Fault.unreadInteger])
  exact ⟨reachable_twoToggled, ⟨hkept, hpending.trans (by decide)⟩, hlost.trans (by decide)⟩

/-- **A write that returned is forgotten** because another one failed: its baseline is the old one,
and it is pending although nothing was edited. -/
theorem returned_write_forgotten :
    Reachable twoToggled ∧
    (runWrites (failingOrders .unreadInteger) twoToggled.writtenSubject twoToggled.pending
        twoToggled ()).1 =
      [("orders", [(.text "read", .bool true)], .error .unreadInteger),
        ("invoices", [(.text "read", .bool true)], .ok ())] ∧
    twoToggled.commitPending (failingOrders .unreadInteger) () =
      (.error .unreadInteger, twoToggled, ()) ∧
    Entries.get? "invoices" twoToggled.baseline = some [(.text "read", .bool false)] ∧
    ("invoices", [(.text "read", .bool true)]) ∈ twoToggled.pending :=
  ⟨reachable_twoToggled, rfl, rfl, rfl, by decide⟩

end AdminConsole.Matrix
