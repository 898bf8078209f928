import AdminConsole.Proofs.Permission.Newest
import AdminConsole.Proofs.Permission.Recording

/-!
# Proofs/Permission/Switch — a load of another subject during a commit

Whoever writes a set may load another subject before the write is answered.  A load is guarded by
its tag, but a commit is not: the answers that arrive after the load are recorded all the same, in
the cells that are there by then.

So the subject and the current sets are those of the load, and the baselines and the pending entries
are exactly if every set that is recorded is the one that the load brought for its entity
(`load_kept_iff`).
-/

namespace AdminConsole.Matrix

variable {σ : Type}

/-- The start of a load, or an answer to one. -/
inductive Load (m : Matrix) : Matrix → Prop
  | beginLoad (subject : Value) : Load m (m.beginLoad subject).1
  | applyBaseline (tag : Int) (rows : Value) : Load m (m.after (m.applyBaseline tag rows))

/-- Starts of loads and answers to them, one after another. -/
abbrev Loading : Matrix → Matrix → Prop := Relation.ReflTransGen Load

/-- A matrix that shows what was loaded: no cell was edited. -/
structure Unedited (m : Matrix) : Prop where
  current : m.current = m.baseline
  pending : m.pending = []

theorem Load.unedited {m m' : Matrix} (load : Load m m') : m' = m ∨ Unedited m' := by
  cases load with
  | beginLoad subject => exact .inr ⟨rfl, rfl⟩
  | applyBaseline tag rows =>
    rcases m.applyBaseline_cases tag rows with ⟨-, ha⟩ | ⟨-, ⟨f, ha⟩ | ⟨rows', -, ha⟩⟩
    · rw [ha]
      exact .inl rfl
    · rw [ha]
      exact .inl rfl
    · rw [ha]
      exact .inr ⟨rfl, rfl⟩

/-- **Loads leave a matrix as it was, or without edits.** -/
theorem Loading.unedited {m m' : Matrix} (loading : Loading m m') : m' = m ∨ Unedited m' := by
  induction loading with
  | refl => exact .inl rfl
  | tail _ load ih =>
      rcases load.unedited with rfl | h
      · exact ih
      · exact .inr h

/-! ## A commit with loads meanwhile -/

/-- **When a commit leaves the load of another subject alone.**  Take any reachable matrix, and a
writer under which loads are begun and answered, until another subject is shown.

* No cell was edited since, and the commit leaves the subject, the state of the load and the current
  sets as they are.
* It leaves the baselines and the pending entries as they are exactly if each set that was written,
  and is recorded, is the baseline of its entity already. -/
theorem load_kept_iff {m m₁ : Matrix} (reachable : Reachable m) {writer : Writer σ}
    (loading : ∀ subject entity flags m st, Loading m (writer subject entity flags m st).2.1)
    {st st₁ : σ} {answers : List WriteAnswer}
    (writes : runWrites writer m.writtenSubject m.pending m st = (answers, m₁, st₁))
    (switched : m₁.subject ≠ m.subject) :
    Unedited m₁ ∧
    (m.commitPending writer st).2.1.withoutCells = m₁.withoutCells ∧
    (m.commitPending writer st).2.1.current = m₁.current ∧
    ((∀ e, Entries.get? e (m.commitPending writer st).2.1.baseline = Entries.get? e m₁.baseline ∧
        Entries.get? e (m.commitPending writer st).2.1.pending = Entries.get? e m₁.pending) ↔
      ∀ e flags, (e, flags, .ok ()) ∈ recorded answers →
        Entries.get? e m₁.baseline = some flags) := by
  have hloading : Loading m _ := steps_runWrites loading m.writtenSubject m.pending m st
  have hcurrent : (m.commitPending writer st).2.1.current =
      (runWrites writer m.writtenSubject m.pending m st).2.1.current := current_commitPending m st
  have hframe : (m.commitPending writer st).2.1.withoutCells =
      (runWrites writer m.writtenSubject m.pending m st).2.1.withoutCells :=
    (recordWrites_frame _ _ _).1
  have hcells := get?_commitPending m writer st
  have hnodup := nodup_answered reachable.consistent writer st
  simp only [writes] at hloading hcurrent hframe hnodup hcells
  have unedited : Unedited m₁ := by
    rcases hloading.unedited with rfl | h
    · exact absurd rfl switched
    · exact h
  refine ⟨unedited, hframe, hcurrent, fun kept e flags hmem => ?_, fun same e => ?_⟩
  · have hlast : lastWritten (recorded answers) e = some flags :=
      takeOver_of_mem (hnodup.sublist ((List.takeWhile_sublist _).map _)) hmem
    have hbaseline := (hcells e).1
    rw [hlast, (kept e).1] at hbaseline
    exact hbaseline
  · obtain ⟨hbaseline, hpending⟩ := hcells e
    rw [hbaseline, hpending]
    cases hlast : lastWritten (recorded answers) e with
    | none => exact ⟨rfl, rfl⟩
    | some flags =>
        have hload := same e flags (mem_of_lastWritten hlast)
        refine ⟨hload.symm, ?_⟩
        rw [hcurrent, unedited.current, hload, unedited.pending]
        simp

/-- A writer under which the rows of bob are loaded, and which then answers well. -/
def writeDuringLoad (rows : Value) : Writer Unit := fun _ _ _ m st =>
  let m := (m.beginLoad (.text "bob")).1
  (.ok (), m.after (m.applyBaseline m.sequencer.generation rows), st)

/-- Rows with one flag. -/
def readRow (b : Bool) : Value := .object [("orders", .object [("read", .bool b)])]

/-- What a load of bob's rows leaves. -/
def bobsCell (b : Bool) : Matrix where
  subject := .text "bob"
  baseline := [("orders", [(.text "read", .bool b)])]
  current := [("orders", [(.text "read", .bool b)])]
  sequencer := ⟨2⟩

theorem loading_writeDuringLoad (rows : Value) (subject : Value) (entity : String) (flags : Flags)
    (m : Matrix) (st : Unit) : Loading m (writeDuringLoad rows subject entity flags m st).2.1 :=
  .tail (.single (.beginLoad (.text "bob"))) (.applyBaseline _ rows)

theorem runWrites_writeDuringLoad (b : Bool) :
    runWrites (writeDuringLoad (readRow b)) toggledCell.writtenSubject toggledCell.pending
      toggledCell () = ([("orders", [(.text "read", .bool false)], .ok ())], bobsCell b, ()) := rfl

/-- Alice's set is recorded for bob: he keeps his own if it is the same one, and loses another. -/
theorem load_kept_iff_writeDuringLoad :
    Reachable toggledCell ∧
    (∀ e, Entries.get? e (toggledCell.commitPending
          (writeDuringLoad (readRow false)) ()).2.1.baseline =
        Entries.get? e (bobsCell false).baseline ∧
      Entries.get? e (toggledCell.commitPending
          (writeDuringLoad (readRow false)) ()).2.1.pending =
        Entries.get? e (bobsCell false).pending) ∧
    ¬ ∀ e, Entries.get? e (toggledCell.commitPending
          (writeDuringLoad (readRow true)) ()).2.1.baseline =
        Entries.get? e (bobsCell true).baseline ∧
      Entries.get? e (toggledCell.commitPending
          (writeDuringLoad (readRow true)) ()).2.1.pending =
        Entries.get? e (bobsCell true).pending := by
  have switched : Value.text "bob" ≠ .text "alice" := by decide
  have kept (b : Bool) := (load_kept_iff reachable_toggledCell (loading_writeDuringLoad (readRow b))
    (runWrites_writeDuringLoad b) switched).2.2.2
  refine ⟨reachable_toggledCell, (kept false).mpr fun e flags hmem => ?_, fun same => ?_⟩
  · obtain ⟨rfl, rfl⟩ : e = "orders" ∧ flags = [(.text "read", .bool false)] := by
      simpa using List.takeWhile_subset _ hmem
    rfl
  · have hcell := (kept true).mp same "orders" [(.text "read", .bool false)] List.mem_cons_self
    exact absurd hcell (by decide)

/-- **A commit leaks into another subject**: alice's set becomes bob's baseline, and what was loaded
for him is pending as if it were an edit. -/
theorem commit_overwrites_load :
    Reachable toggledCell ∧ toggledCell.subject = .text "alice" ∧
    runWrites (writeDuringLoad (readRow true)) toggledCell.writtenSubject toggledCell.pending
      toggledCell () = ([("orders", [(.text "read", .bool false)], .ok ())], bobsCell true, ()) ∧
    (toggledCell.commitPending (writeDuringLoad (readRow true)) ()).2.1 =
      { bobsCell true with
        baseline := [("orders", [(.text "read", .bool false)])]
        pending := [("orders", [(.text "read", .bool true)])] } :=
  ⟨reachable_toggledCell, rfl, rfl, rfl⟩

end AdminConsole.Matrix
