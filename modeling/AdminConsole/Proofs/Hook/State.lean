import AdminConsole.Proofs.Faults
import AdminConsole.Proofs.Hook.Step

/-!
# Proofs/Hook/State — the state of a form

A form is saving while its saver runs, and the end of the save takes it back to editing.  A fault
that is no console error passes through the save and leaves it without an end.

* Whatever is loaded, set and answered, there is no draft exactly in the state `noDraft`, and the
  form is still saving exactly if the saver broke the last save off (`Heard.placed`).
* A save that does not succeed changes no more than the state (`save_of_not_ok`).

Both together are `state_follows_answer`; `broken_save_stays_saving` is a save that was broken off.
-/

namespace AdminConsole.HookForm

variable {σ : Type} {f : HookForm} {d : HookDraft} {last : Option (Except Fault Unit)}

/-! ## Runs with answers -/

/-- **A saver that leaves the form alone**, whatever it answers. -/
def Saver.Quiet (saver : Saver σ) : Prop := ∀ id payload f st, (saver id payload f st).2.1 = f

/-- The same saver, with its answer noted. -/
def Saver.heard (saver : Saver σ) : Saver (σ × Option (Except Fault Unit)) := fun id payload f st =>
  let (answer, f, st') := saver id payload f st.1
  (answer, f, st', some answer)

/-- **The runs of a form**, with what a saver answered last since the form was loaded or cleared.
Any values are loaded and set, and an operation may raise. -/
inductive Heard : HookForm → Option (Except Fault Unit) → Prop
  | fresh : Heard {} none
  | load {f : HookForm} {last : Option (Except Fault Unit)} (run : Heard f last) (record : Value) :
      Heard (f.load record).2 (if (HookDraft.ofRecord record).isOk then none else last)
  | clear {f : HookForm} {last : Option (Except Fault Unit)} (run : Heard f last) :
      Heard f.clear none
  | setMember {f : HookForm} {last : Option (Except Fault Unit)} (run : Heard f last)
      (key v : Value) : Heard (f.setMember key v).2 last
  | update {f : HookForm} {last : Option (Except Fault Unit)} (run : Heard f last)
      (values : Value) : Heard (f.update values).2 last
  | save {f : HookForm} {last : Option (Except Fault Unit)} {σ : Type} {saver : Saver σ}
      (run : Heard f last) (quiet : saver.Quiet) (st : σ) :
      Heard (f.save saver.heard (st, last)).2.1 (f.save saver.heard (st, last)).2.2.2

/-- **The save was broken off**: the saver raised something else than a console error. -/
def BrokenOff (last : Option (Except Fault Unit)) : Prop :=
  ∃ fault, last = some (.error fault) ∧ fault.console? = none

/-- The state fits the draft and the last answer. -/
structure Placed (f : HookForm) (last : Option (Except Fault Unit)) : Prop where
  noDraft : f.state = .noDraft ↔ f.draft = none
  saving : f.state = .saving ↔ BrokenOff last

/-! ## Single steps -/

/-- A form that is edited has a draft, and its last save was not broken off. -/
theorem placed_of_editing (state : f.state = .editing) (draft : f.draft ≠ none)
    (ended : ¬ BrokenOff last) : Placed f last where
  noDraft := by simp [state, draft]
  saving := by simp [state, ended]

theorem not_brokenOff_none : ¬ BrokenOff none := nofun

theorem brokenOff_error_iff {fault : Fault} :
    BrokenOff (some (.error fault)) ↔ fault.console? = none := by
  simp [BrokenOff]

theorem placed_empty : Placed {} none :=
  ⟨iff_of_true rfl rfl, iff_of_false nofun not_brokenOff_none⟩

theorem Placed.load (h : Placed f last) (record : Value) :
    Placed (f.load record).2 (if (HookDraft.ofRecord record).isOk then none else last) := by
  rcases f.load_cases record with ⟨⟨fault, hrecord⟩, hf⟩ | ⟨d, hrecord, hf⟩
  · rwa [hf, hrecord]
  · obtain ⟨hdraft, -, hstate⟩ := revalidate_frame
      { f with draft := some d, saved := some d, state := .editing } d
    rw [hf, hrecord]
    refine placed_of_editing hstate ?_ not_brokenOff_none
    rw [hdraft]
    exact Option.some_ne_none d

theorem Placed.setMember (h : Placed f last) (key v : Value) :
    Placed (f.setMember key v).2 last := by
  obtain ⟨-, hdraft, hstate⟩ := f.setMember_frame key v
  have hnone : (f.setMember key v).2.draft = none ↔ f.draft = none := by
    rw [← Option.not_isSome_iff_eq_none, hdraft, Option.not_isSome_iff_eq_none]
  exact ⟨by rw [hstate, hnone, h.noDraft], by rw [hstate, h.saving]⟩

/-- **The form after a save** is placed by the answer that ended it. -/
theorem placed_ended (hd : f.draft = some d) (answer : Except Fault Unit) :
    Placed (ended d { f with state := .saving } answer) (some answer) := by
  have hsome : f.draft ≠ none := hd ▸ Option.some_ne_none d
  match answer with
  | .ok () => exact placed_of_editing rfl hsome nofun
  | .error (.console e) => exact placed_of_editing rfl hsome (mt brokenOff_error_iff.mp nofun)
  | .error (.invalid r) =>
      exact ⟨iff_of_false nofun hsome, iff_of_true rfl (brokenOff_error_iff.mpr rfl)⟩
  | .error (.mishap m) =>
      exact ⟨iff_of_false nofun hsome, iff_of_true rfl (brokenOff_error_iff.mpr rfl)⟩

/-- **A valid form asks a quiet saver**, and goes on as it was. -/
theorem save_of_quiet (h : f.isValid = true) (hd : f.draft = some d) {saver : Saver σ}
    (quiet : saver.Quiet) (st : σ) : ∃ result answer st',
      saver d.id d.toValue { f with state := .saving } st =
        (answer, { f with state := .saving }, st') ∧
      f.save saver st = (result, ended d { f with state := .saving } answer, st') ∧
      ((∃ outcome, result = .ok outcome ∧ outcome.ok = true) ↔ answer = .ok ()) := by
  rcases hasked : saver d.id d.toValue { f with state := .saving } st with ⟨answer, left, st'⟩
  obtain rfl : left = { f with state := .saving } := by
    rw [← quiet d.id d.toValue { f with state := .saving } st, hasked]
  obtain ⟨result, hsave, hok, -⟩ := save_of_isValid h hd hasked
  exact ⟨result, answer, st', rfl, hsave, hok⟩

theorem Saver.Quiet.heard {saver : Saver σ} (quiet : saver.Quiet) : saver.heard.Quiet :=
  fun id payload f st => quiet id payload f st.1

theorem Placed.save (h : Placed f last) {saver : Saver σ} (quiet : saver.Quiet) (st : σ) :
    Placed (f.save saver.heard (st, last)).2.1 (f.save saver.heard (st, last)).2.2.2 := by
  cases hvalid : f.isValid with
  | false =>
      obtain ⟨outcome, hsave⟩ := save_of_invalid hvalid saver.heard (st, last)
      rwa [hsave]
  | true =>
      obtain ⟨d, hd⟩ := exists_draft_of_isValid hvalid
      obtain ⟨result, answer, st', hasked, hsave, -⟩ :=
        save_of_quiet hvalid hd quiet.heard (st, last)
      -- what is noted is the answer
      obtain ⟨rfl, -, rfl⟩ := Prod.mk.inj hasked |>.imp_right Prod.mk.inj
      rw [hsave]
      exact placed_ended hd _

/-- **A save that does not succeed** changes no more than the state. -/
theorem save_of_not_ok {saver : Saver σ} (quiet : saver.Quiet) (st : σ)
    (failed : ¬ ∃ outcome, (f.save saver st).1 = .ok outcome ∧ outcome.ok = true) :
    ∃ state, (f.save saver st).2.1 = { f with state := state } := by
  cases hvalid : f.isValid with
  | false =>
      obtain ⟨outcome, hsave⟩ := save_of_invalid hvalid saver st
      exact ⟨f.state, by rw [hsave]⟩
  | true =>
      obtain ⟨d, hd⟩ := exists_draft_of_isValid hvalid
      obtain ⟨result, answer, st', -, hsave, hok⟩ := save_of_quiet hvalid hd quiet st
      rw [hsave] at failed ⊢
      match answer with
      | .ok () => exact absurd (hok.mpr rfl) failed
      | .error (.console _) => exact ⟨.editing, rfl⟩
      | .error (.invalid _) => exact ⟨.saving, rfl⟩
      | .error (.mishap _) => exact ⟨.saving, rfl⟩

/-! ## Runs -/

theorem Heard.placed (run : Heard f last) : Placed f last := by
  induction run with
  | fresh => exact placed_empty
  | load _ record ih => exact ih.load record
  | clear => exact placed_empty
  | setMember _ key v ih => exact ih.setMember key v
  | @update f last _ values ih =>
      exact update_keeps (P := fun f => Placed f last) (fun _ key v h => h.setMember key v) values ih
  | save _ quiet st ih => exact ih.save quiet st

/-- **The state follows the draft and the last answer of a saver.**  After any run, whatever was
loaded, set and answered:

* there is no draft exactly in the state `noDraft`;
* with no saver running, the form is saving exactly if the last save since it was loaded was broken
  off, and so it is editing exactly if it has a draft and was not;
* a save that does not succeed changes neither the draft nor whether it has unsaved changes. -/
theorem state_follows_answer (run : Heard f last) :
    (f.state = .noDraft ↔ f.draft = none) ∧ (f.state = .saving ↔ BrokenOff last) ∧
    (f.state = .editing ↔ f.draft ≠ none ∧ ¬ BrokenOff last) ∧
    ∀ {σ : Type} {saver : Saver σ}, saver.Quiet → ∀ st,
      (¬ ∃ outcome, (f.save saver st).1 = .ok outcome ∧ outcome.ok = true) →
        (f.save saver st).2.1.draft = f.draft ∧
        (f.save saver st).2.1.hasUnsavedChanges = f.hasUnsavedChanges := by
  obtain ⟨hnone, hsaving⟩ := run.placed
  refine ⟨hnone, hsaving, ?_, fun quiet st failed => ?_⟩
  · rw [Ne, ← hnone, ← hsaving]
    cases f.state <;> simp
  · obtain ⟨state, hsave⟩ := save_of_not_ok quiet st failed
    rw [hsave]
    exact ⟨rfl, rfl⟩

/-- The form with a stored hook. -/
def loadedHook : HookForm :=
  (({} : HookForm).load (.object [("id", .text "h1"), ("entity", .text "orders")])).2

/-- The same form after it was tried to save the hook. -/
def brokenSave : HookForm := (loadedHook.save (answering (.error .unreadInteger)) ()).2.1

theorem quiet_answering (answer : Except Fault Unit) : (answering answer).Quiet :=
  fun _ _ _ _ => rfl

theorem heard_brokenSave : Heard brokenSave (some (.error .unreadInteger)) :=
  (Heard.fresh.load (.object [("id", .text "h1"), ("entity", .text "orders")])).save
    (quiet_answering (.error .unreadInteger)) ()

/-- The form after the next save was refused. -/
def refusedSave : HookForm :=
  (brokenSave.save (answering (.error (.console (.general "busy" .empty [])))) ()).2.1

/-- The form is saving until an answer ends a save; a refusal does so, and changes nothing else. -/
theorem state_follows_answer_refusedSave :
    Heard brokenSave (some (.error .unreadInteger)) ∧ brokenSave.state = .saving ∧
      refusedSave.state = .editing ∧ refusedSave.draft = brokenSave.draft ∧
      refusedSave.hasUnsavedChanges = false := by
  have quiet := quiet_answering (.error (.console (.general "busy" .empty [])))
  have refused : Heard refusedSave _ := heard_brokenSave.save quiet ()
  obtain ⟨-, hsaving, -, hkept⟩ := state_follows_answer heard_brokenSave
  obtain ⟨hdraft, hunsaved⟩ := hkept quiet () fun ⟨_, hanswer, hok⟩ => by
    cases hanswer
    nomatch hok
  obtain ⟨-, -, hediting, -⟩ := state_follows_answer refused
  have ended : ¬ BrokenOff (some (.error (.console (.general "busy" .empty [])))) :=
    mt brokenOff_error_iff.mp nofun
  exact ⟨heard_brokenSave, hsaving.mpr (brokenOff_error_iff.mpr rfl),
    hediting.mpr ⟨by decide, ended⟩, hdraft, hunsaved.trans (by decide)⟩

/-- **A form stays saving after its saver ended**: the save raises, and the draft is still there. -/
theorem broken_save_stays_saving :
    Heard loadedHook none ∧ loadedHook.state = .editing ∧
    loadedHook.save (answering (.error .unreadInteger)) () =
      (.error .unreadInteger, brokenSave, ()) ∧
    brokenSave.draft = loadedHook.draft ∧ brokenSave.draft ≠ none ∧
    brokenSave.state = .saving :=
  ⟨Heard.fresh.load (.object [("id", .text "h1"), ("entity", .text "orders")]), rfl, rfl, rfl,
    by decide, rfl⟩

end AdminConsole.HookForm
