import AdminConsole.Proofs.Hook.Gate

/-!
# Proofs/Hook/Unchecked — drafts whose rules cannot be checked

A new draft is in the form before it is found out which rules it breaks, and this can fail: the
script rule has no answer for a script that is no text under an event that is offered, nor for any
script under a list or a mapping as event (`Uncheckable`).  The operation raises then, and the
errors of an earlier draft stay.

* After any operations with any values the errors are those of the draft, or its rules cannot be
  checked (`Operated.upToDate`).
* So what a save sends breaks no rule exactly if its rules can be checked
  (`sent_unbroken_iff_checkable`), and a draft of which they cannot is sent after an edit that
  raised (`unchecked_script_sent`).
-/

namespace AdminConsole

/-! ## Drafts that cannot be checked -/

namespace HookScript

theorem isSome_lookup_declarations {event : String} :
    (declarations.lookup event).isSome = true ↔ event = "post_read" ∨ event = "pre_read" := by
  rw [declarations, List.lookup_isSome_iff]
  simp

end HookScript

namespace HookDraft

variable {d : HookDraft}

/-- **The rules of a draft cannot be checked**: it has a script, and its event has parts, or is one
that is offered while the script is no text. -/
def Uncheckable (d : HookDraft) : Prop :=
  d.script.truthy = true ∧ ((∀ s, d.event ≠ .scalar s) ∨
    (d.event = .text "post_read" ∨ d.event = .text "pre_read") ∧ ∀ s, d.script ≠ .text s)

/-- The script rule fails on exactly these drafts. -/
theorem exists_check_eq_error_iff :
    (∃ fault, HookScript.check d.event d.script = .error fault) ↔ d.Uncheckable := by
  unfold Uncheckable HookScript.check
  by_cases hscript : d.script.truthy = true
  case neg => simp [hscript]
  rw [if_neg (by simp [hscript])]
  split
  · rename_i event hevent
    have hknown : (d.event = .text "post_read" ∨ d.event = .text "pre_read") ↔
        (HookScript.declarations.lookup event).isSome = true := by
      rw [HookScript.isSome_lookup_declarations, hevent]
      simp
    rw [hknown, hevent]
    split
    · rename_i s hs
      simp [hs]
    · rename_i hs
      split
      · rename_i hsome
        simpa [hscript, hsome] using hs
      · rename_i hsome
        simp [hsome]
  · rename_i hs hevent
    have hne (e : String) : ¬ _ = Scalar.text e := hs e
    simp [hevent, hne]
  · rename_i hscalar
    simp only [hscript, true_and, Except.error.injEq, exists_eq', true_iff]
    exact .inl fun s hs => hscalar s hs

/-- **Whether the rules that a draft breaks can be found out.** -/
theorem exists_problems_eq_error_iff :
    (∃ fault, d.problems = .error fault) ↔ d.Uncheckable := by
  rw [← exists_check_eq_error_iff, problems]
  cases HookScript.check d.event d.script with
  | error fault => simp [bind, Except.bind]
  | ok message =>
      cases message with
      | none => simp [bind, Except.bind, pure, Except.pure]
      | some message =>
          simp only [bind, Except.bind, pure, Except.pure]
          split <;> simp

end HookDraft

namespace HookForm

open HookDraft

variable {σ : Type} {f : HookForm} {d : HookDraft}

/-! ## Any operations with any values -/

/-- **Operations on a form**, one after another, whether they raise or not.  A saver may run some of
its own before it answers. -/
inductive Operated : HookForm → HookForm → Prop
  | refl (f : HookForm) : Operated f f
  | load {f g : HookForm} (run : Operated f g) (record : Value) : Operated f (g.load record).2
  | setMember {f g : HookForm} (run : Operated f g) (key v : Value) :
      Operated f (g.setMember key v).2
  | update {f g : HookForm} (run : Operated f g) (values : Value) : Operated f (g.update values).2
  | clear {f g : HookForm} (run : Operated f g) : Operated f g.clear
  | save {f g : HookForm} {σ : Type} (run : Operated f g) (saver : Saver σ) (st : σ)
      (operating : ∀ id payload g st, Operated g (saver id payload g st).2.1) :
      Operated f (g.save saver st).2.1

/-- The errors are those of the draft, unless its rules cannot be checked. -/
def UpToDate (f : HookForm) : Prop :=
  ∀ d, f.draft = some d → d.problems = .ok f.errors ∨ d.Uncheckable

/-- Checking a draft makes the errors those of the draft, if it can be checked. -/
theorem upToDate_revalidate (hd : f.draft = some d) : UpToDate (f.revalidate d).2 := by
  intro d' hd'
  rw [(revalidate_frame f d).1, hd] at hd'
  obtain rfl := Option.some.inj hd'
  cases hproblems : d.problems with
  | error fault => exact .inr (exists_problems_eq_error_iff.mp ⟨fault, hproblems⟩)
  | ok errors =>
      refine .inl ?_
      rw [revalidate, hproblems]

theorem UpToDate.setMember (h : UpToDate f) (key v : Value) : UpToDate (f.setMember key v).2 := by
  rcases f.setMember_cases key v with hf | ⟨d, m, -, -, hf⟩
  · rwa [hf]
  · rw [hf]
    exact upToDate_revalidate rfl

theorem UpToDate.load (h : UpToDate f) (record : Value) : UpToDate (f.load record).2 := by
  rcases f.load_cases record with ⟨-, hf⟩ | ⟨d, -, hf⟩
  · rwa [hf]
  · rw [hf]
    exact upToDate_revalidate rfl

/-- A save leaves the draft and the errors as the saver leaves them. -/
theorem UpToDate.save (h : UpToDate f) {saver : Saver σ}
    (operating : ∀ id payload g st, UpToDate g → UpToDate (saver id payload g st).2.1) (st : σ) :
    UpToDate (f.save saver st).2.1 := by
  cases hvalid : f.isValid with
  | false =>
      obtain ⟨outcome, hsave⟩ := save_of_invalid hvalid saver st
      rwa [hsave]
  | true =>
      obtain ⟨d, hd⟩ := exists_draft_of_isValid hvalid
      have left := operating d.id d.toValue { f with state := .saving } st h
      rcases hasked : saver d.id d.toValue { f with state := .saving } st with ⟨answer, g, st'⟩
      obtain ⟨result, hsave, -⟩ := save_of_isValid hvalid hd hasked
      rw [hasked] at left
      rw [hsave]
      match answer with
      | .ok () => exact left
      | .error (.console _) => exact left
      | .error (.invalid _) => exact left
      | .error (.mishap _) => exact left

/-- **Operations keep the errors up to date**, as far as the draft can be checked. -/
theorem Operated.upToDate {g : HookForm} (run : Operated f g) : UpToDate f → UpToDate g := by
  induction run with
  | refl => exact fun h => h
  | load _ record ih => exact fun h => (ih h).load record
  | setMember _ key v ih => exact fun h => (ih h).setMember key v
  | update _ values ih => exact fun h => update_keeps (fun _ key v h => h.setMember key v) values (ih h)
  | clear => exact fun _ => nofun
  | save _ saver st _ ih operating => exact fun h => (ih h).save operating st

/-! ## What is sent -/

/-- **What is sent breaks no rule exactly if its rules can be checked.**  After any operations with
any values, whether they raised or not:

* the errors are what the rules say about the draft exactly if they can be checked;
* a save calls the saver exactly if the form is valid, once and with its draft, and this breaks no
  rule exactly if the rules can be checked. -/
theorem sent_unbroken_iff_checkable (run : Operated {} f) :
    (∀ d, f.draft = some d → (d.problems = .ok f.errors ↔ ¬ d.Uncheckable)) ∧
    ∀ {σ : Type} (saver : Saver σ) (st : σ),
      (f.isValid = false → (f.save saver.noted (st, [])).2.2.2 = []) ∧
      (f.isValid = true → ∃ d, f.draft = some d ∧
        (f.save saver.noted (st, [])).2.2.2 = [(d.id, d.toValue)] ∧
        (d.problems = .ok [] ↔ ¬ d.Uncheckable)) := by
  have checked : ∀ d, f.draft = some d → (d.problems = .ok f.errors ↔ ¬ d.Uncheckable) := by
    intro d hd
    refine ⟨fun hproblems huncheckable => ?_, (run.upToDate nofun d hd).resolve_right⟩
    obtain ⟨fault, hfault⟩ := exists_problems_eq_error_iff.mpr huncheckable
    nomatch hproblems.symm.trans hfault
  refine ⟨checked, fun saver st => ⟨fun hvalid => ?_, fun hvalid => ?_⟩⟩
  · obtain ⟨outcome, hsave⟩ := save_of_invalid hvalid saver.noted (st, [])
    rw [hsave]
  · obtain ⟨d, hd⟩ := exists_draft_of_isValid hvalid
    have hasked : saver.noted d.id d.toValue { f with state := .saving } (st, []) =
        (_, _, _, [(d.id, d.toValue)]) := rfl
    obtain ⟨result, hsave, -⟩ := save_of_isValid hvalid hd hasked
    refine ⟨d, hd, ?_, ?_⟩
    · rw [hsave]
    · have herrors : f.errors = [] :=
        List.isEmpty_iff.mp ((Bool.and_eq_true _ _).mp hvalid).2
      rw [← herrors]
      exact checked d hd

/-- A stored hook without a script. -/
def bareHook : Value :=
  .object [("id", .text "h1"), ("entity", .text "orders"), ("name", .text "stamp")]

/-- The form with this hook after its script was set to a number. -/
def numberedScript : HookForm :=
  (((({} : HookForm).load bareHook).2).setMember (.text "script") (.int 5)).2

/-- The same form after its script was set to a text. -/
def mendedScript : HookForm :=
  (numberedScript.setMember (.text "script") (.text "function postRead(entity) {}")).2

theorem operated_numberedScript : Operated {} numberedScript :=
  ((Operated.refl {}).load bareHook).setMember (.text "script") (.int 5)

/-- Once the script is a text again, what is sent breaks no rule. -/
theorem sent_unbroken_iff_checkable_mendedScript :
    Operated {} mendedScript ∧ ∃ d, mendedScript.draft = some d ∧
      (mendedScript.save (answering (.ok ())).noted ((), [])).2.2.2 = [(d.id, d.toValue)] ∧
      d.problems = .ok [] := by
  have run : Operated {} mendedScript :=
    operated_numberedScript.setMember (.text "script") (.text "function postRead(entity) {}")
  obtain ⟨d, hd, hcalls, hiff⟩ :=
    ((sent_unbroken_iff_checkable run).2 (answering (.ok ())) ()).2 (by decide)
  refine ⟨run, d, hd, hcalls, hiff.mpr fun huncheckable => ?_⟩
  have hscript : d.script = .text "function postRead(entity) {}" := by
    cases hd
    rfl
  have hevent : d.event = .text "post_read" := by
    cases hd
    rfl
  rcases huncheckable.2 with hparts | ⟨-, hnone⟩
  · exact hparts _ hevent
  · exact hnone _ hscript

/-- **A draft is sent although it was never checked**: setting the script to a number raises, and
leaves the number in the draft and no errors. -/
theorem unchecked_script_sent :
    Operated {} numberedScript ∧
    ((({} : HookForm).load bareHook).2.setMember (.text "script") (.int 5)).1 =
      .error (.noAttribute (.int 5) "startswith") ∧
    ∃ d, numberedScript.draft = some d ∧
      d.problems = .error (.noAttribute (.int 5) "startswith") ∧
      numberedScript.errors = [] ∧
      (numberedScript.save (answering (.ok ())).noted ((), [])).2.2.2 = [(d.id, d.toValue)] :=
  ⟨operated_numberedScript, by decide, _, rfl, by decide, by decide, by decide⟩

end HookForm

end AdminConsole
