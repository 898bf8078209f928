import AdminConsole.Proofs.Hook.Rules
import AdminConsole.Proofs.Hook.Step
import Mathlib.Logic.Relation

/-!
# Proofs/Hook/Gate — only a saveable draft is sent

The errors of a form are a copy of what the rules say about its draft.  Each edit makes this copy
anew, and an edit can also come from the saver, while a save is under way.

* Every step of a `Run` keeps the copy true and the drafts typed (`Checked`), so a form is valid
  exactly when its draft is saveable.
* A save either sends nothing and changes nothing (`save_of_invalid`), or it sends the draft once
  and goes on from the form that the saver leaves (`save_of_valid`).
* Both together: a draft is sent exactly when it is saveable, as it stands, and only a success makes
  what was sent the saved copy (`sent_iff_saveable`).
-/

namespace AdminConsole.HookForm

open HookDraft

/-! ## Edits and runs -/

/-- A value that may be set under a key: one of the member's kind, if the key names a member. -/
def Fits (key v : Value) : Prop :=
  ∀ m, key.text?.bind HookMember.ofKey? = some m → m.Accepts v

/-- Edits of the members of a draft, one after another. -/
abbrev Edits : HookForm → HookForm → Prop :=
  Relation.ReflTransGen fun f f' => ∃ key v, Fits key v ∧ f' = (f.setMember key v).2

variable {σ : Type}

/-- **A saver that only edits the form**, and returns or raises a console error. -/
structure Saver.Edits (saver : Saver σ) : Prop where
  edits : ∀ id payload f st, HookForm.Edits f (saver id payload f st).2.1
  answers : ∀ id payload f st, (saver id payload f st).1 = .ok () ∨
    ∃ e, (saver id payload f st).1 = .error (.console e)

/-- **The runs of a form**: stored hooks are loaded into it, and members are set to fitting
values. -/
inductive Run : HookForm → Prop
  | fresh : Run {}
  | load {f : HookForm} (run : Run f) (h : StoredHook) : Run (f.load h.toValue).2
  | setMember {f : HookForm} (run : Run f) {key v : Value} (fits : Fits key v) :
      Run (f.setMember key v).2
  | update {f : HookForm} (run : Run f) {es : List (Scalar × Value)}
      (fits : ∀ e ∈ es, Fits (.scalar e.1) e.2) : Run (f.update (.map es)).2
  | clear {f : HookForm} (run : Run f) : Run f.clear
  | save {f : HookForm} {σ : Type} {saver : Saver σ} (run : Run f) (edits : saver.Edits) (st : σ) :
      Run (f.save saver st).2.1

/-- **The errors are those of the draft**, and the drafts are typed. -/
structure Checked (f : HookForm) : Prop where
  none : f.draft = none → f.errors = []
  draft : ∀ d, f.draft = some d → Typed d ∧ d.problems = .ok f.errors
  saved : ∀ d, f.saved = some d → Typed d

variable {f : HookForm} {d : HookDraft}

/-! ## Editing -/

/-- **Checking a typed draft** makes the errors those of the draft. -/
theorem revalidate_eq (f : HookForm) (typed : Typed d) :
    ∃ errors, d.problems = .ok errors ∧
      f.revalidate d = (.ok errors, { f with errors := errors }) := by
  obtain ⟨errors, hproblems, -⟩ := typed.problems_eq
  refine ⟨errors, hproblems, ?_⟩
  rw [revalidate, hproblems]

theorem Checked.revalidate (hd : f.draft = some d) (typed : Typed d)
    (saved : ∀ d, f.saved = some d → Typed d) : Checked (f.revalidate d).2 := by
  obtain ⟨errors, hproblems, heq⟩ := f.revalidate_eq typed
  rw [heq]
  refine ⟨fun hnone => ?_, fun d' hd' => ?_, saved⟩
  · nomatch hd.symm.trans hnone
  · obtain rfl := Option.some.inj (hd.symm.trans hd')
    exact ⟨typed, hproblems⟩

/-- **Edits leave the saved copy alone**, and there is a draft afterwards if there was one. -/
theorem Edits.frame {f' : HookForm} (edits : Edits f f') :
    f'.saved = f.saved ∧ f'.draft.isSome = f.draft.isSome := by
  induction edits with
  | refl => exact ⟨rfl, rfl⟩
  | tail _ edit ih =>
      obtain ⟨key, v, -, rfl⟩ := edit
      obtain ⟨hsaved, hdraft, -⟩ := setMember_frame _ key v
      exact ⟨hsaved.trans ih.1, hdraft.trans ih.2⟩

theorem Checked.setMember (h : Checked f) {key v : Value} (fits : Fits key v) :
    Checked (f.setMember key v).2 := by
  rcases f.setMember_cases key v with hf | ⟨d, m, hd, hm, hf⟩
  · rwa [hf]
  · rw [hf]
    exact .revalidate rfl ((h.draft d hd).1.set (fits m hm)) h.saved

theorem Checked.edits {f' : HookForm} (h : Checked f) (edits : Edits f f') : Checked f' := by
  induction edits with
  | refl => exact h
  | tail _ edit ih =>
      obtain ⟨key, v, fits, rfl⟩ := edit
      exact ih.setMember fits

theorem Checked.setMembers {es : List (Scalar × Value)} (fits : ∀ e ∈ es, Fits (.scalar e.1) e.2)
    {f : HookForm} (h : Checked f) : Checked (HookForm.setMembers es f).2 :=
  setMembers_keeps (fun e he _ h => h.setMember (fits e he)) h

/-- **A stored hook is loaded** as a draft that is its own saved copy. -/
theorem load_toValue (f : HookForm) (h : StoredHook) : ∃ errors,
    (ofStored h).problems = .ok errors ∧ f.load h.toValue = (.ok (ofStored h),
      ⟨.editing, some (ofStored h), some (ofStored h), errors⟩) := by
  obtain ⟨errors, hproblems, heq⟩ :=
    revalidate_eq ⟨.editing, some (ofStored h), some (ofStored h), f.errors⟩ (typed_ofStored h)
  refine ⟨errors, hproblems, ?_⟩
  rw [load, ofRecord_toValue]
  simp only [heq]
  rfl

theorem checked_load (f : HookForm) (h : StoredHook) : Checked (f.load h.toValue).2 := by
  obtain ⟨errors, hproblems, heq⟩ := f.load_toValue h
  rw [heq]
  refine ⟨nofun, fun d hd => ?_, fun d hd => ?_⟩
  · obtain rfl := Option.some.inj hd
    exact ⟨typed_ofStored h, hproblems⟩
  · obtain rfl := Option.some.inj hd
    exact typed_ofStored h

theorem Checked.isValid_iff (h : Checked f) :
    f.isValid = true ↔ ∃ d, f.draft = some d ∧ Saveable d := by
  cases hd : f.draft with
  | none => simp [isValid, hd]
  | some d =>
      obtain ⟨typed, hproblems⟩ := h.draft d hd
      obtain ⟨errors, hproblems', hsaveable⟩ := typed.problems_eq
      obtain rfl := Except.ok.inj (hproblems.symm.trans hproblems')
      simp [isValid, hd, hsaveable]

/-- **A draft counts as unsaved** when it is not the saved copy. -/
theorem Checked.hasUnsavedChanges_iff (h : Checked f) :
    f.hasUnsavedChanges = true ↔ ∃ d, f.draft = some d ∧ f.saved ≠ some d := by
  cases hd : f.draft with
  | none => simp [hasUnsavedChanges, hd]
  | some d =>
      cases hs : f.saved with
      | none => simp [hasUnsavedChanges, hd, hs]
      | some s =>
          have hsame : d.same s = true ↔ d = s := (h.draft d hd).1.same_iff (h.saved s hs)
          have hunsaved : f.hasUnsavedChanges = !d.same s := by
            rw [hasUnsavedChanges, hd, hs]
          rw [hunsaved, Bool.not_eq_true', ← Bool.not_eq_true, hsame]
          simp [eq_comm]

/-! ## Saving -/

/-- The form after a save of `d`, given what the saver answered and the form that it left. -/
def finished (d : HookDraft) (edited : HookForm) : Except Fault Unit → HookForm
  | .ok () => { edited with state := .editing, saved := some d }
  | .error _ => { edited with state := .editing }

/-- **A valid form sends its draft**, and goes on from the form that the saver leaves. -/
theorem save_of_valid (h : f.isValid = true) (hd : f.draft = some d) {saver : Saver σ}
    (edits : saver.Edits) (st : σ) : ∃ outcome answer edited st',
      saver d.id d.toValue { f with state := .saving } st = (answer, edited, st') ∧
      Edits { f with state := .saving } edited ∧
      f.save saver st = (.ok outcome, finished d edited answer, st') := by
  have hedits := edits.edits d.id d.toValue { f with state := .saving } st
  have hanswer := edits.answers d.id d.toValue { f with state := .saving } st
  rcases hasked : saver d.id d.toValue { f with state := .saving } st with ⟨answer, edited, st'⟩
  rw [hasked] at hedits hanswer
  obtain ⟨result, hsave, -, hraised⟩ := save_of_isValid h hd hasked
  -- what the saver raises is a console error, and becomes an outcome
  obtain ⟨outcome, rfl⟩ : ∃ outcome, result = .ok outcome := by
    cases result with
    | ok outcome => exact ⟨outcome, rfl⟩
    | error fault =>
        obtain ⟨rfl, hconsole⟩ := (hraised fault).mp rfl
        obtain hok | ⟨e, he⟩ := hanswer
        · nomatch hok
        · obtain rfl := Except.error.inj he
          nomatch hconsole
  refine ⟨outcome, answer, edited, st', rfl, hedits, ?_⟩
  rcases hanswer with rfl | ⟨e, rfl⟩
  · exact hsave
  · exact hsave

theorem Checked.finished (h : Checked f) (typed : Typed d) (answer : Except Fault Unit) :
    Checked (finished d f answer) := by
  cases answer with
  | ok _ => exact ⟨h.none, h.draft, fun d' hd' => Option.some.inj hd' ▸ typed⟩
  | error _ => exact ⟨h.none, h.draft, h.saved⟩

/-- While a save is under way, the draft and its errors are the same. -/
theorem Checked.saving (h : Checked f) : Checked { f with state := .saving } :=
  ⟨h.none, h.draft, h.saved⟩

theorem Checked.save (h : Checked f) {saver : Saver σ} (edits : saver.Edits) (st : σ) :
    Checked (f.save saver st).2.1 := by
  cases hvalid : f.isValid with
  | false =>
      obtain ⟨outcome, hsave⟩ := save_of_invalid hvalid saver st
      rwa [hsave]
  | true =>
      obtain ⟨d, hd, -⟩ := h.isValid_iff.mp hvalid
      obtain ⟨outcome, answer, edited, st', -, hedits, hsave⟩ := save_of_valid hvalid hd edits st
      rw [hsave]
      exact (h.saving.edits hedits).finished (h.draft d hd).1 answer

/-! ## Runs -/

theorem Run.checked (run : Run f) : Checked f := by
  induction run with
  | fresh => exact ⟨fun _ => rfl, nofun, nofun⟩
  | load _ h _ => exact checked_load _ h
  | setMember _ fits ih => exact ih.setMember fits
  | update _ fits ih => exact ih.setMembers fits
  | clear => exact ⟨fun _ => rfl, nofun, nofun⟩
  | save _ edits st ih => exact ih.save edits st

/-- The same saver, with the calls that were made. -/
def Saver.noted (saver : Saver σ) : Saver (σ × List (Value × Value)) := fun id payload f st =>
  let (answer, f, st') := saver id payload f st.1
  (answer, f, st', (id, payload) :: st.2)

theorem Saver.Edits.noted {saver : Saver σ} (edits : saver.Edits) : saver.noted.Edits :=
  ⟨fun id payload f st => edits.edits id payload f st.1,
    fun id payload f st => edits.answers id payload f st.1⟩

/-- **A draft is sent exactly when it may be.**  After every run of loads, edits and saves:

* the errors are what the rules say about the draft, and there are none without a draft;
* the form is valid exactly when it has a draft that keeps the rules;
* a save returns.  An invalid form calls nothing and stays as it is.  A valid one calls the saver
  once, with the id and the whole content of the draft, and keeps what the saver made of the draft;
  only if the saver returned is what was sent the saved copy, and any other draft counts as
  unsaved. -/
theorem sent_iff_saveable (run : Run f) :
    (f.draft = none → f.errors = []) ∧ (∀ d, f.draft = some d → d.problems = .ok f.errors) ∧
    (f.isValid = true ↔ ∃ d, f.draft = some d ∧ Saveable d) ∧
    ∀ {σ : Type} {saver : Saver σ}, saver.Edits → ∀ st, ∃ outcome f' st' calls,
      f.save saver.noted (st, []) = (.ok outcome, f', st', calls) ∧
      (f.isValid = false → calls = [] ∧ f' = f) ∧
      (f.isValid = true → ∃ d answer edited, f.draft = some d ∧ calls = [(d.id, d.toValue)] ∧
        saver d.id d.toValue { f with state := .saving } st = (answer, edited, st') ∧
        Edits { f with state := .saving } edited ∧ f'.draft = edited.draft ∧
        match answer with
        | .ok () => f'.saved = some d ∧ (f'.hasUnsavedChanges = true ↔ edited.draft ≠ some d)
        | .error _ => f'.saved = f.saved) := by
  have h := run.checked
  refine ⟨h.none, fun d hd => (h.draft d hd).2, h.isValid_iff, fun {σ saver} edits st => ?_⟩
  cases hvalid : f.isValid with
  | false =>
      obtain ⟨outcome, hsave⟩ := save_of_invalid hvalid saver.noted (st, [])
      exact ⟨outcome, f, st, [], hsave, fun _ => ⟨rfl, rfl⟩, nofun⟩
  | true =>
      obtain ⟨d, hd, -⟩ := h.isValid_iff.mp hvalid
      obtain ⟨outcome, answer, edited, noted, hnoted, hedits, hsave⟩ :=
        save_of_valid hvalid hd edits.noted (st, [])
      -- noting the calls changes neither the answer nor the form
      rcases hsaver : saver d.id d.toValue { f with state := .saving } st with ⟨answer, edited, st'⟩
      simp only [Saver.noted, hsaver, Prod.mk.injEq] at hnoted
      obtain ⟨rfl, rfl, rfl⟩ := hnoted
      refine ⟨outcome, _, st', _, hsave, nofun, fun _ =>
        ⟨d, answer, edited, hd, rfl, hsaver, hedits, ?_⟩⟩
      obtain ⟨hsaved, hdraft⟩ := hedits.frame
      cases answer with
      | error _ => exact ⟨rfl, hsaved⟩
      | ok _ =>
          obtain ⟨d', hd'⟩ : ∃ d', edited.draft = some d' := by
            rw [← Option.isSome_iff_exists, hdraft]
            exact congrArg Option.isSome hd
          have hdone := (h.saving.edits hedits).finished (h.draft d hd).1 (.ok ())
          refine ⟨rfl, rfl, hdone.hasUnsavedChanges_iff.trans ?_⟩
          simp [finished, hd', eq_comm]

/-- A stored hook with a priority that the editor does not offer. -/
def stampHook : StoredHook where
  id := some "h1"
  entity := "orders"
  name := "stamp"
  event := "post_read"
  priority := 250
  language := "javascript"
  script := "function postRead(entity) {}"
  bypassAcl := false
  enabled := true

/-- The form with this hook after its priority was lowered. -/
def loweredStamp : HookForm :=
  (((({} : HookForm).load stampHook.toValue).2).setMember (.text "priority") (.int 7)).2

/-- A saver that gives the hook another name while it is saved. -/
def busyRename : Saver Unit := fun _ _ f st =>
  (.ok (), (f.setMember (.text "name") (.text "stamped")).2, st)

/-- The hook cannot be saved as it was loaded. Once it can, the draft of that moment is sent and
saved, and the name that it was given meanwhile is unsaved. -/
theorem sent_iff_saveable_loweredStamp :
    (({} : HookForm).load stampHook.toValue).2.isValid = false ∧ Run loweredStamp ∧
      ∃ d outcome f', loweredStamp.draft = some d ∧ Saveable d ∧
        loweredStamp.save busyRename.noted ((), []) =
          (.ok outcome, f', (), [(d.id, d.toValue)]) ∧
        f'.saved = some d ∧ f'.hasUnsavedChanges = true := by
  have fits (name : String) (v : Value) (m : HookMember) (hm : HookMember.ofKey? name = some m)
      (hv : m.Accepts v) : Fits (.text name) v := fun m' hm' =>
    Option.some.inj (hm.symm.trans hm') ▸ hv
  have run : Run loweredStamp :=
    (Run.fresh.load stampHook).setMember (fits "priority" _ .priority (by decide) ⟨7, rfl⟩)
  have edits : busyRename.Edits :=
    ⟨fun _ _ _ _ => .single ⟨_, _, fits "name" _ .name (by decide) ⟨"stamped", rfl⟩, rfl⟩,
      fun _ _ _ _ => .inl rfl⟩
  have valid : loweredStamp.isValid = true := by decide
  obtain ⟨-, -, hvalid, hsaves⟩ := sent_iff_saveable run
  obtain ⟨outcome, f', st', calls, hsave, -, hsent⟩ := hsaves edits ()
  obtain ⟨d, answer, edited, hd, rfl, hsaver, -, hdraft, hends⟩ := hsent valid
  cases hsaver
  obtain ⟨d', hd', saveable⟩ := hvalid.mp valid
  obtain rfl := Option.some.inj (hd.symm.trans hd')
  refine ⟨by decide, run, d, outcome, f', hd, saveable, hsave, hends.1, hends.2.mpr ?_⟩
  rw [← hd]
  decide

end AdminConsole.HookForm
