import AdminConsole.Hook.Form

/-!
# Proofs/Hook/Step — what one operation does to a form

Nothing is assumed of the values that are loaded or set, and an operation that raises counts as one
that does not.  An edit changes nothing or one member of the draft (`setMember_cases`), a load
changes nothing or everything (`load_cases`), and in both cases the new draft is in the form before
its rules are checked.  A save calls nothing unless the form is valid (`save_of_invalid`); then the
form that the saver leaves, and what it answered, are all that counts (`save_of_isValid`).
-/

namespace AdminConsole.HookForm

variable {σ : Type} {f : HookForm} {d : HookDraft}

/-! ## Editing -/

theorem revalidate_frame (f : HookForm) (d : HookDraft) :
    (f.revalidate d).2.draft = f.draft ∧ (f.revalidate d).2.saved = f.saved ∧
      (f.revalidate d).2.state = f.state := by
  rw [revalidate]
  cases d.problems with
  | ok errors => exact ⟨rfl, rfl, rfl⟩
  | error fault => exact ⟨rfl, rfl, rfl⟩

/-- **An edit** changes nothing, or one member of the draft, which is then checked. -/
theorem setMember_cases (f : HookForm) (key v : Value) :
    (f.setMember key v).2 = f ∨ ∃ d m, f.draft = some d ∧
      key.text?.bind HookMember.ofKey? = some m ∧ (f.setMember key v).2 =
        (({ f with draft := some (d.set m v) } : HookForm).revalidate (d.set m v)).2 := by
  rw [HookForm.setMember]
  split
  · exact .inl rfl
  · rename_i d hd
    split
    · exact .inl rfl
    · rename_i m hm
      split
      · exact .inl rfl
      · exact .inr ⟨d, m, hd, hm, rfl⟩

/-- An edit leaves the state and the saved copy alone, and there is a draft afterwards if there was
one. -/
theorem setMember_frame (f : HookForm) (key v : Value) :
    (f.setMember key v).2.saved = f.saved ∧
      (f.setMember key v).2.draft.isSome = f.draft.isSome ∧
      (f.setMember key v).2.state = f.state := by
  rcases f.setMember_cases key v with hf | ⟨d, m, hd, -, hf⟩
  · rw [hf]
    exact ⟨rfl, rfl, rfl⟩
  · obtain ⟨hdraft, hsaved, hstate⟩ :=
      revalidate_frame { f with draft := some (d.set m v) } (d.set m v)
    rw [hf, hsaved, hdraft, hstate, hd]
    exact ⟨rfl, rfl, rfl⟩

/-- **What each edit of a list keeps** is kept by all of them, also if one of them ends it. -/
theorem setMembers_keeps {P : HookForm → Prop} {es : List (Scalar × Value)}
    (set : ∀ e ∈ es, ∀ f, P f → P (f.setMember (.scalar e.1) e.2).2) :
    ∀ {f : HookForm}, P f → P (HookForm.setMembers es f).2 := by
  induction es with
  | nil => exact fun h => h
  | cons e rest ih =>
      intro f h
      have hstep := set e List.mem_cons_self f h
      rw [HookForm.setMembers]
      split
      · rename_i heq
        rw [heq] at hstep
        exact ih (fun e he => set e (List.mem_cons_of_mem _ he)) hstep
      · rename_i heq
        rwa [heq] at hstep

theorem update_keeps {P : HookForm → Prop} (set : ∀ f key v, P f → P (f.setMember key v).2)
    (values : Value) (h : P f) : P (f.update values).2 := by
  cases values with
  | map es => exact setMembers_keeps (fun e _ f => set f (.scalar e.1) e.2) h
  | _ => exact h

/-! ## Loading -/

/-- **A load** changes nothing if no draft can be read.  Otherwise the draft replaces everything, and
is then checked. -/
theorem load_cases (f : HookForm) (record : Value) :
    ((∃ fault, HookDraft.ofRecord record = .error fault) ∧ (f.load record).2 = f) ∨
      ∃ d, HookDraft.ofRecord record = .ok d ∧ (f.load record).2 =
        (({ f with draft := some d, saved := some d, state := .editing } : HookForm).revalidate
          d).2 := by
  rw [load]
  cases hd : HookDraft.ofRecord record with
  | error fault => exact .inl ⟨⟨fault, rfl⟩, rfl⟩
  | ok d => exact .inr ⟨d, rfl, rfl⟩

/-! ## Saving -/

/-- A saver that leaves the form alone and always gives the same answer. -/
def answering (answer : Except Fault Unit) : Saver Unit := fun _ _ f st => (answer, f, st)

/-- A valid form has a draft. -/
theorem exists_draft_of_isValid (h : f.isValid = true) : ∃ d, f.draft = some d :=
  Option.isSome_iff_exists.mp ((Bool.and_eq_true _ _).mp h).1

/-- **A form that is not valid sends nothing**, and the save changes nothing. -/
theorem save_of_invalid (h : f.isValid = false) (saver : Saver σ) (st : σ) :
    ∃ outcome, f.save saver st = (.ok outcome, f, st) := by
  rw [save]
  split
  · exact ⟨_, rfl⟩
  · rename_i d hd
    split
    · exact ⟨_, rfl⟩
    · rename_i herrors
      rw [isValid, hd, herrors] at h
      nomatch h

/-- The form after `d` was sent, given the form that the saver left and what it answered. -/
def ended (d : HookDraft) (left : HookForm) : Except Fault Unit → HookForm
  | .ok () => { left with state := .editing, saved := some d }
  | .error (.console _) => { left with state := .editing }
  | .error _ => left

/-- **A valid form sends its draft.**  The save succeeds exactly if the saver returns, and raises
exactly what the saver raised and is no console error. -/
theorem save_of_isValid (h : f.isValid = true) (hd : f.draft = some d) {saver : Saver σ} {st st' : σ}
    {answer : Except Fault Unit} {left : HookForm}
    (asked : saver d.id d.toValue { f with state := .saving } st = (answer, left, st')) :
    ∃ result, f.save saver st = (result, ended d left answer, st') ∧
      ((∃ outcome, result = .ok outcome ∧ outcome.ok = true) ↔ answer = .ok ()) ∧
      ∀ fault, result = .error fault ↔ answer = .error fault ∧ fault.console? = none := by
  -- in terms of its members the form that is saved and the one that the saver gets agree
  obtain ⟨state, draft, saved, errors⟩ := f
  obtain rfl : draft = some d := hd
  obtain rfl : errors = [] := List.isEmpty_iff.mp h
  unfold save
  dsimp only at asked ⊢
  rw [asked]
  match answer with
  | .ok () => exact ⟨_, rfl, by simp [Outcome.ok, Outcome.success], by simp⟩
  | .error (.console e) =>
      refine ⟨_, rfl, by simp [Outcome.ok, Outcome.remoteFailure], fun fault => ?_⟩
      refine iff_of_false nofun fun ⟨heq, hconsole⟩ => ?_
      obtain rfl := Except.error.inj heq
      nomatch hconsole
  | .error (.invalid r) => exact ⟨_, rfl, by simp, by simp +contextual [Fault.console?]⟩
  | .error (.mishap m) => exact ⟨_, rfl, by simp, by simp +contextual [Fault.console?]⟩

end AdminConsole.HookForm
