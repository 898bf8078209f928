import AdminConsole.Pages.Hooks
import AdminConsole.Proofs.Hook.Gate
import AdminConsole.Proofs.Hook.Offered
import AdminConsole.Proofs.Ui.AtRest

/-!
# Proofs/Pages/HookEditor — looking at a hook

The editor of a hook shows the members of the draft in widgets and puts what the widgets answer back
into the draft.  A widget answers with no more than it offers, even if nobody touches it.  So each
look at a hook makes the draft the one that is `offered` for it, and finds its errors
(`leads_draftEditor`).

Hence looking at a stored hook keeps its draft exactly if the editor offers what is stored:
`looking_keeps_draft_iff`.
-/

namespace AdminConsole.Pages.Hooks

open Page HookDraft

variable {σ : Type} {e : Surroundings σ} {s s' : Session Client} {id : Value} {d : HookDraft}
  {f : HookForm}

/-! ## The editor at rest -/

/-- The key of a widget of the editor. -/
def widgetKey (s : Session Client) (id : Value) (part : String) : String :=
  editorKey id ((s.note? nonceKey).getD (.int 0)) part

/-- **Nobody touched the editor of a draft**: no button is pressed, and each widget answers what it
shows. -/
structure AtRest (e : Surroundings σ) (s : Session Client) (id : Value) (d : HookDraft) :
    Prop where
  enabled : Echoes e (widgetKey s id "enabled") d.enabled
  bypassAcl : Echoes e (widgetKey s id "bypass_acl") d.bypassAcl
  language : Echoes e (widgetKey s id "language") d.offered.language
  event : Echoes e (widgetKey s id "event") d.offered.event
  priority : Echoes e (widgetKey s id "priority") d.offered.priority
  name : EchoesText e s (widgetKey s id "name") d.name
  script : EchoesText e s (widgetKey s id "script") d.script
  save : Unpressed e (widgetKey s id "save")
  delete : Unpressed e (widgetKey s id "delete")
  confirm : Unpressed e "hook_delete_confirm"
  cancel : Unpressed e "hook_delete_cancel"

/-- Who touches nothing at all leaves the editor at rest. -/
theorem atRest_of_untouched (h : e.touched = []) (hs : s.notes = []) (id : Value) (d : HookDraft) :
    AtRest e s id d :=
  have note (part : String) : s.note? (widgetKey s id part) = none := by
    rw [Session.note?, hs, Entries.get?_nil]
  { enabled := echoes_of_untouched h
    bypassAcl := echoes_of_untouched h
    language := echoes_of_untouched h
    event := echoes_of_untouched h
    priority := echoes_of_untouched h
    name := echoesText_of_untouched h (note "name")
    script := echoesText_of_untouched h (note "script")
    save := unpressed_of_untouched h
    delete := unpressed_of_untouched h
    confirm := unpressed_of_untouched h
    cancel := unpressed_of_untouched h }

/-- **One more look at a hook**: its editor is shown, and nobody touches it. -/
def Looked (id : Value) (s s' : Session Client) : Prop :=
  ∃ (σ : Type) (e : Surroundings σ) (w : World σ) (d : HookDraft), w.session = s ∧
    s.form.draft = some d ∧ AtRest e s id d ∧ s' = ((editor id).run e w).2.session

/-- The list of events shows the offered one. -/
theorem getD_placeOf_event (event : String) : (StoredHook.events.map Value.text).getD
    (placeOf (.text event) (StoredHook.events.map Value.text)) .null =
      offeredEvent (.text event) := by
  by_cases h : .text event ∈ StoredHook.events.map Value.text
  · rw [getD_placeOf h, offeredEvent, if_pos h]
  · rw [placeOf_of_not_mem h, offeredEvent, if_neg h]
    rfl

theorem leads_editorWidgets (typed : Typed d) (h : AtRest e s id d) :
    Leads e s s (editorWidgets id d) (.ok (.map (HookForm.keyed d.shown))) := by
  obtain ⟨event, hevent⟩ : ∃ s, d.event = .text s := typed.member .event
  obtain ⟨priority, hpriority⟩ : ∃ n, d.priority = .int n := typed.member .priority
  have hplaced : (StoredHook.events.map Value.text).getD
      (placeOf d.event (StoredHook.events.map Value.text)) .null = d.offered.event := by
    rw [hevent, getD_placeOf_event, ← hevent]
    rfl
  have hshown : shownPriority d.priority =
      .ok (min (max priority StoredHook.minPriority) StoredHook.maxPriority) := by
    rw [hpriority]
    rfl
  have hoffered : d.offered.priority =
      .int (min (max priority StoredHook.minPriority) StoredHook.maxPriority) :=
    congrArg offeredPriority hpriority
  unfold editorWidgets
  dsimp only
  refine (Leads.nonce _).bind <| (Leads.display _).bind <| (Leads.chosen h.enabled).bind <|
    (Leads.chosen h.bypassAcl).bind <| (Leads.selected rfl h.language).bind <|
    (Leads.selected hplaced h.event).bind <| (Leads.ofResult hshown).bind <|
    (Leads.chosen (hoffered ▸ h.priority)).bind <| (Leads.typed rfl h.name).bind <|
    (Leads.typed rfl h.script).bind ?_
  rw [← hoffered]
  exact Leads.pure _

theorem leads_withForm {α : Type} (step : HookForm → α × HookForm) :
    Leads e s (s.setForm (step s.form).2) (withForm step) (.ok (step s.form).1) :=
  Leads.session.bind ((Leads.modifySession _).bind (Leads.pure _))

theorem leads_showProblems (hd : s.form.draft = some d) (typed : Typed d) :
    Leads e s s showProblems (.ok ()) := by
  obtain ⟨event, hevent⟩ : ∃ s, d.event = .text s := typed.member .event
  obtain ⟨script, hscript⟩ : ∃ s, d.script = .text s := typed.member .script
  have hchecked : s.form.scriptError = .ok (HookScript.problem? event script) := by
    rw [HookForm.scriptError, hd]
    dsimp only
    rw [hevent, hscript, HookScript.check_text]
  unfold showProblems
  dsimp only
  refine Leads.session.bind ((Leads.ofResult hchecked).bind ?_)
  split
  · split
    · exact (Leads.display _).bind (Leads.showRules _ _ _)
    · exact Leads.showRules _ _ _
  · exact Leads.showRules _ _ _

theorem leads_deleteQuestion (hconfirm : Unpressed e "hook_delete_confirm")
    (hcancel : Unpressed e "hook_delete_cancel") (title : String) :
    Leads e s s (deleteQuestion id title) (.ok ()) := by
  unfold deleteQuestion
  refine (Leads.note deleteKey).bind ?_
  split
  · exact (Leads.display _).bind ((Leads.confirmed? hconfirm hcancel).bind (Leads.pure ()))
  · exact Leads.pure ()

/-- **A look at a draft makes it the offered one**, with the errors of that. -/
theorem leads_draftEditor (hd : s.form.draft = some d) (typed : Typed d)
    (checked : d.problems = .ok s.form.errors) (h : AtRest e s id d) : ∃ errors,
    d.offered.problems = .ok errors ∧
      Leads e s (s.setForm { s.form with draft := some d.offered, errors := errors })
        (draftEditor id d) (.ok ()) := by
  obtain ⟨errors, hproblems, hset⟩ :=
    HookForm.setMembers_of_settled typed.accepts_shown hd checked typed.settled
  rw [typed.assignAll_shown] at hproblems hset
  refine ⟨errors, hproblems, ?_⟩
  have updated : Leads e s (s.setForm { s.form with draft := some d.offered, errors := errors })
      (withForm (·.update (.map (HookForm.keyed d.shown)))) (.ok (.ok errors)) := by
    have leads := leads_withForm (e := e) (s := s) (·.update (.map (HookForm.keyed d.shown)))
    rwa [HookForm.update, hset] at leads
  unfold draftEditor
  dsimp only
  refine Leads.session.bind <| (Leads.display _).bind <| (leads_editorWidgets typed h).bind <|
    updated.bind <| (Leads.ofResult rfl).bind <| (leads_showProblems rfl typed.offered).bind <|
    (Leads.display _).bind <| (Leads.nonce _).bind <| Leads.session.bind <|
    Leads.unpressed h.save <| Leads.unpressed h.delete ?_
  exact leads_deleteQuestion h.confirm h.cancel _

theorem AtRest.setForm (h : AtRest e s id d) (f : HookForm) : AtRest e (s.setForm f) id d where
  enabled := h.enabled
  bypassAcl := h.bypassAcl
  language := h.language
  event := h.event
  priority := h.priority
  name := h.name
  script := h.script
  save := h.save
  delete := h.delete
  confirm := h.confirm
  cancel := h.cancel

/-- **A look at a hook** does not load it again: it is a look at its draft. -/
theorem leads_editor (hd : s.form.draft = some d) (hid : d.id.same id = true) (typed : Typed d)
    (checked : d.problems = .ok s.form.errors) (h : AtRest e s id d) : ∃ errors,
    d.offered.problems = .ok errors ∧
      Leads e s (s.setForm { s.form with draft := some d.offered, errors := errors })
        (editor id) (.ok ()) := by
  obtain ⟨errors, hproblems, leads⟩ :=
    leads_draftEditor (s := s.setForm s.form) hd typed checked (h.setForm s.form)
  refine ⟨errors, hproblems, ?_⟩
  have hloaded : ¬ (!(s.form.draft.any fun d => d.id.same id)) = true := by
    rw [hd, Option.any_some, hid]
    exact Bool.false_ne_true
  have hheld : (s.setForm s.form).form.draft = some d := hd
  unfold editor
  dsimp only
  refine Leads.session.bind ((leads_withForm _).bind ?_)
  rw [if_neg hloaded]
  refine Leads.session.bind ?_
  dsimp only
  rw [hheld]
  exact leads

/-! ## Looking again and again -/

theorem ofText?_same_self (s : Option String) : (Value.ofText? s).same (.ofText? s) = true := by
  cases s <;> simp [Value.ofText?, Value.same, Scalar.same, Scalar.integer?]

/-- One look takes a draft to the offered one, and leaves the saved copy alone. -/
theorem form_of_look {saved : HookDraft} {errors : List String}
    (hform : s.form = ⟨.editing, some d, some saved, errors⟩) (hid : d.id.same id = true)
    (typed : Typed d) (checked : d.problems = .ok errors) (look : Looked id s s') :
    ∃ errors', d.offered.problems = .ok errors' ∧
      s'.form = ⟨.editing, some d.offered, some saved, errors'⟩ := by
  obtain ⟨_, e, w, d', rfl, hd, rests, rfl⟩ := look
  rw [hform] at hd
  obtain rfl := Option.some.inj hd
  obtain ⟨errors', hproblems, leads⟩ := leads_editor (by rw [hform]) hid typed
    (by rw [hform, checked]) rests
  refine ⟨errors', hproblems, ?_⟩
  rw [(leads.session_eq rfl).2, hform]
  rfl

/-- **The form of a hook that was looked at** holds the offered draft, next to the stored one. -/
theorem form_of_looks {h : StoredHook} (loaded : s.form = (f.load h.toValue).2)
    (looks : Relation.TransGen (Looked (.ofText? h.id)) s s') : ∃ errors,
    (ofStored h).offered.problems = .ok errors ∧
      s'.form = ⟨.editing, some (ofStored h).offered, some (ofStored h), errors⟩ := by
  have typed := typed_ofStored h
  have hid : (ofStored h).id.same (.ofText? h.id) = true := ofText?_same_self h.id
  induction looks with
  | single look =>
    obtain ⟨errors, hproblems, hload⟩ := f.load_toValue h
    rw [hload] at loaded
    exact form_of_look loaded hid typed hproblems look
  | tail _ look ih =>
    obtain ⟨errors, hproblems, hform⟩ := ih
    have next := form_of_look hform hid typed.offered hproblems look
    rwa [typed.offered_offered] at next

theorem checked_of_form {saved : HookDraft} {errors : List String}
    (hform : s.form = ⟨.editing, some d, some saved, errors⟩) (typed : Typed d)
    (typedSaved : Typed saved) (checked : d.problems = .ok errors) : HookForm.Checked s.form := by
  rw [hform]
  refine ⟨nofun, fun d' hd => ?_, fun d' hd => ?_⟩
  · obtain rfl := Option.some.inj hd
    exact ⟨typed, checked⟩
  · obtain rfl := Option.some.inj hd
    exact typedSaved

/-- **Looking at a hook keeps its draft exactly if the editor offers what is stored.**  Take a
stored hook that was loaded into the form of a session, and an editor that nobody touches.

* However often the editor is shown, the draft is that of the stored hook, it has no unsaved
  changes, and it breaks the rules that the stored hook breaks, if and only if event, language and
  priority of the stored hook are on offer; an event or a language may also be missing.
* Every look goes on to its end, and makes the draft the offered one: an event that is not on offer
  becomes the first that is, the language becomes the only one, and a priority out of bounds the
  nearest within.  The errors are those of that draft, and it has unsaved changes exactly if it is
  another one. -/
theorem looking_keeps_draft_iff {h : StoredHook} {f : HookForm} {w : World σ}
    (loaded : w.session.form = (f.load h.toValue).2)
    (rests : AtRest e w.session (.ofText? h.id) (ofStored h)) :
    ((∀ s, Relation.ReflTransGen (Looked (.ofText? h.id)) w.session s →
        s.form.draft = some (ofStored h) ∧ s.form.hasUnsavedChanges = false ∧
        (s.form.isValid = true ↔ Saveable (ofStored h)) ∧
        (ofStored h).problems = .ok s.form.errors) ↔ h.Offered) ∧
    ((editor (.ofText? h.id)).run e w).1 = .ok () ∧
    ∀ s, Relation.TransGen (Looked (.ofText? h.id)) w.session s →
      s.form.draft = some (ofStored h).offered ∧ s.form.saved = some (ofStored h) ∧
      (ofStored h).offered.problems = .ok s.form.errors ∧
      (s.form.hasUnsavedChanges = true ↔ ¬ h.Offered) := by
  have typed := typed_ofStored h
  obtain ⟨errors, hproblems, hload⟩ := f.load_toValue h
  have hform : w.session.form = ⟨.editing, some (ofStored h), some (ofStored h), errors⟩ := by
    rw [loaded, hload]
  obtain ⟨_, -, leads⟩ := leads_editor (by rw [hform]) (ofText?_same_self h.id) typed
    (by rw [hform, hproblems]) rests
  have look : Looked (.ofText? h.id) w.session _ :=
    ⟨σ, e, w, ofStored h, rfl, by rw [hform], rests, rfl⟩
  refine ⟨⟨fun unedited => ?_, fun hoffered s looks => ?_⟩, (leads.session_eq rfl).1,
    fun s looks => ?_⟩
  · obtain ⟨errors', -, hlooked⟩ := form_of_looks loaded (.single look)
    obtain ⟨hd, -⟩ := unedited _ (.single look)
    rw [hlooked] at hd
    exact (offered_ofStored_iff h).mp (Option.some.inj hd)
  · -- after no look or more, the form holds the stored draft next to itself
    obtain ⟨errors', hproblems', hheld⟩ : ∃ errors, (ofStored h).problems = .ok errors ∧
        s.form = ⟨.editing, some (ofStored h), some (ofStored h), errors⟩ := by
      obtain rfl | looks := Relation.reflTransGen_iff_eq_or_transGen.mp looks
      · exact ⟨errors, hproblems, hform⟩
      · have held := form_of_looks loaded looks
        rwa [(offered_ofStored_iff h).mpr hoffered] at held
    have checked := checked_of_form hheld typed typed hproblems'
    have hd : s.form.draft = some (ofStored h) := by rw [hheld]
    have hs : s.form.saved = some (ofStored h) := by rw [hheld]
    refine ⟨hd, ?_, ?_, (checked.draft _ hd).2⟩
    · rw [← Bool.not_eq_true, checked.hasUnsavedChanges_iff, hd, hs]
      simp
    · rw [checked.isValid_iff, hd]
      simp
  · obtain ⟨errors', hproblems', hheld⟩ := form_of_looks loaded looks
    have checked := checked_of_form hheld typed.offered typed hproblems'
    have hd : s.form.draft = some (ofStored h).offered := by rw [hheld]
    have hs : s.form.saved = some (ofStored h) := by rw [hheld]
    refine ⟨hd, hs, (checked.draft _ hd).2, ?_⟩
    rw [checked.hasUnsavedChanges_iff, hd, hs, ← offered_ofStored_iff]
    simp [eq_comm]

/-- A world in which a hook was selected. -/
def editing (h : StoredHook) : World Unit where
  settings := { file := .missing }
  session := { hookForm := .held (({} : HookForm).load h.toValue).2 }
  server := ()

/-- A hook with a priority that the editor offers. -/
def mildStamp : StoredHook := { HookForm.stampHook with priority := 7 }

/-- The hook with priority 7 stays as it is; the one with 250 has 100 after any number of looks. -/
theorem looking_keeps_draft_stamp :
    (∀ s, Relation.ReflTransGen (Looked (.text "h1")) (editing mildStamp).session s →
      s.form.draft = some (ofStored mildStamp) ∧ s.form.hasUnsavedChanges = false) ∧
    ∀ s, Relation.TransGen (Looked (.text "h1")) (editing HookForm.stampHook).session s →
      s.form.draft = some ((ofStored HookForm.stampHook).set .priority (.int 100)) ∧
      s.form.hasUnsavedChanges = true := by
  have mild : mildStamp.Offered := ⟨by decide, by decide, by decide⟩
  have strong : ¬ HookForm.stampHook.Offered := fun h => absurd h.priority (by decide)
  obtain ⟨hkept, -, -⟩ := looking_keeps_draft_iff (e := nobody) (w := editing mildStamp)
    (h := mildStamp) rfl (atRest_of_untouched rfl rfl _ _)
  obtain ⟨-, -, hlooked⟩ := looking_keeps_draft_iff (e := nobody)
    (w := editing HookForm.stampHook) (h := HookForm.stampHook) rfl
    (atRest_of_untouched rfl rfl _ _)
  refine ⟨fun s looks => ?_, fun s looks => ?_⟩
  · obtain ⟨hd, clean, -, -⟩ := hkept.mpr mild s looks
    exact ⟨hd, clean⟩
  · obtain ⟨hd, -, -, hunsaved⟩ := hlooked s looks
    exact ⟨hd, hunsaved.mpr strong⟩

/-- **A look at a hook edits it**: the stored hook may not be saved with its priority, and after the
look there is a draft with another one that may be. -/
theorem priority_lost_by_a_look :
    (editing HookForm.stampHook).session.form.draft = some (ofStored HookForm.stampHook) ∧
    (editing HookForm.stampHook).session.form.isValid = false ∧
    ∃ s, Looked (.text "h1") (editing HookForm.stampHook).session s ∧
      s.form.draft ≠ some (ofStored HookForm.stampHook) ∧ s.form.hasUnsavedChanges = true ∧
      s.form.isValid = true := by
  have rests : AtRest nobody (editing HookForm.stampHook).session (.text "h1")
      (ofStored HookForm.stampHook) := atRest_of_untouched rfl rfl _ _
  have look : Looked (.text "h1") (editing HookForm.stampHook).session _ :=
    ⟨Unit, nobody, editing HookForm.stampHook, _, rfl, rfl, rests, rfl⟩
  obtain ⟨errors, hproblems, hform⟩ := form_of_looks (f := {}) (h := HookForm.stampHook) rfl
    (.single look)
  have hsaveable : (ofStored HookForm.stampHook).offered.problems = .ok [] := by decide
  obtain rfl := Except.ok.inj (hsaveable.symm.trans hproblems)
  refine ⟨rfl, by decide, _, look, ?_, ?_, ?_⟩
  · rw [hform]
    decide
  · rw [hform]
    decide
  · rw [hform]
    rfl

end AdminConsole.Pages.Hooks
