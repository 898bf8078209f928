import AdminConsole.Proofs.Pages.Steady

/-!
# Proofs/Pages/Views — every page of the console is steady

A page is steady if its parts are, so the modules of the pages are gone through part by part.  None
of them writes the note of the account: the keys under which pages note something are other ones.
What a page does with an editing session gives a harmless result (`gives_withMatrix`,
`gives_withMatrixRemote`, `gives_withForm`).

In the proofs, `dsimp only` writes what follows a step that may be left out into both branches.
-/

namespace AdminConsole.Pages

open Page

-- The proof that a page is steady has a rule for each of its steps.
set_option synthInstance.maxSize 16384

variable {σ : Type} {e : Surroundings σ}

/-- Texts that begin differently differ. -/
theorem append_ne_of_head {start rest s : String}
    (h : (start.toList.head?.any fun c => s.toList.head? != some c) = true) : start ++ rest ≠ s := by
  rintro rfl
  cases hstart : start.toList with
  | nil => simp [hstart] at h
  | cons c cs => simp [hstart] at h

/-! ## Entity types -/

namespace EntityTypes

instance : Fact (dropKey ≠ Session.accountKey) := ⟨by decide⟩

instance : Fact (nonceKey ≠ Session.accountKey) := ⟨by decide⟩

instance steady_createForm : Steady e createForm := by
  unfold createForm
  infer_instance

instance steady_entityList (types : List EntityType) : Steady e (entityList types) := by
  unfold entityList
  infer_instance

instance steady_openSession (entity : Value) : Steady e (openSession entity) := by
  unfold openSession
  refine Steady.bind_of fun s (_ : True) => ?_
  split <;> infer_instance

instance steady_editAndRerun (step : SchemaSession → SchemaSession) :
    Steady e (editAndRerun step) := by
  unfold editAndRerun
  infer_instance

instance steady_addAndRerun (parent : KeyPath) : Steady e (addAndRerun parent) := by
  unfold addAndRerun
  infer_instance

instance steady_commit : Steady e commit := by
  have hrules (o : Outcome) : Steady e (match o.error.bind Fault.console? with
      | some x => showValidation .null (.texts x.suggestions)
      | none => pure ()) := by
    split <;> infer_instance
  unfold commit
  dsimp only
  infer_instance

instance steady_dropQuestion (entity : String) : Steady e (dropQuestion entity) := by
  unfold dropQuestion
  infer_instance

instance steady_fieldWidgets (entity nonce : String) (path : KeyPath) (f : Field) :
    Steady e (fieldWidgets entity nonce path f) := by
  unfold fieldWidgets
  infer_instance

instance steady_fieldRow (entity : String) (path : KeyPath) (f : Field) :
    Steady e (fieldRow entity path f) := by
  have hpatch (input : FieldInput) : Steady e (match patchOf f input with
      | some p => editAndRerun (·.update path p)
      | none => pure ()) := by
    split <;> infer_instance
  unfold fieldRow
  dsimp only
  infer_instance

mutual

instance steady_fieldRows (entity : String) (path : KeyPath) :
    ∀ f : Field, Steady e (fieldRows entity path f)
  | ⟨name, type, required, none⟩ => by
      unfold fieldRows
      infer_instance
  | ⟨name, type, required, some cs⟩ => by
      have := steady_levelRows entity path cs
      unfold fieldRows
      infer_instance

instance steady_levelRows (entity : String) (path : KeyPath) :
    ∀ fs : Fields, Steady e (levelRows entity path fs)
  | [] => by
      unfold levelRows
      infer_instance
  | (key, f) :: rest => by
      have := steady_fieldRows entity (path ++ [key]) f
      have := steady_levelRows entity path rest
      unfold levelRows
      infer_instance

end

instance steady_editorButtons (s : SchemaSession) : Steady e (editorButtons s) := by
  unfold editorButtons
  dsimp only
  infer_instance

instance steady_editor (s : SchemaSession) : Steady e (editor s) := by
  unfold editor
  dsimp only
  infer_instance

instance steady_page : Steady e page := by
  unfold page
  infer_instance

end EntityTypes

/-! ## Records -/

namespace Records

instance : Fact (deleteKey ≠ Session.accountKey) := ⟨by decide⟩

instance (entity : Value) : Fact (queryKey entity ≠ Session.accountKey) :=
  ⟨append_ne_of_head (by decide)⟩

instance steady_ensureQuery (entity : Value) : Steady e (ensureQuery entity) := by
  unfold ensureQuery
  infer_instance

instance steady_delete (entity id : Value) : Steady e (delete entity id) := by
  unfold delete
  infer_instance

instance steady_deleteButtons (entity id : Value) : Steady e (deleteButtons entity id) := by
  unfold deleteButtons
  dsimp only
  infer_instance

instance steady_document (entity : Value) (index : Nat) (record : Value) :
    Steady e (document entity index record) := by
  unfold document
  infer_instance

instance steady_documents (entity : Value) :
    ∀ (index : Nat) (records : List Value), Steady e (documents entity index records)
  | _, [] => Steady.pure ()
  | index, record :: rest => by
      have := steady_documents entity (index + 1) rest
      unfold documents
      infer_instance

instance steady_results (entity query : Value) : Steady e (results entity query) := by
  unfold results
  infer_instance

instance steady_page : Steady e page := by
  unfold page
  infer_instance

end Records

/-! ## Permissions -/

namespace Access

instance : Fact (restoreKey ≠ Session.accountKey) := ⟨by decide⟩

instance : Fact (nonceKey ≠ Session.accountKey) := ⟨by decide⟩

theorem standing_openMatrix (s : Session Client) (c : Settings.Cache) :
    (s.openMatrix c).2.1.standing = s.standing := by
  unfold Session.openMatrix
  split
  · rfl
  · split
    · rfl
    · split <;> rfl

instance steady_openMatrix : Steady e openMatrix where
  standing_eq w := by
    refine Eq.trans ?_ (standing_openMatrix w.session w.settings)
    simp only [openMatrix, Page.run]
    rcases w.session.openMatrix w.settings with ⟨_ | _, _, _⟩ <;> rfl
  isRefusal_eq_false w f hf := by
    simp only [openMatrix, Page.run] at hf
    rcases hopen : w.session.openMatrix w.settings with ⟨x | m, s, c⟩
    · simp only [hopen] at hf
      cases hf
      exact (Harmless.openMatrix w.session w.settings).isRefusal_eq_false (congrArg Prod.fst hopen)
    · simp [hopen] at hf

instance steady_withMatrix {α : Type} (step : Matrix → α × Matrix) :
    Steady e (withMatrix step) := by
  unfold withMatrix
  infer_instance

instance steady_withMatrixRemote {α : Type}
    (step : Http.Wire σ → Matrix → Client × σ → α × Matrix × (Client × σ)) :
    Steady e (withMatrixRemote step) := by
  unfold withMatrixRemote
  infer_instance

instance gives_withMatrix {α : Type} {step : Matrix → Except Fault α × Matrix}
    [h : ∀ m, Harmless (step m).1] : Gives e Harmless (withMatrix step) :=
  .bind fun _ => .bind fun _ => .pure (h _)

instance gives_withMatrixRemote {α : Type}
    {step : Http.Wire σ → Matrix → Client × σ → Except Fault α × Matrix × (Client × σ)}
    [h : ∀ wire m st, Harmless (step wire m st).1] :
    Gives e Harmless (withMatrixRemote step) :=
  .bind fun _ => .bind_of fun x (hx : Harmless x.1) => .bind fun _ => .pure hx

instance steady_loadMatrix (subject : Value) : Steady e (loadMatrix subject) := by
  unfold loadMatrix
  infer_instance

instance steady_commit : Steady e commit := by
  unfold commit
  infer_instance

instance steady_restore (entities : List String) : Steady e (restore entities) := by
  unfold restore
  infer_instance

instance steady_userList (users : List User) (current : Value) :
    Steady e (userList users current) := by
  unfold userList
  infer_instance

instance steady_restoreQuestion (subject : Value) (entities : List String) :
    Steady e (restoreQuestion subject entities) := by
  unfold restoreQuestion
  infer_instance

instance steady_editorButtons (subject : Value) (visible : List String) :
    Steady e (editorButtons subject visible) := by
  unfold editorButtons
  dsimp only
  infer_instance

instance steady_permissionTable (subject : Value) (visible : List String) :
    Steady e (permissionTable subject visible) := by
  unfold permissionTable
  dsimp only
  infer_instance

instance steady_editor (subject : Value) : Steady e (editor subject) := by
  unfold editor
  infer_instance

instance steady_matrixOf (subject : Value) : Steady e (matrixOf subject) := by
  have hloaded (m : Matrix) : Steady e (match m.loadError with
      | some f => do
        display (.error ("❌ Failed to load ACLs for \"" ++ subject.plain ++ "\": " ++ f.text))
        if ← pressed ((Widget.button "🔄 Retry").keyed "acl_retry") then
          loadMatrix subject
          rerun
      | none => do
        editor (← openMatrix).subject
        displayAll overview) := by
    split <;> infer_instance
  unfold matrixOf
  dsimp only
  infer_instance

instance steady_page : Steady e page := by
  unfold page
  infer_instance

end Access

/-! ## Hooks -/

namespace Hooks

instance : Fact (deleteKey ≠ Session.accountKey) := ⟨by decide⟩

instance : Fact (nonceKey ≠ Session.accountKey) := ⟨by decide⟩

instance steady_withForm {α : Type} (step : HookForm → α × HookForm) :
    Steady e (withForm step) := by
  unfold withForm
  infer_instance

instance gives_withForm {α : Type} {step : HookForm → Except Fault α × HookForm}
    [h : ∀ f, Harmless (step f).1] : Gives e Harmless (withForm step) :=
  .bind fun _ => .bind fun _ => .pure (h _)

instance steady_select (id : Value) : Steady e (select id) := by
  unfold select
  infer_instance

instance steady_hookButtons : ∀ hooks : List StoredHook, Steady e (hookButtons hooks)
  | [] => Steady.pure ()
  | h :: rest => by
      have := steady_hookButtons rest
      unfold hookButtons
      dsimp only
      infer_instance

instance steady_hookList (groups : HookGroups.Groups) :
    ∀ events : List String, Steady e (hookList groups events)
  | [] => Steady.pure ()
  | event :: rest => by
      have := steady_hookList groups rest
      unfold hookList
      dsimp only
      refine Steady.bind_of fun _ (_ : True) => ?_
      split <;> infer_instance

instance steady_createForm (entity : Value) : Steady e (createForm entity) := by
  unfold createForm
  infer_instance

instance steady_editorWidgets (id : Value) (d : HookDraft) : Steady e (editorWidgets id d) := by
  unfold editorWidgets
  infer_instance

instance steady_showProblems : Steady e showProblems := by
  unfold showProblems
  dsimp only
  infer_instance

instance steady_save : Steady e save := by
  unfold save
  dsimp only
  infer_instance

instance steady_deleteQuestion (id : Value) (title : String) :
    Steady e (deleteQuestion id title) := by
  unfold deleteQuestion
  infer_instance

instance steady_draftEditor (id : Value) (d : HookDraft) : Steady e (draftEditor id d) := by
  unfold draftEditor
  dsimp only
  infer_instance

instance steady_editor (id : Value) : Steady e (editor id) := by
  have hdraft (draft : Option HookDraft) : Steady e (match draft with
      | none => pure ()
      | some d => draftEditor id d) := by
    cases draft <;> infer_instance
  unfold editor
  dsimp only
  infer_instance

instance steady_page : Steady e page := by
  unfold page
  infer_instance

end Hooks

/-! ## User accounts -/

namespace Users

instance : Fact (deleteKey ≠ Session.accountKey) := ⟨by decide⟩

instance (user : String) : Fact (roleKey user ≠ Session.accountKey) :=
  ⟨append_ne_of_head (by decide)⟩

instance steady_createForm : Steady e createForm := by
  unfold createForm
  infer_instance

instance steady_changeRole (user : String) (f : OptimisticField) (role : Value) :
    Steady e (changeRole user f role) := by
  unfold changeRole
  dsimp only
  infer_instance

instance steady_changePassword (user : String) (password : Value) :
    Steady e (changePassword user password) := by
  unfold changePassword
  infer_instance

instance steady_deleteQuestion (user : String) : Steady e (deleteQuestion user) := by
  unfold deleteQuestion
  infer_instance

instance steady_roleField (u : User) : Steady e (roleField u) where
  standing_eq _ := rfl
  isRefusal_eq_false _ _ := nofun

instance steady_userRow (u : User) : Steady e (userRow u) := by
  unfold userRow
  dsimp only
  infer_instance

instance steady_userRows : ∀ users : List User, Steady e (userRows users)
  | [] => Steady.pure ()
  | u :: rest => by
      have := steady_userRows rest
      unfold userRows
      infer_instance

instance steady_page : Steady e page := by
  unfold page
  infer_instance

end Users

end AdminConsole.Pages
