import AdminConsole.Pages.Frame
import AdminConsole.Proofs.Api.Closed

/-!
# Proofs/Pages/Harmless — results that cannot end a run with a refusal

Only a refusal that nobody has shown leads back to the login form.  A result is `Harmless` if its
fault is no refusal.  Whatever the pages compute from values, settings and drafts is, since its
faults are mishaps; and so is what they do with the server, since the editing sessions turn every
console error into an outcome.
-/

namespace AdminConsole

/-- Whether a fault is the answer of a server that did not do what it was asked. -/
def Fault.isRefusal : Fault → Bool
  | .console (.api ..) => true
  | _ => false

/-- A fault that is no console error is no refusal. -/
theorem Fault.isRefusal_of_ne {f : Fault} (h : ∀ e, f = .console e → False) :
    f.isRefusal = false := by
  cases f with
  | console e => exact (h e rfl).elim
  | _ => rfl

/-- A result whose fault, if it is one, is no refusal. -/
class Harmless {α : Type} (result : Except Fault α) : Prop where
  faultsPass : FaultsPass (fun f => !f.isRefusal) result

namespace Harmless

variable {α β : Type} {result : Except Fault α}

/-- A harmless result as a value of its own. -/
abbrev Result (α : Type) : Type := {result : Except Fault α // Harmless result}

instance (result : Result α) : Harmless result.1 := result.2

theorem isRefusal_eq_false [h : Harmless result] {f : Fault} (hf : result = .error f) :
    f.isRefusal = false := by
  simpa using h.faultsPass f hf

/-! ## Values, faults, and results put together -/

instance ok (a : α) : Harmless (.ok a) := ⟨faultsPass_ok a⟩

theorem error {f : Fault} (h : f.isRefusal = false) : Harmless (.error f : Except Fault α) :=
  ⟨faultsPass_error_iff.mpr (by rw [h]; rfl)⟩

theorem of_error [Harmless result] {f : Fault} (hf : result = .error f) :
    Harmless (.error f : Except Fault β) :=
  error (isRefusal_eq_false hf)

theorem error_of_ne {f : Fault} (h : ∀ e, f = .console e → False) :
    Harmless (.error f : Except Fault α) :=
  error (Fault.isRefusal_of_ne h)

instance mishap (m : Mishap) : Harmless (.error (.mishap m) : Except Fault α) := error rfl

instance general (message : String) (context : Value) (suggestions : List String) :
    Harmless (.error (.console (.general message context suggestions)) : Except Fault α) :=
  error rfl

instance noAttribute (v : Value) (name : String) :
    Harmless (.error (.noAttribute v name) : Except Fault α) := mishap _

instance notIterable (v : Value) : Harmless (.error (.notIterable v) : Except Fault α) := mishap _

instance unhashable (v : Value) : Harmless (.error (.unhashable v) : Except Fault α) := mishap _

instance map [h : Harmless result] (f : α → β) : Harmless (result.map f) :=
  ⟨faultsPass_map_iff.mpr h.faultsPass⟩

instance bind {f : α → Except Fault β} [h : Harmless result] [hf : ∀ a, Harmless (f a)] :
    Harmless (result >>= f) :=
  ⟨faultsPass_bind_iff.mpr ⟨h.faultsPass, fun a _ => (hf a).faultsPass⟩⟩

instance pure (a : α) : Harmless (Pure.pure a) := ok a

instance ite {c : Prop} [Decidable c] {other : Except Fault α} [h : Harmless result]
    [hother : Harmless other] : Harmless (if c then result else other) := by
  split
  · exact h
  · exact hother

theorem mapM {f : α → Except Fault β} (h : ∀ a, Harmless (f a)) (as : List α) :
    Harmless (as.mapM f) :=
  ⟨faultsPass_mapM fun a _ => (h a).faultsPass⟩

theorem of_isMishap (h : FaultsPass Fault.isMishap result) : Harmless result :=
  ⟨fun f hf => by
    cases f with
    | mishap m => rfl
    | _ => cases h _ hf⟩

/-! ## Values -/

instance typedText (v : Value) : Harmless v.typedText := by
  unfold Value.typedText
  split <;> infer_instance

instance toKey (v : Value) : Harmless v.toKey := by
  cases v <;> unfold Value.toKey <;> infer_instance

instance walked (v : Value) : Harmless v.walked := by
  unfold Value.walked
  split <;> infer_instance

instance putPairs : ∀ (index : Nat) (es : List (Scalar × Value)) (items : List Value),
    Harmless (Value.putPairs index es items)
  | _, es, [] => ok es
  | index, es, item :: rest => by
      have ih := fun es => putPairs (index + 1) es rest
      unfold Value.putPairs
      split <;> infer_instance

instance toMapping (v : Value) : Harmless v.toMapping := by
  unfold Value.toMapping
  split
  · infer_instance
  · split <;> infer_instance

instance sorted (ks : List Scalar) : Harmless (Scalar.sorted ks) := by
  unfold Scalar.sorted
  split
  · infer_instance
  · split <;> infer_instance

instance nextNonce (v : Value) : Harmless (nextNonce v) := by
  unfold AdminConsole.nextNonce notCountable
  split <;> infer_instance

instance userName (account : Value) : Harmless (Pages.userName account) := by
  unfold Pages.userName
  split <;> infer_instance

instance shownPriority (v : Value) : Harmless (Pages.Hooks.shownPriority v) := by
  unfold Pages.Hooks.shownPriority
  split <;> infer_instance

/-! ## Records and queries -/

instance idOf (record : Value) : Harmless (Pages.Records.idOf record) := by
  unfold Pages.Records.idOf
  split <;> infer_instance

instance readQuery (noted : Value) : Harmless (Pages.Records.readQuery noted) := by
  unfold Pages.Records.readQuery
  split
  · unfold Query.read
    split <;> infer_instance
  · infer_instance

instance rowCells (record : Value) : Harmless (Records.rowCells record) := by
  unfold Records.rowCells
  infer_instance

instance table (records : List Value) : Harmless (Records.table records) :=
  have := mapM rowCells records
  bind

instance editable (v : Value) : Harmless (Json.editable v) :=
  have := of_isMishap (Json.faultsPass_checkValue false v)
  bind

/-! ## Settings -/

section Settings

open Settings

instance judge {β : Type} (test : β → Bool) (read : Except Mishap β) :
    Harmless (judge test read) := by
  unfold Settings.judge
  split <;> infer_instance

instance passes {β : Type} (part : List (Scalar × Value)) (key : String)
    (read : Value → Except Mishap β) (test : β → Bool) : Harmless (passes part key read test) := by
  unfold Settings.passes
  split <;> infer_instance

instance passesAll_nil : Harmless (passesAll []) := ok true

instance passesAll_cons {passed : Except Fault Bool} {rest : List (Except Fault Bool)}
    [h : Harmless passed] [hrest : Harmless (passesAll rest)] :
    Harmless (passesAll (passed :: rest)) := by
  cases passed with
  | ok b => cases b <;> unfold passesAll <;> infer_instance
  | error f => exact h

instance isUsable (settings : Value) : Harmless (isUsable settings) := by
  unfold Settings.isUsable
  split
  · unfold checkSections
    infer_instance
  · infer_instance

instance merge (lower upper : Value) : Harmless (merge lower upper) := by
  unfold Settings.merge
  split
  · split <;> infer_instance
  · infer_instance

instance ofFile (file : File) : Harmless (ofFile file) := by
  unfold Settings.ofFile
  split
  · infer_instance
  · infer_instance
  · split
    · infer_instance
    · unfold ofDocument
      split <;> infer_instance

instance get (c : Cache) : Harmless c.get.1 := by
  unfold Cache.get
  split
  · infer_instance
  · split
    · next h => exact of_error h
    · split
      · next h => exact of_error h
      · infer_instance
      · infer_instance

instance member (v : Value) (key : String) (default : Value) :
    Harmless (member v key default) := by
  unfold Settings.member
  split <;> infer_instance

instance value (c : Cache) (name key : String) (default : Value) :
    Harmless (c.value name key default).1 := by
  unfold Cache.value
  split
  · unfold Settings.value
    infer_instance
  · next h => exact of_error (congrArg Prod.fst h)

instance spinnerDelay (c : Cache) : Harmless c.spinnerDelay.1 := by
  unfold Cache.spinnerDelay
  split
  · unfold Cache.delayOf
    split <;> infer_instance
  · next h => exact of_error (congrArg Prod.fst h)

end Settings

/-! ## The connection -/

instance ofAddress (address : String) : Harmless (Client.ofAddress address) := by
  unfold Client.ofAddress
  simp only
  split <;> infer_instance

instance setAccount (s : Session Client) (account : Value) : Harmless (s.setAccount account) := by
  unfold Session.setAccount
  infer_instance

/-! ## Schemas -/

instance childNames (v : Option Value) : Harmless (SchemaChanges.childNames v) := by
  unfold SchemaChanges.childNames
  simp only
  split <;> infer_instance

instance entryLines (verb link : String) (path : List Value) (v : Option Value) :
    Harmless (SchemaChanges.entryLines verb link path v) := by
  unfold SchemaChanges.entryLines
  simp only
  split <;> infer_instance

instance collect {β : Type} {step : β → Except Fault (List String)} [∀ b, Harmless (step b)] :
    ∀ bs, Harmless (SchemaChanges.collect step bs)
  | [] => ok []
  | b :: rest => by
      have : Harmless (SchemaChanges.collect step rest) := collect rest
      unfold SchemaChanges.collect
      infer_instance

instance changes (s : SchemaSession) : Harmless s.changes := by
  unfold SchemaSession.changes SchemaChanges.lines
  simp only
  infer_instance

instance commit {σ : Type} (remote : SchemaSession.Remote σ) (s : SchemaSession) (st : σ) :
    Harmless (s.commit remote st).1 := by
  unfold SchemaSession.commit
  simp only
  split
  · infer_instance
  · next h _ => exact error_of_ne h
  · split
    · infer_instance
    · next h _ => exact error_of_ne h
    · infer_instance

/-! ## Permissions -/

section Permissions

variable {σ : Type}

instance create (maxParallel : Value) : Harmless (Matrix.create maxParallel) := by
  unfold Matrix.create
  split <;> infer_instance

instance openMatrix (s : Session Client) (c : Settings.Cache) : Harmless (s.openMatrix c).1 := by
  unfold Session.openMatrix
  split
  · infer_instance
  · split
    · next h => exact of_error (congrArg Prod.fst h)
    · split
      · next h => exact of_error h
      · infer_instance

theorem recordWrites : ∀ (answers : List (String × Flags × Except Fault Unit))
    (batch : BatchOutcome) (m : Matrix), Harmless (Matrix.recordWrites answers batch m).1
  | [], _, _ => ok _
  | (entity, flags, answer) :: rest, batch, m => by
      unfold Matrix.recordWrites
      split
      · exact recordWrites rest _ _
      · exact recordWrites rest _ _
      · next h => exact error_of_ne h

instance commitPending (writer : Matrix.Writer σ) (m : Matrix) (st : σ) :
    Harmless (m.commitPending writer st).1 := recordWrites _ _ _

theorem resetAll (resetter : Matrix.Resetter σ) (subject : Value) : ∀ (entities : List String)
    (batch : BatchOutcome) (m : Matrix) (st : σ),
    Harmless (Matrix.resetAll resetter subject entities batch m st).1
  | [], _, _, _ => ok _
  | entity :: rest, batch, m, st => by
      unfold Matrix.resetAll
      split
      · exact resetAll resetter subject rest _ _ _
      · exact resetAll resetter subject rest _ _ _
      · next h _ => exact error_of_ne h

instance restoreDefaults (resetter : Matrix.Resetter σ) (loader : Matrix.Loader σ)
    (entities : List String) (m : Matrix) (st : σ) :
    Harmless (m.restoreDefaults resetter loader entities st).1 := by
  unfold Matrix.restoreDefaults
  simp only
  split
  · next h =>
      have := resetAll resetter m.writtenSubject entities
        { action := "default ACL restore", subject := m.writtenSubject } m st
      exact of_error (congrArg Prod.fst h)
  · split
    · infer_instance
    · split <;> infer_instance

/-- An edit of a cell that cannot be edited is no request. -/
theorem setPermission (m : Matrix) (entity permission : String) (enabled : Bool) :
    Harmless (m.setPermission entity permission enabled) := by
  have refuse (reason : String) :
      Harmless (.error (m.refuse entity reason) : Except Fault (Matrix × Flags)) := error rfl
  have : Harmless (m.toggle entity permission) := by
    unfold Matrix.toggle
    split_ifs
    · infer_instance
    · infer_instance
    · split <;> infer_instance
  unfold Matrix.setPermission
  split_ifs
  · infer_instance
  · split <;> infer_instance

theorem applyCells (entity : String) (shown : Flags) : ∀ (cells : List (String × Bool)) (n : Nat)
    (m : Matrix), Harmless (Matrix.applyCells entity shown cells n m).1
  | [], _, _ => ok _
  | (permission, value) :: rest, n, m => by
      have := setPermission m entity permission value
      unfold Matrix.applyCells
      split_ifs
      · exact applyCells entity shown rest n m
      · split
        · exact applyCells entity shown rest _ _
        · next h => exact of_error h

theorem applyRows : ∀ (rows : List Matrix.EditedRow) (n : Nat) (m : Matrix),
    Harmless (Matrix.applyRows rows n m).1
  | [], _, _ => ok _
  | (entity, values) :: rest, n, m => by
      unfold Matrix.applyRows
      split
      · exact applyRows rest n m
      · next shown _ =>
          have := applyCells entity shown (Flags.vocabulary.zip values) n m
          split
          · exact applyRows rest _ _
          · next h => exact of_error (congrArg Prod.fst h)

instance applyEdits (m : Matrix) (rows : List Matrix.EditedRow) :
    Harmless (m.applyEdits rows).1 := applyRows rows 0 m

instance pendingTable (m : Matrix) : Harmless m.pendingTable := by
  have ofFlags (entity : String) (baseline pending : Flags) :
      Harmless (PendingChange.ofFlags entity baseline pending) := bind
  have := mapM fun entity => ofFlags entity ((Entries.get? entity m.baseline).getD [])
      ((Entries.get? entity m.pending).getD [])
  unfold Matrix.pendingTable PendingChange.all
  infer_instance

end Permissions

/-! ## Hooks and roles -/

section Hooks

variable {σ : Type}

instance check (event script : Value) : Harmless (HookScript.check event script) := by
  unfold HookScript.check
  split_ifs
  · infer_instance
  · split
    · split
      · infer_instance
      · infer_instance
    · infer_instance
    · infer_instance

instance scriptError (f : HookForm) : Harmless f.scriptError := by
  unfold HookForm.scriptError
  split <;> infer_instance

instance problems (d : HookDraft) : Harmless d.problems := by
  have (message : Option String) : Harmless (match message with
      | some message =>
        if !message.isEmpty && d.hasKnownEvent then
          (Pure.pure (d.recordProblems ++ [message]) : Except Fault _)
        else Pure.pure d.recordProblems
      | none => Pure.pure d.recordProblems) := by
    cases message <;> infer_instance
  exact bind

instance revalidate (f : HookForm) (d : HookDraft) : Harmless (f.revalidate d).1 := by
  unfold HookForm.revalidate
  split
  · infer_instance
  · next h => exact of_error h

instance load (f : HookForm) (record : Value) : Harmless (f.load record).1 := by
  have : Harmless (HookDraft.ofRecord record) := bind
  unfold HookForm.load
  split
  · next h => exact of_error h
  · simp only
    infer_instance

instance setMember (f : HookForm) (key v : Value) : Harmless (f.setMember key v).1 := by
  unfold HookForm.setMember HookForm.nothingLoaded HookForm.notEditable
  split
  · infer_instance
  · split
    · infer_instance
    · split_ifs <;> infer_instance

theorem setMembers : ∀ (es : List (Scalar × Value)) (f : HookForm),
    Harmless (HookForm.setMembers es f).1
  | [], _ => ok _
  | (key, v) :: rest, f => by
      unfold HookForm.setMembers
      split
      · exact setMembers rest _
      · next h => exact of_error (congrArg Prod.fst h)

instance update (f : HookForm) (values : Value) : Harmless (f.update values).1 := by
  unfold HookForm.update
  split
  · exact setMembers _ f
  · infer_instance

instance save (saver : HookForm.Saver σ) (f : HookForm) (st : σ) :
    Harmless (f.save saver st).1 := by
  unfold HookForm.save
  split
  · infer_instance
  · split
    · infer_instance
    · split
      · infer_instance
      · infer_instance
      · next h _ => exact error_of_ne h

instance apply (writer : OptimisticField.Writer σ) (f : OptimisticField) (v : Value) (st : σ) :
    Harmless (f.apply writer v st).1 := by
  unfold OptimisticField.apply
  split
  · infer_instance
  · split
    · infer_instance
    · infer_instance
    · next h _ => exact error_of_ne h

end Hooks

end Harmless

end AdminConsole
