import AdminConsole.Hook.Draft
import AdminConsole.Outcome

/-!
# Hook/Form — editing one hook

The form holds a draft, the draft as it was last saved or loaded, and the rules that the draft
breaks. A draft that breaks a rule is never sent, and a failed save leaves everything as it was.
-/

namespace AdminConsole

/-- Where the form is in its work. -/
inductive FormState where
  | noDraft
  | editing
  | saving
  deriving DecidableEq, Repr, Inhabited

/-- The name of a state. -/
def FormState.name : FormState → String
  | noDraft => "no_draft"
  | editing => "editing"
  | saving => "saving"

/-- The editing session of one hook. -/
structure HookForm where
  state : FormState := .noDraft
  draft : Option HookDraft := none
  saved : Option HookDraft := none
  errors : List String := []
  deriving DecidableEq, Repr, Inhabited

namespace HookForm

/-! ## Looking at the form -/

/-- Whether the draft differs from the saved one. -/
def hasUnsavedChanges (f : HookForm) : Bool :=
  match f.draft, f.saved with
  | none, _ => false
  | some _, none => true
  | some d, some s => !d.same s

/-- Whether there is a draft that breaks no rule. -/
def isValid (f : HookForm) : Bool := f.draft.isSome && f.errors.isEmpty

/-- Whether the draft has edits or breaks a rule. -/
def needsAttention (f : HookForm) : Bool :=
  f.draft.isSome && (f.hasUnsavedChanges || !f.errors.isEmpty)

/-- The rule that the draft's script breaks. -/
def scriptError (f : HookForm) : Except Fault (Option String) :=
  match f.draft with
  | none => .ok none
  | some d => HookScript.check d.event d.script

/-! ## Editing -/

/-- Finds out again which rules the draft breaks; a failure leaves the errors as they were. -/
def revalidate (f : HookForm) (d : HookDraft) : Except Fault (List String) × HookForm :=
  match d.problems with
  | .ok errors => (.ok errors, { f with errors := errors })
  | .error fault => (.error fault, f)

/-- **Replaces any draft by a fresh copy of a record.** -/
def load (f : HookForm) (record : Value) : Except Fault HookDraft × HookForm :=
  match HookDraft.ofRecord record with
  | .error fault => (.error fault, f)
  | .ok d =>
    let (result, f) := revalidate { f with draft := some d, saved := some d, state := .editing } d
    (result.map fun _ => d, f)

/-- Drops the draft. -/
def clear (_ : HookForm) : HookForm := {}

/-- The fault of editing without a draft. -/
def nothingLoaded (key : Value) : Fault :=
  .console (.general "No hook is loaded" (.object [("field", key)])
    ["Select a hook before editing it"])

/-- The fault of editing a member that is not edited. -/
def notEditable (key : Value) : Fault :=
  .console (.general ("Hook field '" ++ key.plain ++ "' cannot be edited")
    (.object [("field", key), ("editable", .texts (HookMember.all.map HookMember.key))]) [])

/-- **Replaces one member of the draft.** Returns the rules that it breaks now. -/
def setMember (f : HookForm) (key : Value) (v : Value) : Except Fault (List String) × HookForm :=
  match f.draft with
  | none => (.error (nothingLoaded key), f)
  | some d =>
    match key.text?.bind HookMember.ofKey? with
    | none => (.error (notEditable key), f)
    | some m =>
      if (d.get m).same v then (.ok f.errors, f)
      else
        let d := d.set m v
        revalidate { f with draft := some d } d

/-- Replaces members one by one; a fault ends it. -/
def setMembers : List (Scalar × Value) → HookForm → Except Fault (List String) × HookForm
  | [], f => (.ok f.errors, f)
  | (key, v) :: rest, f =>
    match f.setMember (.scalar key) v with
    | (.ok _, f) => setMembers rest f
    | (.error fault, f) => (.error fault, f)

/-- Replaces the members that a mapping names. -/
def update (f : HookForm) (values : Value) : Except Fault (List String) × HookForm :=
  match values with
  | .map es => setMembers es f
  | v => (.error (.noAttribute v "items"), f)

/-! ## Saving -/

/-- What a save asks: to store the members of a hook. It may work on the form. -/
abbrev Saver (σ : Type) := Value → Value → HookForm → σ → Except Fault Unit × HookForm × σ

/-- The name of a draft in a message, in quotes. -/
def quotedTitle (d : HookDraft) : String := "\"" ++ d.title.plain ++ "\""

/-- **Sends the draft**, if it breaks no rule. -/
def save {σ : Type} (saver : Saver σ) (f : HookForm) (st : σ) :
    Except Fault Outcome × HookForm × σ :=
  match f.draft with
  | none => (.ok (.skipped "No hook is loaded"), f, st)
  | some d =>
    match f.errors with
    | e :: _ => (.ok (.validationFailure e), f, st)
    | [] =>
      match saver d.id d.toValue { f with state := .saving } st with
      | (.ok (), f, st) =>
        (.ok (.success ("Hook " ++ quotedTitle d ++ " saved")),
          { f with state := .editing, saved := some d }, st)
      | (.error (.console e), f, st) =>
        (.ok (.remoteFailure ("Failed to save hook " ++ quotedTitle d) (.console e)),
          { f with state := .editing }, st)
      | (.error fault, f, st) => (.error fault, f, st)

end HookForm

end AdminConsole
