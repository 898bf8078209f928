import AdminConsole.Hook.Group
import AdminConsole.Ui.Feedback
import AdminConsole.Ui.Nonce

/-!
# Pages/Hooks — the read hooks of an entity

The page lists the hooks of the selected entity by event, creates new ones, and edits the selected
one in a form. The form follows what is typed; only a draft that breaks no rule can be saved.
-/

namespace AdminConsole.Pages.Hooks

open Page

variable {σ : Type}

/-- What is noted when deleting a hook waits for a confirmation. -/
def deleteKey : String := "hook_confirm_delete"

/-- The number of the hook editor. -/
def nonceKey : String := "hook_editor_nonce"

/-- Works on the hook form of the session. -/
def withForm {α : Type} (step : HookForm → α × HookForm) : Page σ α := do
  let (a, f) := step (← session).form
  modifySession (·.setForm f)
  return a

/-! ## The list -/

/-- Selects a hook: it is loaded into the form, which drops any draft. -/
def select (id : Value) : Page σ Unit := do
  withForm fun f => ((), f)
  match ← load (.loadHook id.plain) with
  | .error e => notify .error ("Failed to load hook: " ++ e.message)
  | .ok hook =>
    let _ ← ofResult (← withForm (·.load hook.toValue))
    modifySession (·.setHookId id)
    renew nonceKey

/-- The label of a hook in the list. -/
def hookLabel (h : StoredHook) : String :=
  let mark := if h.enabled then "✅" else "⏸️"
  let name := if h.name.isEmpty then (Value.ofText? h.id).plain else h.name
  mark ++ " " ++ name ++ " (priority " ++ Decimal.intText h.priority ++ ")"

/-- The buttons of some hooks. -/
def hookButtons : List StoredHook → Page σ Unit
  | [] => pure ()
  | h :: rest => do
    let id := Value.ofText? h.id
    if ← pressed ((Widget.button (hookLabel h)).keyed ("hook_select_" ++ id.plain)
        |>.stretched) then
      select id
      rerun
    hookButtons rest

/-- The events to list: those on offer, then the others by name. -/
def listedEvents (groups : HookGroups.Groups) : List String :=
  StoredHook.events
    ++ sortTexts ((Entries.keys groups).filter fun e => !StoredHook.events.contains e)

/-- The hooks of some events. -/
def hookList (groups : HookGroups.Groups) : List String → Page σ Unit
  | [] => pure ()
  | event :: rest => do
    display (.markdown ("**" ++ event ++ "**"))
    match (Entries.get? event groups).getD [] with
    | [] => display (.caption (.text "No hooks."))
    | hooks => hookButtons hooks
    hookList groups rest

/-- The form for a new hook. -/
def createForm (entity : Value) : Page σ Unit := do
  display (.clearingForm "create_hook_form")
  display (.markdown "**New hook**")
  let typedName ← typed (.textField "Name") (.text "")
  let events := StoredHook.events.map Value.text
  let event ← selected (.selectBox "Event") events (placeOf (.text "post_read") events)
  if ← pressed (.submit "➕ Create hook") then
    let name ← trimmed typedName
    if name.isEmpty then notify .warning "Hook name is required"
    else
      match ← ask (.createHook entity event (.text name)) with
      | .error e =>
        notify .error ("Failed to create a hook for \"" ++ entity.plain ++ "\": " ++ e.message)
      | .ok () =>
        notify .success ("The hook \"" ++ name ++ "\" was created for \"" ++ entity.plain ++ "\"")
        rerun

/-! ## The editor -/

/-- The key of a widget of the editor. -/
def editorKey (id nonce : Value) (part : String) : String :=
  "hook_" ++ id.plain ++ "_" ++ nonce.plain ++ "_" ++ part

/-- A priority within the bounds of its field. -/
def shownPriority (v : Value) : Except Fault Int :=
  match v.toInteger with
  | .ok n => .ok (min (max n StoredHook.minPriority) StoredHook.maxPriority)
  | .error m => .error (.mishap m)

/-- The script with which a script of an event may begin. -/
def scriptHint (event : Value) : String :=
  "function " ++ (if event.same (.text "post_read") then "postRead" else "preRead")
    ++ "(ctx) \x7b \x7d"

/-- The widgets of the editor. Returns the values of the draft's members. -/
def editorWidgets (id : Value) (d : HookDraft) : Page σ Value := do
  let nonce ← nonce nonceKey
  let key := editorKey id nonce
  display (.expander "⚙️ Options")
  let enabled ← chosen ((Widget.toggle "Enabled").keyed (key "enabled")) d.enabled
  let bypassAcl ← chosen ((Widget.toggle "Bypass ACL").keyed (key "bypass_acl")
    |>.help "Allows this hook to bypass ACL checks") d.bypassAcl
  let language ← selected ((Widget.selectBox "Language").keyed (key "language"))
    (StoredHook.languages.map .text) 0
  let events := StoredHook.events.map Value.text
  let event ← selected ((Widget.selectBox "Event").keyed (key "event")) events
    (placeOf d.event events)
  let shown ← ofResult (shownPriority d.priority)
  let priority ← chosen
    ((Widget.numberField "Priority" StoredHook.minPriority StoredHook.maxPriority).keyed
      (key "priority")) (.int shown)
  let name ← typed ((Widget.textField "Name").keyed (key "name")) d.name
  let script ← typed ((Widget.textArea "Script").keyed (key "script") |>.height 260
    |>.placeholder (scriptHint d.event)) d.script
  return .object [("enabled", enabled), ("bypass_acl", bypassAcl), ("language", language),
    ("event", event), ("priority", priority), ("name", name), ("script", script)]

/-- Shows the rules that the draft breaks, that of the script first. -/
def showProblems : Page σ Unit := do
  let f := (← session).form
  let scriptError ← ofResult f.scriptError
  match scriptError with
  | some message => if !message.isEmpty then display (.error ("❌ " ++ message))
  | none => pure ()
  showErrors (.texts (f.errors.filter fun e => some e != scriptError))

/-- Stores a hook. -/
def saver (wire : Http.Wire σ) : HookForm.Saver (Client × σ) := fun id payload f st =>
  let (answer, st) := callWith wire (.saveHook id.plain payload) st
  (answer, f, st)

/-- Saves the draft. -/
def save : Page σ Unit := do
  awaitMark
  let f := (← session).form
  let (result, f) ← withServer fun wire st =>
    let (result, f, st) := f.save (saver wire) st
    ((result, f), st)
  modifySession (·.setForm f)
  if ← showOutcome (← ofResult result) then rerun

/-- Asks whether the hook is really to be deleted, and deletes it. -/
def deleteQuestion (id : Value) (title : String) : Page σ Unit := do
  if (← note deleteKey).same id then
    display (.warning ("⚠️ Delete hook \"" ++ title ++ "\"?"))
    match ← confirmed? { key := "hook_delete", confirm := "Delete" } with
    | none => pure ()
    | some false =>
      setNote deleteKey .null
      rerun
    | some true =>
      setNote deleteKey .null
      match ← ask (.deleteHook id.plain) with
      | .error e => notify .error ("Failed to delete hook \"" ++ title ++ "\": " ++ e.message)
      | .ok () =>
        notify .success ("Hook \"" ++ title ++ "\" deleted")
        modifySession fun s => (s.setForm s.form.clear).setHookId .null
        rerun

/-- The editor of a draft. -/
def draftEditor (id : Value) (d : HookDraft) : Page σ Unit := do
  let title := d.title.plain
  let mark := if (← session).form.hasUnsavedChanges then " ✏️" else ""
  display (.subheader (title ++ mark))
  let values ← editorWidgets id d
  let _ ← ofResult (← withForm (·.update values))
  showProblems
  display (.columns 2)
  let key := editorKey id (← nonce nonceKey)
  if ← pressed ((Widget.button "💾 Save").primary.keyed (key "save")
      |>.disabled !(← session).form.isValid) then save
  if ← pressed ((Widget.button "🗑️ Delete hook").keyed (key "delete")) then
    setNote deleteKey id
  deleteQuestion id title

/-- The editor of a hook, which is loaded if the form holds another one. -/
def editor (id : Value) : Page σ Unit := do
  let f := (← session).form
  withForm fun f => ((), f)
  if !(f.draft.any fun d => d.id.same id) then select id
  match (← session).form.draft with
  | none => pure ()
  | some d => draftEditor id d

/-- **The page of hooks.** -/
def page : Page σ Unit := do
  display (.header (.text "🪝 Hooks"))
  match ← load Call.listEntityTypes with
  | .error e => reportIn "loading entity types" (.console e)
  | .ok [] => display (.info "📁 Create an entity type before adding hooks.")
  | .ok types =>
    let options := types.map fun t => Value.text t.id
    let entity ← selected ((Widget.selectBox "Entity type").keyed "hook_entity_select") options
      (placeOf (← session).hookEntity options)
    modifySession (·.setHookEntity entity)
    match ← load (.listHooks entity.plain) with
    | .error e => reportIn ("loading hooks of " ++ entity.plain) (.console e)
    | .ok hooks =>
      display (.columnsOf [.int 1, .int 2])
      let groups := HookGroups.ofHooks hooks
      hookList groups (listedEvents groups)
      createForm entity
      let id := (← session).hookId
      if id.isNull then display (.info "Select a hook to edit it.") else editor id

end AdminConsole.Pages.Hooks
