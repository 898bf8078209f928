import AdminConsole.Text.Search
import AdminConsole.Ui.Feedback
import AdminConsole.Ui.Nonce

/-!
# Pages/EntityTypes — entity types and their schemas

The page lists the entity types, creates new ones, and edits the fields of the selected one row by
row. Every edit changes the editing session and asks for a new run; only a commit is sent.
-/

namespace AdminConsole.Pages.EntityTypes

open Page

variable {σ : Type}

/-! ## The list -/

/-- What is noted when dropping an entity type waits for a confirmation. -/
def dropKey : String := "schema_confirm_drop"

/-- The number of the field editor. -/
def nonceKey : String := "schema_editor_nonce"

/-- The form for a new entity type. -/
def createForm : Page σ Unit := do
  display (.clearingForm "create_entity_type_form")
  let typedName ← typed ((Widget.textField "New entity type").placeholder "e.g. orders") (.text "")
  if ← pressed (.submit "➕ Create") then
    let entity ← trimmed typedName
    if entity.isEmpty then notify .warning "Entity type name is required"
    else
      match ← ask (.createEntityType entity) with
      | .error e =>
        notify .error ("Failed to create entity type \"" ++ entity ++ "\": " ++ e.message)
      | .ok () =>
        notify .success ("Entity type \"" ++ entity ++ "\" created")
        rerun

/-- The list of entity types. Returns the selected one. -/
def entityList (types : List EntityType) : Page σ (Option Value) := do
  if types.isEmpty then
    display (.info "📁 No entity types yet.")
    return none
  let query ← typed
    ((Widget.textField "🔍 Search entity types").placeholder "Type to filter..."
      |>.keyed "schema_entity_search") (.text "")
  let visible := Text.filterNames (types.map EntityType.id) (← ofResult query.typedText)
  if visible.isEmpty then
    display (.caption (.text "No entity type matches the search."))
    return none
  let options := visible.map Value.text
  let chosen ← selected ((Widget.selectBox "Entity type").keyed "schema_entity_select") options
    (placeOf (← session).entity options)
  return if chosen.isNull then none else some chosen

/-! ## The editing session -/

/-- Whether an editing session edits the schema of an entity. -/
def edits (entity : Value) (s : SchemaSession) : Bool := (Value.text s.entity).same entity

/-- The editing session of an entity; one of another entity is replaced by a freshly loaded one. -/
def openSession (entity : Value) : Page σ (Option SchemaSession) := do
  match (← session).schema.get?.filter (edits entity) with
  | some s => return some s
  | none =>
    match ← load (.loadSchema entity) with
    | .error e =>
      reportIn ("loading schema of " ++ entity.plain) (.console e)
      return none
    | .ok tree =>
      renew nonceKey
      modifySession (·.openSchema tree)
      return some (.opened tree)

/-- Changes the editing session and asks for a new run. -/
def editAndRerun (step : SchemaSession → SchemaSession) : Page σ Unit := do
  modifySession (·.editSchema step)
  rerun

/-- Adds a field below a path and asks for a new run. -/
def addAndRerun (parent : KeyPath) : Page σ Unit := do
  let s := (← session).schema.get?.getD default
  let added ← withNames fun names =>
    let (s, _, drawn) := s.add names parent
    (s, drawn)
  editAndRerun fun _ => added

/-- The remote calls of a commit. -/
def remote (wire : Http.Wire σ) : SchemaSession.Remote (Client × σ) :=
  { replace := fun entity fields st => callWith wire (.replaceSchema entity fields) st
    load := fun entity st => callWith wire (.loadSchema (.text entity)) st }

/-- Commits the edits of the session. -/
def commit : Page σ Unit := do
  awaitMark
  let s := (← session).schema.get?.getD default
  let (result, s) ← withServer fun wire st =>
    let (result, s, st) := s.commit (remote wire) st
    ((result, s), st)
  modifySession (·.setSchema s)
  let outcome ← ofResult result
  if ← showOutcome outcome then
    renew nonceKey
    rerun
  else match outcome.error.bind Fault.console? with
    | some e => showValidation .null (.texts e.suggestions)
    | none => pure ()

/-! ## Dropping an entity type -/

/-- Asks whether the entity type is really to be dropped, and drops it. -/
def dropQuestion (entity : String) : Page σ Unit := do
  if (← note dropKey).same (.text entity) then
    display (.warning ("⚠️ Drop entity type \"" ++ entity ++ "\" and all its records?"))
    match ← confirmed? { key := "schema_drop", confirm := "Drop" } with
    | none => pure ()
    | some false =>
      setNote dropKey .null
      rerun
    | some true =>
      setNote dropKey .null
      match ← ask (.dropEntityType entity) with
      | .error e =>
        notify .error ("Failed to drop entity type \"" ++ entity ++ "\": " ++ e.message)
      | .ok () =>
        notify .success ("Entity type \"" ++ entity ++ "\" dropped")
        modifySession Session.closeSchema
        rerun

/-! ## The fields -/

/-- The deepest level that can still get children. -/
def maxDepth : Nat := 8

/-- **The key of a widget in a field's row.** -/
def fieldKey (entity nonce : String) (path : KeyPath) (part : String) : String :=
  "schema_" ++ entity ++ "_" ++ nonce ++ "_" ++ joinTexts "/" path ++ "_" ++ part

/-- The width of the empty column before a row, by its depth. -/
def indent (depth : Nat) : Value := .real (.ofFloat (depth.toFloat * 0.4 + 0.01))

/-- The types to choose from for a field: those on offer, and its own. -/
def typeOptions (type : String) : List Value :=
  (if Field.types.contains type then Field.types else Field.types ++ [type]).map .text

/-- The values of the widgets in a field's row. -/
structure FieldInput where
  name : Value
  type : Value
  required : Value
  add : Bool
  delete : Bool

/-- The widgets of a field's row. -/
def fieldWidgets (entity nonce : String) (path : KeyPath) (f : Field) : Page σ FieldInput := do
  let key := fieldKey entity nonce path
  let depth := path.length - 1
  display (.columnsOf [indent depth, .int 3, .int 2, .int 1, .int 1, .int 1])
  let name ← typed ((Widget.textField "Name").unlabelled.keyed (key "name")) (.text f.name)
  let types := typeOptions f.type
  let type ← selected ((Widget.selectBox "Type").unlabelled.keyed (key "type")) types
    (placeOf (.text f.type) types)
  let required ← chosen ((Widget.checkbox "Required").keyed (key "required")) (.bool f.required)
  let isFull := !type.same (.text "object") || decide (maxDepth ≤ depth)
  let add ← pressed ((Widget.button "➕").keyed (key "add") |>.help "Add a child field"
    |>.disabled isFull)
  let delete ← pressed ((Widget.button "🗑️").keyed (key "delete") |>.help "Delete this field")
  return { name, type, required, add, delete }

/-- The changes of type and required mark in a row, if there are any. -/
def patchOf (f : Field) (input : FieldInput) : Option Fields.Patch :=
  let sameType := input.type.same (.text f.type)
  let sameRequired := input.required.truthy == f.required
  if sameType && sameRequired then none
  else some
    { type := if sameType then none else input.type.text?
      required := if sameRequired then none else some input.required.truthy }

/-- The row of one field. A change in it is made at once and asks for a new run. -/
def fieldRow (entity : String) (path : KeyPath) (f : Field) : Page σ Unit := do
  let input ← fieldWidgets entity (← nonce nonceKey).plain path f
  if input.delete then editAndRerun (·.delete path)
  if input.add then addAndRerun path
  let name ← trimmed input.name
  if !name.isEmpty && name != f.name then editAndRerun (·.rename path name)
  match patchOf f input with
  | some p => editAndRerun (·.update path p)
  | none => pure ()

mutual

/-- The row of a field and the rows of everything below it. -/
def fieldRows (entity : String) (path : KeyPath) : Field → Page σ Unit
  | ⟨name, type, required, none⟩ => fieldRow entity path ⟨name, type, required, none⟩
  | ⟨name, type, required, some cs⟩ => do
    fieldRow entity path ⟨name, type, required, some cs⟩
    levelRows entity path cs

/-- The rows of the fields of a level. -/
def levelRows (entity : String) (path : KeyPath) : Fields → Page σ Unit
  | [] => pure ()
  | (key, f) :: rest => do
    fieldRows entity (path ++ [key]) f
    levelRows entity path rest

end

/-! ## The editor -/

/-- The buttons above the fields. -/
def editorButtons (s : SchemaSession) : Page σ Unit := do
  display (.columns 4)
  if ← pressed ((Widget.button "➕ Add field").keyed "schema_add_root") then addAndRerun []
  if ← pressed ((Widget.button "💾 Update schema").primary.keyed "schema_commit"
      |>.disabled !s.isDirty) then commit
  let s := (← session).schema.get?.getD default
  if ← pressed ((Widget.button "↩️ Discard changes").keyed "schema_discard"
      |>.disabled !s.isDirty) then
    modifySession (·.editSchema SchemaSession.discard)
    renew nonceKey
    rerun
  if ← pressed ((Widget.button "🗑️ Drop entity type").keyed "schema_drop") then
    setNote dropKey (.text s.tree.entity)

/-- The editor of a schema. -/
def editor (s : SchemaSession) : Page σ Unit := do
  let tree := s.tree
  let mode := if tree.manual then "manual" else "auto-managed"
  display (.subheader (tree.entity ++ " (" ++ mode ++ ")"))
  editorButtons s
  dropQuestion tree.entity
  if tree.fields.isEmpty then display (.caption (.text "This entity type has no fields."))
  levelRows s.entity [] tree.fields
  let s := (← session).schema.get?.getD default
  display (.expanderSet "🔍 Pending changes" s.isDirty)
  let lines ← ofResult s.changes
  display (.markdown (SchemaChanges.display lines))

/-- **The page of entity types.** -/
def page : Page σ Unit := do
  display (.header (.text "🗂️ Entity Types"))
  match ← load Call.listEntityTypes with
  | .error e => reportIn "loading entity types" (.console e)
  | .ok types =>
    display (.expander "➕ New entity type")
    createForm
    let entity ← entityList types
    display .divider
    match entity with
    | none => display (.info "Select an entity type to edit its schema.")
    | some entity =>
      match ← openSession entity with
      | some s => editor s
      | none => pure ()

end AdminConsole.Pages.EntityTypes
