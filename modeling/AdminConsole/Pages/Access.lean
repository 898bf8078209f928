import AdminConsole.Permission.Table
import AdminConsole.Text.Search
import AdminConsole.Ui.Feedback
import AdminConsole.Ui.Nonce

/-!
# Pages/Access — the permissions of a user

The page lists the users and edits the permission matrix of the selected one. Only the entities
whose permissions were changed are written.
-/

namespace AdminConsole.Pages.Access

open Page

variable {σ : Type}

/-- What is noted when restoring the defaults waits for a confirmation. -/
def restoreKey : String := "acl_confirm_restore"

/-- The number of the matrix editor. -/
def nonceKey : String := "acl_editor_nonce"

/-! ## The matrix in the session -/

/-- The matrix of the session, made on first use. -/
def openMatrix : Page σ Matrix := fun _ w =>
  match w.session.openMatrix w.settings with
  | (.ok m, s, c) => (.ok m, { w with session := s, settings := c })
  | (.error f, s, c) => (.error (.fault f), { w with session := s, settings := c })

/-- Works on the matrix of the session. -/
def withMatrix {α : Type} (step : Matrix → α × Matrix) : Page σ α := do
  let (a, m) := step ((← session).matrix.get?.getD {})
  modifySession (·.setMatrix m)
  return a

/-- Works on the matrix of the session with the help of the server. -/
def withMatrixRemote {α : Type}
    (step : Http.Wire σ → Matrix → Client × σ → α × Matrix × (Client × σ)) : Page σ α := do
  let m := (← session).matrix.get?.getD {}
  let (a, m) ← withServer fun wire st =>
    let (a, m, st) := step wire m st
    ((a, m), st)
  modifySession (·.setMatrix m)
  return a

/-! ## Remote calls -/

/-- Loads the permission rows of a user. -/
def loader (wire : Http.Wire σ) : Matrix.Loader (Client × σ) := fun subject m st =>
  let (answer, st) := callWith wire (.loadPermissions subject.plain) st
  (answer, m, st)

/-- Writes the permissions of a user on an entity. -/
def writer (wire : Http.Wire σ) : Matrix.Writer (Client × σ) := fun subject entity flags m st =>
  let (answer, st) := callWith wire (.writePermissions subject.plain entity flags) st
  (answer, m, st)

/-- Puts the permissions of a user on an entity back to the defaults. -/
def resetter (wire : Http.Wire σ) : Matrix.Resetter (Client × σ) := fun subject entity m st =>
  let (answer, st) := callWith wire (.resetPermissions subject.plain entity) st
  (answer, m, st)

/-- Loads the matrix of a user. -/
def loadMatrix (subject : Value) : Page σ Unit := do
  awaitMark
  let outcome ← withMatrixRemote fun wire m st => m.loadBaseline (loader wire) subject st
  renew nonceKey
  if !outcome.ok then
    let _ ← showOutcome outcome

/-- Writes all pending changes and asks for a new run. -/
def commit : Page σ Unit := do
  awaitMark
  let result ← withMatrixRemote fun wire m st => m.commitPending (writer wire) st
  let batch ← ofResult result
  renew nonceKey
  let _ ← showBatch batch
  rerun

/-- Puts entities back to the defaults. -/
def restore (entities : List String) : Page σ Unit := do
  awaitMark
  let result ← withMatrixRemote fun wire m st =>
    m.restoreDefaults (resetter wire) (loader wire) entities st
  let batch ← ofResult result
  renew nonceKey
  let _ ← showBatch batch

/-! ## Users -/

/-- The list of users with their roles. Returns the selected one. -/
def userList (users : List User) (current : Value) : Page σ Value := do
  display (.subheader "Users")
  let query ← typed
    ((Widget.textField "🔍 Search user").keyed "acl_user_search" |>.placeholder "Search user...")
    (.text "")
  let names := Text.filterNames (users.map User.username) (← ofResult query.typedText)
  if names.isEmpty then
    display (.caption (.text "No user matches the search."))
    return .null
  let roles := Entries.ofPairs (users.map fun u => (u.username, u.role))
  let label (name : String) : Value :=
    .text (name ++ " (" ++ (Entries.get? name roles).getD "?" ++ ")")
  let options := names.map Value.text
  selected ((Widget.radio "User").keyed "acl_user_select" |>.unlabelled
    |>.withOption "labels" (.list (names.map label))) options (placeOf current options)

/-! ## The editor -/

/-- Asks whether the defaults are really to be restored, and restores them. -/
def restoreQuestion (subject : Value) (entities : List String) : Page σ Unit := do
  if (← note restoreKey).same subject then
    display (.warning ("⚠️ Restore default permissions for \"" ++ subject.plain ++ "\" on "
      ++ Decimal.intText entities.length ++ " entities?"))
    match ← confirmed? { key := "acl_restore", confirm := "Restore" } with
    | none => pure ()
    | some yes =>
      setNote restoreKey .null
      if yes then restore entities
      rerun

/-- The buttons beside the search. -/
def editorButtons (subject : Value) (visible : List String) : Page σ Unit := do
  let m ← openMatrix
  if ← pressed ((Widget.button "💾 Update ACLs").primary.keyed "acl_commit"
      |>.disabled (!m.isDirty || m.loading)) then commit
  if ← pressed ((Widget.button "↩️ Discard").keyed "acl_discard" |>.disabled !m.isDirty) then
    withMatrix fun m => ((), m.discard)
    renew nonceKey
    rerun
  if ← pressed ((Widget.button "♻️ Restore defaults").keyed "acl_restore"
      |>.disabled visible.isEmpty) then setNote restoreKey subject

/-- The table in which permissions are edited, and the pending changes. -/
def permissionTable (subject : Value) (visible : List String) : Page σ Unit := do
  let m ← openMatrix
  let key := "acl_matrix_" ++ subject.plain ++ "_" ++ (← nonce nonceKey).plain
  let rows ← editTable (m.table visible) key m.loading
  let count ← ofResult (← withMatrix (·.applyEdits rows))
  if count != 0 then rerun
  let m ← openMatrix
  if m.isDirty then
    display (.markdown
      ("**Pending changes (" ++ Decimal.intText m.pending.length ++ " entities)**"))
    display (.dataTable (← ofResult m.pendingTable))

/-- The editor of the matrix. -/
def editor (subject : Value) : Page σ Unit := do
  display (.columnsOf [.int 3, .int 1, .int 1, .int 1])
  let query ← typed ((Widget.textField "🔍 Search entity").keyed "acl_entity_search"
    |>.placeholder "Search entity..." |>.unlabelled) (.text "")
  let visible := Text.filterNames (← openMatrix).entities (← ofResult query.typedText)
  editorButtons subject visible
  restoreQuestion subject visible
  if visible.isEmpty then display (.caption (.text "No entity to show."))
  else permissionTable subject visible

/-- What each permission allows. -/
def overview : List Element :=
  .expander "📖 Permissions overview" :: Flags.descriptions.map fun (name, text) =>
    .markdown ("**" ++ name ++ "**: " ++ text)

/-- The matrix of a user, loaded if it is not the one in the session, or the error of its load. -/
def matrixOf (subject : Value) : Page σ Unit := do
  if !subject.same (← openMatrix).subject then loadMatrix subject
  match (← openMatrix).loadError with
  | some f =>
    display (.error ("❌ Failed to load ACLs for \"" ++ subject.plain ++ "\": " ++ f.text))
    if ← pressed ((Widget.button "🔄 Retry").keyed "acl_retry") then
      loadMatrix subject
      rerun
  | none =>
    editor (← openMatrix).subject
    displayAll overview

/-- **The page of permissions.** -/
def page : Page σ Unit := do
  let m ← openMatrix
  display (.header (.text "🔐 Access Control"))
  match ← load Call.listUsers with
  | .error e => reportIn "loading users" (.console e)
  | .ok users =>
    display (.columnsOf [.int 1, .int 3])
    let subject ← userList users m.subject
    if subject.isNull then display (.info "Select a user to edit their permissions.")
    else matrixOf subject

end AdminConsole.Pages.Access
