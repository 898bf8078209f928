import AdminConsole.Text.Search
import AdminConsole.Ui.Feedback

/-!
# Pages/Users — user accounts

The page creates accounts and gives each a row in which its password and role are changed and it is
deleted. A changed role is shown at once and taken back if the server refuses it.
-/

namespace AdminConsole.Pages.Users

open Page

variable {σ : Type}

/-- What is noted when deleting an account waits for a confirmation. -/
def deleteKey : String := "users_confirm_delete"

/-- The form for a new account. -/
def createForm : Page σ Unit := do
  display (.clearingForm "create_user_form")
  let typedName ← typed (.textField "Username") (.text "")
  let password ← typed (Widget.textField "Password").secret (.text "")
  let roles := User.roles.map Value.text
  let role ← selected (.selectBox "Role") roles (placeOf (.text "user") roles)
  if ← pressed (.submit "Create user") then
    let name ← trimmed typedName
    if name.isEmpty || !password.truthy then
      showValidation (.texts ["Username and password are required"])
    else
      match ← ask (.createUser (.text name) password role) with
      | .error e => notify .error ("Failed to create user: " ++ e.message)
      | .ok () =>
        notify .success "User created successfully"
        rerun

/-! ## The row of an account -/

/-- Where the choice of a user's role is kept. -/
def roleKey (user : String) : String := "user_role_" ++ user

/-- Changes a role and asks for a new run. -/
def changeRole (user : String) (f : OptimisticField) (role : Value) : Page σ Unit := do
  let (result, f) ← withServer fun wire st =>
    let (result, f, st) := f.apply
      (fun v _ st => callWith wire (.changeRole user v) st) role st
    ((result, f), st)
  modifySession (·.setRoleField user f)
  let outcome ← ofResult result
  if !(← showOutcome outcome) then modifySession (·.dropNote (roleKey user))
  rerun

/-- Changes a password. -/
def changePassword (user : String) (password : Value) : Page σ Unit := do
  if !password.truthy then notify .warning "Password cannot be empty"
  else
    match ← ask (.changePassword user password) with
    | .error e => notify .error ("Failed to change user's password: " ++ e.message)
    | .ok () => notify .success "User's password successfully modified"

/-- Asks whether the account is really to be deleted, and deletes it. -/
def deleteQuestion (user : String) : Page σ Unit := do
  if (← note deleteKey).same (.text user) then
    display (.warning ("⚠️ Delete user \"" ++ user ++ "\"?"))
    match ← confirmed? { key := "user_delete_" ++ user, confirm := "Delete" } with
    | none => pure ()
    | some false =>
      setNote deleteKey .null
      rerun
    | some true =>
      setNote deleteKey .null
      match ← ask (.deleteUser user) with
      | .error e => notify .error ("Failed to delete user: " ++ e.message)
      | .ok () =>
        modifySession (·.dropRoleField user)
        notify .success ("User \"" ++ user ++ "\" deleted")
        rerun

/-- The roles to choose from: those on offer, and the one shown. -/
def roleOptions (shown : Value) : List Value :=
  let roles := User.roles.map Value.text
  if roles.any fun r => shown.same r then roles else roles ++ [shown]

/-- The role field of a user. -/
def roleField (u : User) : Page σ OptimisticField := do
  let (f, s) := (← session).roleField u.username (.text u.role)
  modifySession fun _ => s
  return f

/-- The row of an account. -/
def userRow (u : User) : Page σ Unit := do
  let name := u.username
  let f ← roleField u
  let options := roleOptions f.displayed
  display (.columnsOf [.int 2, .int 2, .int 3, .int 1])
  display (.markdown ("**" ++ name ++ "**"))
  let role ← selected ((Widget.selectBox "Role").keyed (roleKey name) |>.unlabelled
    |>.disabled f.inFlight) options (placeOf f.displayed options)
  display (.popover "🔑 Change password")
  display (.clearingForm ("user_password_" ++ name))
  let password ← typed (Widget.textField "New password").secret (.text "")
  let changed ← pressed (.submit "Change")
  let deleted ← pressed ((Widget.button "🗑️").keyed ("user_delete_" ++ name)
    |>.help "Delete this user")
  if !role.same f.displayed then changeRole name f role
  if changed then changePassword name password
  if deleted then setNote deleteKey (.text name)
  deleteQuestion name

/-- The rows of some accounts. -/
def userRows : List User → Page σ Unit
  | [] => pure ()
  | u :: rest => do
    userRow u
    userRows rest

/-- **The page of user accounts.** -/
def page : Page σ Unit := do
  display (.header (.text "👥 Users"))
  match ← load Call.listUsers with
  | .error e => reportIn "loading users" (.console e)
  | .ok users =>
    display (.expander "➕ New user")
    createForm
    let query ← typed
      ((Widget.textField "🔍 Search user").keyed "users_search" |>.placeholder "Search user...")
      (.text "")
    let visible := Text.filterNames (users.map User.username) (← ofResult query.typedText)
    if visible.isEmpty then display (.caption (.text "No user matches the search."))
    else userRows (users.filter fun u => visible.contains u.username)

end AdminConsole.Pages.Users
