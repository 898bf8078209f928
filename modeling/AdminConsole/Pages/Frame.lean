import AdminConsole.Pages.Access
import AdminConsole.Pages.EntityTypes
import AdminConsole.Pages.Hooks
import AdminConsole.Pages.Records
import AdminConsole.Pages.Users

/-!
# Pages/Frame — the console as a whole

A run of the console reads the settings of the log, connects to the server on first use, and shows
the login form, or the sidebar and the current page. A refusal because nobody is signed in leads
back to the login form; any other fault is shown.
-/

namespace AdminConsole.Pages

open Page

variable {σ : Type}

/-! ## The log -/

/-- The levels of the log. -/
def logLevels : List (String × Nat) := [
  ("DEBUG", 10), ("INFO", 20), ("WARNING", 30), ("ERROR", 40), ("CRITICAL", 50)]

/-- **The level that a setting names**, in letters of either case; `INFO` if it names none. -/
def logLevel (setting : Value) : Nat := (logLevels.lookup (Text.upper setting.plain)).getD 20

/-! ## The connection -/

/-- A new connection to the server in the settings. -/
def connect : Page σ Client := do
  let address ← setting "api" "base_url" (.text "http://localhost:8089")
  let timeout ← setting "api" "timeout" (.int 10)
  let _ ← ofResult (match timeout.toReal with
    | .ok x => .ok x
    | .error m => .error (.mishap m))
  ofResult (Client.ofAddress address.plain)

/-- Notes the account that the server reports for a sign-in, or one with the name alone. -/
def signIn (username account : Value) : Page σ Unit := do
  let account := account.orElse (.object [("username", username)])
  let s ← ofResult ((← session).setAccount account)
  modifySession fun _ => s

/-- Signs in with the account in the settings, if there is one. -/
def signInFromSettings : Page σ Unit := do
  let username ← setting "api" "username" .null
  let password ← setting "api" "password" .null
  if username.truthy && password.truthy then
    match ← ask (.login username password) with
    | .ok account => signIn username account
    | .error _ =>
      notify .error ("Automatic login as \"" ++ username.plain ++ "\" failed")

/-- **Makes sure that there is a connection**; a new one signs in if the settings name an
account. -/
def ensureClient : Page σ Unit := do
  if (← session).client.get?.isNone then
    let _ ← withSettings Settings.Cache.get
    let c ← connect
    modifySession (·.setClient (some c))
    signInFromSettings

/-! ## Signing in and out -/

/-- The login form. -/
def login : Page σ Unit := do
  let name ← setting "app" "name" (.text "ElysianDB Admin")
  display (.title ("🗄️ " ++ name.plain))
  display (.form "login_form")
  let username ← typed (.textField "Username") (.text "")
  let password ← typed (Widget.textField "Password").secret (.text "")
  if ← pressed (Widget.submit "Log in").primary then
    match ← ask (.login username password) with
    | .error (.api ..) => display (.error "❌ Invalid username or password")
    | .error e => reportIn "login" (.console e)
    | .ok account =>
      signIn username account
      rerun

/-- Signs out. The session is over even if the server does not answer. -/
def logout : Page σ Unit := do
  let result ← attempt (ask Call.logout)
  modifySession Session.reset
  match result with
  | .ok _ => rerun
  | .error f => fail f

/-! ## The sidebar -/

/-- The names of the pages. -/
def pageLabels : List String :=
  ["🗂️ Entity Types", "📄 Records", "🔐 ACL", "🪝 Hooks", "👥 Users"]

/-- The name of the signed-in user. -/
def userName (account : Value) : Except Fault Value :=
  match account.orElse .empty with
  | .map es => .ok ((Entries.get? (.text "username") es).getD (.text "?"))
  | v => .error (.noAttribute v "get")

/-- The sidebar: the choice of the page, and the account. -/
def sidebar : Page σ Unit := do
  display (.header (← setting "ui" "sidebar_title" (.text "Navigation")))
  let current := (← session).page
  let options := Session.pages.map Value.text
  let chosen ← selected ((Widget.radio "Select View:").withOption "labels" (.texts pageLabels))
    options (placeOf current options)
  if !chosen.same current then
    modifySession (·.setPage chosen)
    rerun
  if (← session).hasUnsavedChanges then display (.warning "⚠️ Unsaved changes")
  display .divider
  let name ← ofResult (userName (← session).account)
  display (.caption (.text ("Signed in as **" ++ name.plain ++ "**")))
  display (.caption (← setting "api" "base_url" (.text "")))
  if ← pressed (.button "🚪 Log out") then logout

/-! ## The run -/

/-- The current page. -/
def current : Page σ Unit := do
  match (← session).page with
  | .text "entities" => EntityTypes.page
  | .text "records" => Records.page
  | .text "acl" => Access.page
  | .text "hooks" => Hooks.page
  | .text "users" => Users.page
  | v => display (.error ("Unknown page: " ++ v.plain))

/-- Everything below the page's title. -/
def body : Page σ Unit := do
  modifySession Session.start
  ensureClient
  if (← session).isAuthenticated then
    sidebar
    current
  else login

/-- **What becomes of a fault that no page has shown.** -/
def rescue (f : Fault) : Page σ Unit := do
  match f with
  | .console (.api status data method path message) =>
    if status = 401 then
      modifySession (·.setNote Session.accountKey .null)
      rerun
    else
      let context := "page " ++ (← session).page.plain
      reportIn context (.console (.api status data method path message))
  | f => reportIn "application" f

/-- **One run of the console.** -/
def console : Page σ Unit := do
  let _ ← setting "logging" "level" (.text "INFO")
  let _ ← setting "logging" "format" .null
  display (.pageConfig (← setting "ui" "page_title" (.text "ElysianDB Admin")))
  match ← attempt body with
  | .ok () => pure ()
  | .error f => rescue f

end AdminConsole.Pages
