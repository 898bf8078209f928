import AdminConsole.Fault.Mishap

/-!
# Fault/ConsoleError — the console's own errors

Errors that the editing sessions catch and turn into outcomes: a refused request, a server out of
reach, an answer of the wrong shape, a permission cell that cannot be edited. Each has a message,
a context for the details panel, and suggestions for getting past it.
-/

namespace AdminConsole

/-- A record that did not pass validation: the record's name and one message per failing rule. -/
structure Invalid where
  model : String
  messages : List String
  deriving DecidableEq, Repr, Inhabited

/-- Where a wrapped error comes from: its kind, its text, and the messages of a failed
validation. -/
structure Origin where
  kind : String
  text : String
  messages : Option (List String) := none
  deriving DecidableEq, Repr, Inhabited

/-- An error of the console itself. -/
inductive ConsoleError where
  | general (message : String) (context : Value) (suggestions : List String)
  /-- The server answered with a status outside the two hundreds. -/
  | api (status : Int) (data : Value) (method path : String) (message : Option String)
  /-- The server could not be reached. -/
  | connection (method path : String) (origin : Origin) (message : Option String)
  /-- A successful answer does not have the expected shape. -/
  | format (method path : String) (origin : Origin) (message : Option String)
  /-- A permission cell cannot be edited. -/
  | matrix (entity : Value) (reason : String) (subject : Value)
  deriving DecidableEq, Repr, Inhabited

namespace ConsoleError

/-- The name of an error's class. -/
def kind : ConsoleError → String
  | general .. => "AdminConsoleError"
  | api .. => "ApiError"
  | connection .. => "ApiConnectionError"
  | format .. => "ResponseFormatError"
  | matrix .. => "MatrixStateError"

/-- What a refused request says about itself. -/
def refusal (status : Int) (data : Value) (method path : String) : String :=
  let head := method ++ " " ++ path ++ " failed with HTTP " ++ Decimal.intText status
  match data.member? "error" with
  | some detail => if detail.truthy then head ++ ": " ++ detail.plain else head
  | none => head

/-- **The message of an error**: the given one, or one made from its parts. -/
def message : ConsoleError → String
  | general message _ _ => message
  | api status data method path given =>
    given.getD (refusal status (data.orElse .empty) method path)
  | connection method path origin given =>
    given.getD (method ++ " " ++ path ++ " could not reach the server: " ++ origin.text)
  | format method path origin given =>
    given.getD (method ++ " " ++ path ++ " returned an unexpected response: " ++ origin.text)
  | matrix entity reason _ => "Cannot edit permissions of '" ++ entity.plain ++ "': " ++ reason

/-- The body that came with a refused request, an empty object if it had none. -/
def data : ConsoleError → Value
  | api _ data _ _ _ => data.orElse .empty
  | _ => .empty

/-- The context of a wrapped error. -/
def wrappedContext (method path : String) (origin : Origin) : Value :=
  .object [("method", .text method), ("path", .text path),
    ("original_error_type", .text origin.kind), ("original_error_message", .text origin.text)]

/-- What the details panel shows about an error. -/
def context : ConsoleError → Value
  | general _ context _ => context.orElse .empty
  | api status data method path _ =>
    .object [("status", .int status), ("method", .text method), ("path", .text path),
      ("body", data.orElse .empty)]
  | connection method path origin _ => wrappedContext method path origin
  | format method path origin _ => wrappedContext method path origin
  | matrix entity reason subject =>
    .object [("entity", entity), ("subject", subject), ("reason", .text reason)]

/-- The suggestions for a refused request, by its status. -/
def refusalSuggestions (status : Int) : List String :=
  if status = 401 then
    ["Your session has expired, log in again", "Check the configured API credentials"]
  else if status = 403 then
    ["This action requires an admin account", "Ask an administrator to grant the required role"]
  else if status = 404 then
    ["The resource may have been deleted, reload the page",
      "Check that the entity, user or hook still exists"]
  else ["Retry the action", "Check the server logs for details"]

/-- What the user may try. -/
def suggestions : ConsoleError → List String
  | general _ _ suggestions => suggestions
  | api status .. => refusalSuggestions status
  | connection .. =>
    ["Check that the ElysianDB server is running", "Verify api.base_url in config.yaml",
      "Check your network connection"]
  | format .. =>
    ["Reload the page", "Check that the console and the ElysianDB server versions match"]
  | matrix .. => ["Wait for the permissions to finish loading"]

/-- Whether the request was refused because nobody is signed in. -/
def isAuth : ConsoleError → Bool
  | api status .. => status == 401
  | _ => false

/-- The source of a wrapped error. -/
def origin? : ConsoleError → Option Origin
  | connection _ _ origin _ => some origin
  | format _ _ origin _ => some origin
  | _ => none

end ConsoleError

end AdminConsole
