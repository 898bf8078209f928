import AdminConsole.Fault.Basic

/-!
# Fault/Category — what to tell the user

Each fault belongs to a category, and each category has one friendly message.
-/

namespace AdminConsole

/-- Categories of faults. -/
inductive Category where
  | api
  | network
  | auth
  | permission
  | notFound
  | validation
  | userInput
  | system
  deriving DecidableEq, Repr, Inhabited

namespace Category

/-- The name of a category. -/
def name : Category → String
  | api => "api"
  | network => "network"
  | auth => "auth"
  | permission => "permission"
  | notFound => "not_found"
  | validation => "validation"
  | userInput => "user_input"
  | system => "system"

/-- The friendly message of a category. -/
def message : Category → String
  | api => "🛰️ The server rejected the request. Please try again."
  | network => "🌐 The ElysianDB server could not be reached. Please check that it is running."
  | auth => "🔑 Your session has expired. Please log in again."
  | permission => "🔐 You don't have permission to perform this action."
  | notFound => "🔎 The requested resource no longer exists. Please reload the page."
  | validation => "✅ The server returned data in an unexpected format."
  | userInput => "⚠️ Invalid input provided. Please check your data and try again."
  | system => "💻 An unexpected error occurred. Please try again."

/-- All categories. -/
def all : List Category :=
  [api, network, auth, permission, notFound, validation, userInput, system]

/-- The category with a name, `system` for an unknown one. -/
def ofName (name : String) : Category := (all.find? fun c => c.name == name).getD system

/-- The category of a refused request. -/
def ofStatus (status : Int) : Category :=
  if status = 401 then auth
  else if status = 403 then permission
  else if status = 404 then notFound
  else if 400 ≤ status ∧ status < 500 then userInput
  else api

/-- **The category of a fault.** -/
def ofFault : Fault → Category
  | .console (.connection ..) => network
  | .console (.api status ..) => ofStatus status
  | .console (.format ..) => validation
  | .console _ => system
  | .invalid _ => validation
  | .mishap m => if m.isInput then userInput else system

end Category

end AdminConsole
