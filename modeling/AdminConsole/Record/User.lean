import AdminConsole.Record.Check

/-!
# Record/User — user accounts
-/

namespace AdminConsole

/-- A user account. -/
structure User where
  username : String
  role : String
  deriving DecidableEq, Repr, Inhabited

namespace User

/-- The roles that the console offers. -/
def roles : List String := ["admin", "user"]

/-- Checks an account. -/
def ofValue (v : Value) : Except Invalid User :=
  match v with
  | .map es =>
    let username := Record.required es "username" Record.text
    let role := Record.optional es "role" "user" Record.text
    match username, role with
    | .ok username, .ok role => .ok { username, role }
    | username, role =>
      .error ⟨"UserRecord", Record.messages username ++ Record.messages role⟩
  | _ => .error ⟨"UserRecord", [Record.notARecord "UserRecord"]⟩

/-- The members of an account. -/
def toValue (u : User) : Value :=
  .object [("username", .text u.username), ("role", .text u.role)]

end User

end AdminConsole
