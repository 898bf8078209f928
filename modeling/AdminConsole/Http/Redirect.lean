import AdminConsole.Http.Address
import AdminConsole.Http.Message

/-!
# Http/Redirect — answers that point elsewhere

An answer with one of a few statuses may say under which address to ask instead. The console does
not ask there, but it reads the address: one that breaks the rules counts as a failure of the server
and one that lacks a host gets the host that was asked.
-/

namespace AdminConsole.Http

/-- The statuses of answers that point elsewhere. -/
def redirectStatuses : List Int := [301, 302, 303, 307, 308]

/-- The address that an answer points to. -/
def Response.location? (r : Response) : Option String :=
  if redirectStatuses.contains r.status then r.header? "location" else none

namespace Address

/-- The address with a host, if it has a scheme but no host itself. -/
def orHost (a : Address) (host : String) : Except Mishap Address :=
  if a.scheme.isEmpty || !a.host.isEmpty then .ok a
  else withParts { a with host } a.path.toList a.query a.fragment

/-- Checks the address in an answer to a request to another one. -/
def checkLocation (asked : Address) (location : String) : Except Mishap Unit :=
  match read location with
  | .error m => .error (.badLocation m.text)
  | .ok target => do
    let target ← target.orHost asked.host
    target.checkHost

end Address

/-- **Checks where an answer points to**, if it points anywhere. -/
def Response.checkRedirect (r : Response) (asked : Address) : Except Mishap Unit :=
  match r.location? with
  | some location => asked.checkLocation location
  | none => .ok ()

end AdminConsole.Http
