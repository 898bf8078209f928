import AdminConsole.Http.Charset
import AdminConsole.Http.CookieJar
import AdminConsole.Http.Redirect
import AdminConsole.Json.Body
import AdminConsole.Json.Reader

/-!
# Api/Client — calls to the server

A client knows the server's address and keeps its cookies. A call sends one request and returns the
JSON value in the answer: null for an empty one, and the text itself for one that is not JSON. An
answer of failure and a server out of reach are console errors; other failures of the wire are not.
-/

namespace AdminConsole

/-- A client of one server. -/
structure Client where
  /-- The server's address as it was given, without slashes at the end. -/
  address : String
  base : Http.Address
  cookies : Http.CookieJar := {}
  deriving DecidableEq, Repr, Inhabited

namespace Client

/-- A client of the server at an address. -/
def ofAddress (address : String) : Except Fault Client :=
  let trimmed := String.ofList (address.toList.reverse.dropWhile (· == '/')).reverse
  match Http.Address.read trimmed >>= Http.Address.closed with
  | .ok base => .ok { address := trimmed, base }
  | .error m => .error (.mishap m)

/-! ## Reading an answer -/

/-- The value in the text of an answer. -/
def readText (text : String) : Except Fault Value :=
  match Json.read text with
  | .ok v => .ok v
  | .error (.malformed ..) => .ok (.text text)
  | .error (.mishap m) => .error (.mishap m)

/-- What an answer of failure says, as an object. -/
def refusalData (text : String) : Except Fault Value :=
  if text.isEmpty then .ok .empty
  else match Json.read text with
    | .ok (.map es) => .ok (.map es)
    | .ok v => .ok (if v.truthy then .object [("error", v)] else .empty)
    | .error (.malformed ..) => .ok (.object [("error", .text (Text.trim text))])
    | .error (.mishap m) => .error (.mishap m)

/-- The value in an answer with a text. -/
def readBody (method path : String) (r : Http.Response) (text : String) : Except Fault Value :=
  if r.isSuccess then if text.isEmpty then .ok .null else readText text
  else match refusalData text with
    | .ok data => .error (.console (.api r.status data method path none))
    | .error f => .error f

/-- **The value in an answer.** -/
def readResponse (method path : String) (r : Http.Response) : Except Fault Value :=
  if r.status = 204 then .ok .null
  else match r.text with
    | .ok text => readBody method path r text
    | .error m => .error (.mishap m)

/-! ## Sending -/

/-- The cookies for an address, which must say how it is reached if there are any. -/
def cookieFor? (c : Client) (address : Http.Address) : Except Mishap (Option String) :=
  if c.cookies.isEmpty then .ok none
  else match address.checkType with
    | .ok _ => .ok (c.cookies.header? address)
    | .error m => .error m

/-- The request to an address; a null payload means no body. -/
def requestTo (address : Http.Address) (method : String) (cookie : Option String)
    (payload : Value) : Except Fault Http.Request :=
  if payload.isNull then .ok { method, url := address.text, cookie }
  else (Json.body payload).map fun body =>
    { method, url := address.text, cookie, body := some body,
      contentType := some "application/json" }

/-- The request for a path, and where it goes. -/
def request (c : Client) (method path : String) (payload : Value) :
    Except Fault (Http.Address × Http.Request) := do
  let address ← (c.base.join path).mapError .mishap
  let cookie ← (c.cookieFor? address).mapError .mishap
  let request ← requestTo address method cookie payload
  address.checkHost.mapError .mishap
  return (address, request)

/-- The fault of a wire that failed: a server out of reach, or anything else as it is. -/
def wireFault (method path : String) (m : Mishap) : Fault :=
  if m.isTransport then .console (.connection method path (Fault.mishap m).origin none)
  else .mishap m

/-- The client after an answer from an address. -/
def received (c : Client) (address : Http.Address) (r : Http.Response) : Except Mishap Client := do
  r.checkHeaders
  address.checkType
  return { c with cookies := c.cookies.afterResponse address r }

/-- **Sends a request and reads the answer.** A null payload means no body. -/
def send {σ : Type} (wire : Http.Wire σ) (c : Client) (method path : String) (payload : Value)
    (st : σ) : Except Fault Value × Client × σ :=
  match c.request method path payload with
  | .error f => (.error f, c, st)
  | .ok (address, request) =>
    match wire request st with
    | (.error m, st) => (.error (wireFault method path m), c, st)
    | (.ok r, st) =>
      match c.received address r with
      | .error m => (.error (.mishap m), c, st)
      | .ok c =>
        match r.checkRedirect address with
        | .error m => (.error (wireFault method path m), c, st)
        | .ok _ => (readResponse method path r, c, st)

end Client

end AdminConsole
