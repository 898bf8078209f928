import AdminConsole.Http.Address
import AdminConsole.Http.CookieDate
import AdminConsole.Http.Message

/-!
# Http/Cookie — what a server wants to be told again

A cookie is a name and a value that a server sets, for a domain, the paths below one, and perhaps
some ports. It is sent with the requests that it is meant for. A server may set cookies for the
domains that its own name lies in, but not for a whole top domain.
-/

namespace AdminConsole.Http

/-- A cookie. -/
structure Cookie where
  name : String
  value : Option String
  /-- The host it is for, or, with a point in front, a domain with all hosts below it. -/
  domain : String
  path : String
  /-- The ports it is for, none for every port. -/
  ports : Option String := none
  secure : Bool := false
  /-- The version of the rules that it follows; the plain ones are version zero. -/
  version : Int := 0
  /-- Whether the server named the domain. -/
  namesDomain : Bool := false
  /-- Whether the server named the ports. -/
  namesPorts : Bool := false
  deriving DecidableEq, Repr, Inhabited

namespace Cookie

/-! ## Addresses as cookies see them -/

/-- Whether a text ends with another. -/
def endsWith (s ending : String) : Bool := ending.toList.reverse.isPrefixOf s.toList.reverse

/-- A text with a point in front. -/
def dotted (s : String) : String := if s.toList.head? == some '.' then s else "." ++ s

/-- The host of an address with its user, without its port. -/
def host (a : Address) : String :=
  let cs := (Text.lower a.authority).toList
  match Address.splitAtLast? ':' cs with
  | some (before, port) =>
    String.ofList (if !port.isEmpty && port.all Char.isDigit then before else cs)
  | none => String.ofList cs

/-- The host in its domain: a name without a point is a local one. -/
def fullHost (a : Address) : String :=
  let h := host a
  if h.toList.contains '.' then h else h ++ ".local"

/-- The port in the text of an address: what follows the first colon, if that is a number. -/
def port? (a : Address) : Option String :=
  match a.authority.toList.dropWhile (· != ':') with
  | _ :: cs => match Value.integerOfText "" cs with
    | .ok _ => some (String.ofList cs)
    | .error _ => none
  | [] => some "80"

/-- The port that cookies are held to. -/
def port (a : Address) : String := (port? a).getD "80"

/-- Whether a character stands in the path of a cookie as it is. -/
def isPlainInPath (c : Char) : Bool :=
  c.isAlphanum || "_.-~%/;:@&=+$,!*'()".toList.contains c

/-- A text with its escapes in upper case. -/
def withUpperEscapes : List Char → List Char
  | '%' :: a :: b :: rest =>
    if (Text.hexDigit? a).isSome && (Text.hexDigit? b).isSome then
      '%' :: a.toUpper :: b.toUpper :: withUpperEscapes rest
    else '%' :: withUpperEscapes (a :: b :: rest)
  | c :: rest => c :: withUpperEscapes rest
  | [] => []

/-- The path of a cookie: characters that may not stand in it are escaped. -/
def escaped (path : String) : String :=
  String.ofList (withUpperEscapes (Address.encode isPlainInPath path).toList)

/-- The path of an address. -/
def requestPath (a : Address) : String :=
  let path := escaped a.path
  if path.toList.head? == some '/' then path else "/" ++ path

/-- The path up to its last slash, which only the plain rules leave out. -/
def directory (version : Int) (path : String) : String :=
  let kept := path.toList.reverse.dropWhile (· != '/')
  let kept := if version = 0 then kept.drop 1 else kept
  if kept.isEmpty then "/" else String.ofList kept.reverse

/-! ## Which requests a cookie is for -/

/-- Whether an address lies in the domain of a cookie. -/
def isForHost (c : Cookie) (a : Address) : Bool :=
  let domain := if c.domain.isEmpty then "" else dotted c.domain
  let nearly := endsWith (dotted (host a)) domain || endsWith (dotted (fullHost a)) domain
  nearly && (c.version != 0 || endsWith ("." ++ fullHost a) domain)

/-- Whether an address lies below the path of a cookie. -/
def isForPath (c : Cookie) (a : Address) : Bool :=
  let asked := requestPath a
  asked == c.path
    || (c.path.toList.isPrefixOf asked.toList
      && (c.path.toList.getLast? == some '/' || asked.toList[c.path.length]? == some '/'))

/-- Whether a port is in a list with commas. -/
def isListed (port ports : String) : Bool := (ports.splitOn ",").contains port

/-- Whether a cookie is for the port of an address. -/
def isForPort (c : Cookie) (a : Address) : Bool :=
  match c.ports with
  | some ports => ports.isEmpty || isListed (port a) ports
  | none => true

/-- The schemes that carry secure cookies. -/
def secureSchemes : List String := ["https", "wss"]

/-- **Whether a cookie is sent with a request to an address.** -/
def isFor (c : Cookie) (a : Address) : Bool :=
  c.isForHost a && c.isForPath a && (!c.secure || secureSchemes.contains a.scheme) && c.isForPort a

/-- A cookie in a request. -/
def text (c : Cookie) : String :=
  match c.value with
  | some v => c.name ++ "=" ++ v
  | none => c.name

/-! ## Which cookies a server may set -/

/-- Whether a server may set a cookie for a domain that it names: it lies in that domain, and only
a local server names one without a point inside. -/
def mayName (c : Cookie) (a : Address) : Bool :=
  let own := fullHost a
  let bare := String.ofList (match c.domain.toList with
    | '.' :: rest => rest
    | cs => cs)
  let isInside := endsWith own c.domain || endsWith own (bare ++ ".local")
    || own.toList.head? == some '.' || endsWith ("." ++ own) c.domain
  (bare.toList.contains '.' || endsWith own ".local") && (c.version != 0 || isInside)

/-- Whether a port is in a list of numbers with commas; what is behind it need not be a number. -/
def isNumbered (port : String) : List String → Bool
  | [] => false
  | p :: rest =>
    match Value.integerOfText "" p.toList with
    | .ok _ => p == port || isNumbered port rest
    | .error _ => false

/-- Whether a cookie is for the port of the server that sets it. -/
def mayNamePorts (c : Cookie) (a : Address) : Bool :=
  isNumbered (port a) ((c.ports.getD "").splitOn ",")

/-- **Whether a server may set a cookie.** -/
def isAllowed (c : Cookie) (a : Address) : Bool :=
  c.version ≤ 0 && (!c.namesDomain || c.mayName a) && (!c.namesPorts || c.mayNamePorts a)

end Cookie

end AdminConsole.Http
