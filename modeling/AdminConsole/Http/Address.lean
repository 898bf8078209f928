import AdminConsole.Http.Hostname
import AdminConsole.Http.NumericHost
import AdminConsole.Value.Number

/-!
# Http/Address — web addresses

An address has a scheme, a user, a host, a port, a path, and perhaps a query and a fragment. A
request's path is appended to the path of the server's address; segments of one dot are dropped, and
two dots drop the segment before them. Characters that may not stand in an address are written as
bytes with a percent sign, and the name of a host in any script as it is sent.
-/

namespace AdminConsole.Http

/-- An address in its normal form. -/
structure Address where
  scheme : String := ""
  user : String := ""
  /-- The host in lower case; numbers in groups stand without their brackets. -/
  host : String := ""
  /-- The port, if it is not the scheme's own. -/
  port : Option Int := none
  path : String := ""
  query : Option String := none
  fragment : Option String := none
  deriving DecidableEq, Repr, Inhabited

namespace Address

/-! ## Percent encoding -/

/-- A hexadecimal digit in upper case. -/
def upperHex (n : Nat) : Char := (Nat.digitChar n).toUpper

/-- A byte as a percent sign and two digits. -/
def escapeByte (b : UInt8) : List Char := ['%', upperHex (b.toNat / 16), upperHex (b.toNat % 16)]

/-- A character, as it is or as its bytes. -/
def encodeChar (plain : Char → Bool) (c : Char) : List Char :=
  if plain c then [c] else (String.ofList [c]).toUTF8.toList.flatMap escapeByte

/-- A text with every character that is not plain escaped. -/
def encode (plain : Char → Bool) (s : String) : String :=
  String.ofList (s.toList.flatMap (encodeChar plain))

/-- Whether a character stands in a query as it is. -/
def isPlainInQuery (c : Char) : Bool :=
  32 < c.toNat && c.toNat < 127 && !List.contains ['\x22', '#', '<', '>'] c

/-- Whether a character stands in a path as it is. -/
def isPlainInPath (c : Char) : Bool :=
  isPlainInQuery c && !List.contains ['?', '\x60', '\x7b', '\x7d'] c

/-- Whether a character stands in a fragment as it is. -/
def isPlainInFragment (c : Char) : Bool :=
  32 < c.toNat && c.toNat < 127 && !List.contains ['\x22', '<', '>', '\x60'] c

/-- Whether a character stands in a user's name and password as it is. -/
def isPlainInUser (c : Char) : Bool :=
  isPlainInPath c && !List.contains ['/', ';', '=', '@', '[', '\\', ']', '^', '|'] c

/-- Whether a character stands in a host's name as it is. -/
def isPlainInHost (c : Char) : Bool :=
  c.isAlphanum || ['-', '.', '_', '~', '!', '$', '&', '\x27', '(', ')', '*', '+', ',', ';', '=',
    '\x22', '\x60', '\x7b', '\x7d', '%', '|', '\\'].contains c

/-! ## Paths -/

/-- The parts of a path between its slashes. -/
def segments : List Char → List (List Char)
  | [] => [[]]
  | c :: rest =>
    if c == '/' then [] :: segments rest
    else match segments rest with
      | part :: parts => (c :: part) :: parts
      | [] => [[c]]

/-- Adds a segment to the reversed ones before it. -/
def dropDot (before : List (List Char)) (segment : List Char) : List (List Char) :=
  if segment == ['.'] then before
  else if segment == ['.', '.'] then
    if before == [[]] then before else before.tail
  else segment :: before

/-- A path without segments of one or two dots. -/
def withoutDots (path : String) : String :=
  let kept := ((segments path.toList).foldl dropDot []).reverse
  joinTexts "/" (kept.map String.ofList)

/-! ## Reading -/

/-- Whether a character may not stand in an address at all. -/
def isForbidden (c : Char) : Bool := c.toNat < 32 || c.toNat = 127

/-- The fault of a character that may not stand in an address. -/
def forbidden (c : Char) (place : Nat) : Mishap :=
  .badAddress ("Invalid non-printable ASCII character in URL, " ++ Text.quoted (String.ofList [c])
    ++ " at position " ++ Decimal.intText place ++ ".")

/-- Refuses a text with characters that may not stand in an address. -/
def checkChars (s : String) : Except Mishap Unit :=
  match s.toList.find? isForbidden with
  | some c => .error (forbidden c (s.toList.takeWhile (!isForbidden ·)).length)
  | none => .ok ()

/-- The greatest length of an address. -/
def maxLength : Nat := 65536

/-- Whether a character may stand in a scheme. -/
def isSchemeChar (c : Char) : Bool := c.isAlphanum || c == '+' || c == '.' || c == '-'

/-- Splits off a scheme. -/
def takeScheme (cs : List Char) : List Char × List Char :=
  let (name, rest) := cs.span isSchemeChar
  match name, rest with
  | [], ':' :: after => ([], after)
  | c :: _, ':' :: after => if c.isAlpha then (name, after) else ([], cs)
  | _, _ => ([], cs)

/-- Splits off an authority. -/
def takeAuthority : List Char → List Char × List Char
  | '/' :: '/' :: rest => rest.span fun c => c != '/' && c != '?' && c != '#'
  | cs => ([], cs)

/-- Splits off what begins with a mark and ends before the characters of `stop`. -/
def takeMarked (mark : Char) (stop : Char → Bool) : List Char → Option (List Char) × List Char
  | c :: rest =>
    if c == mark then
      let (part, after) := rest.span (!stop ·)
      (some part, after)
    else (none, c :: rest)
  | [] => (none, [])

/-- The port of a scheme. -/
def standardPort? : String → Option Int
  | "http" => some 80
  | "https" => some 443
  | "ws" => some 80
  | "wss" => some 443
  | "ftp" => some 21
  | _ => none

/-- The number of a port, none for the scheme's own. -/
def readPort (scheme : String) (port : List Char) : Except Mishap (Option Int) :=
  if port.isEmpty then .ok none
  else match Value.integerOfText "" port with
    | .ok n => .ok (if standardPort? scheme == some n then none else some n)
    | .error _ =>
      .error (.badAddress ("Invalid port: " ++ Text.quoted (String.ofList port)))

/-- A host's name of ASCII characters; escapes are in lower case too. -/
def readName (cs : List Char) : String :=
  Text.lower (encode isPlainInHost (Text.lower (String.ofList cs)))

/-- The text between brackets around a whole text. -/
def unbracketed? : List Char → Option (List Char)
  | '[' :: rest => if rest.getLast? == some ']' then some rest.dropLast else none
  | _ => none

/-- **The normal form of a host.** -/
def readHost (cs : List Char) : Except Mishap String :=
  let host := String.ofList cs
  let bad (what : String) : Except Mishap String :=
    .error (.badAddress ("Invalid " ++ what ++ ": " ++ Text.quoted host))
  if cs.isEmpty then .ok ""
  else if isQuadLike cs then if isQuad cs then .ok host else bad "IPv4 address"
  else match unbracketed? cs with
    | some inside => if isGrouped inside then .ok (String.ofList inside) else bad "IPv6 address"
    | none =>
      if cs.all fun c => c.toNat < 128 then .ok (readName cs)
      else match Hostname.send (Text.lower host).toList with
        | .ok sent => .ok sent
        | .error _ => bad "IDNA hostname"

/-- Splits a text at the last place of a mark, which both parts are without. -/
def splitAtLast? (mark : Char) (cs : List Char) : Option (List Char × List Char) :=
  match cs.reverse.span (· != mark) with
  | (after, _ :: before) => some (before.reverse, after.reverse)
  | (_, []) => none

/-- Splits off the host at the front of what follows a user. -/
def takeHost (cs : List Char) : List Char × List Char :=
  let bracketed := if cs.head? == some '[' then splitAtLast? ']' cs else none
  match bracketed with
  | some (inside, after) => (inside ++ [']'], after)
  | none => cs.span fun c => c != ':' && c != '@'

/-- The user, the host and the port in an authority. -/
def readAuthority (scheme : String) (cs : List Char) :
    Except Mishap (String × String × Option Int) := do
  let (user, rest) := (splitAtLast? '@' cs).getD ([], cs)
  let (host, rest) := takeHost rest
  let host ← readHost host
  let port ← readPort scheme (if rest.head? == some ':' then rest.drop 1 else rest)
  return (encode isPlainInUser (String.ofList user), host, port)

/-- Whether an address names a place on the net. -/
def hasAuthority (a : Address) : Bool := !a.user.isEmpty || !a.host.isEmpty || a.port.isSome

/-- Refuses a path that cannot follow what is before it. -/
def checkPath (a : Address) (path : List Char) : Except Mishap Unit :=
  if a.hasAuthority then
    if path.isEmpty || path.head? == some '/' then .ok ()
    else .error (.badAddress "For absolute URLs, path must be empty or begin with '/'")
  else if !a.scheme.isEmpty then .ok ()
  else if ['/', '/'].isPrefixOf path then
    .error (.badAddress "Relative URLs cannot have a path starting with '//'")
  else if path.head? == some ':' then
    .error (.badAddress "Relative URLs cannot have a path starting with ':'")
  else .ok ()

/-- Whether dots in the path of an address have a meaning. -/
def isAnchored (a : Address) : Bool := !a.scheme.isEmpty || a.hasAuthority

/-- An address with a path, a query and a fragment that are not in normal form yet. -/
def withParts (a : Address) (path : List Char) (query fragment : Option String) :
    Except Mishap Address := do
  checkPath a path
  let path := String.ofList path
  return { a with
    path := encode isPlainInPath (if a.isAnchored then withoutDots path else path)
    query := query.map (encode isPlainInQuery)
    fragment := fragment.map (encode isPlainInFragment) }

/-- **Reads an address.** -/
def read (s : String) : Except Mishap Address := do
  if maxLength < s.length then .error (.badAddress "URL too long")
  checkChars s
  let (scheme, rest) := takeScheme s.toList
  let (authority, rest) := takeAuthority rest
  let (path, rest) := rest.span fun c => c != '?' && c != '#'
  let (query, rest) := takeMarked '?' (· == '#') rest
  let (fragment, _) := takeMarked '#' (fun _ => false) rest
  let scheme := (String.ofList scheme).toLower
  let (user, host, port) ← readAuthority scheme authority
  withParts { scheme, user, host, port } path (query.map String.ofList)
    (fragment.map String.ofList)

/-! ## Joining and writing -/

/-- Path and query as one text; an empty path is the root. -/
def target (a : Address) : String :=
  (if a.path.isEmpty then "/" else a.path) ++ match a.query with
    | some q => "?" ++ q
    | none => ""

/-- Refuses a part of an address that is too long. -/
def checkLength (part : String) (cs : List Char) : Except Mishap Unit :=
  if maxLength < cs.length then .error (.badAddress ("URL component '" ++ part ++ "' too long"))
  else .ok ()

/-- The address with another path and query. -/
def withTarget (a : Address) (target : String) : Except Mishap Address := do
  let (path, rest) := target.toList.span (· != '?')
  let query := match rest with
    | _ :: q => some q
    | [] => none
  checkLength "path" path
  checkLength "query" (query.getD [])
  withParts a path (query.map String.ofList) a.fragment

/-- The address with a slash at the end of its target. -/
def closed (a : Address) : Except Mishap Address :=
  if a.target.toList.getLast? == some '/' then .ok a else a.withTarget (a.target ++ "/")

/-- **The address of a path on a server**; a fragment of the path is dropped. -/
def join (base : Address) (path : String) : Except Mishap Address := do
  let relative ← read path
  let rest := String.ofList (relative.target.toList.dropWhile (· == '/'))
  base.withTarget (base.target ++ rest)

/-- The user, the host and the port of an address as text. -/
def authority (a : Address) : String :=
  (if a.user.isEmpty then "" else a.user ++ "@")
    ++ (if a.host.toList.contains ':' then "[" ++ a.host ++ "]" else a.host)
    ++ match a.port with
      | some n => ":" ++ Decimal.intText n
      | none => ""

/-- An address as text. -/
def text (a : Address) : String :=
  (if a.scheme.isEmpty then "" else a.scheme ++ ":")
    ++ (if a.authority.isEmpty then "" else "//" ++ a.authority)
    ++ a.path
    ++ (match a.query with
      | some q => "?" ++ q
      | none => "")
    ++ match a.fragment with
      | some f => "#" ++ f
      | none => ""

/-! ## Use -/

/-- Refuses an address that does not begin with a name of the way to reach it. -/
def checkType (a : Address) : Except Mishap Unit :=
  match a.text.toList.span fun c => c != '/' && c != ':' with
  | (_ :: _, ':' :: _) => .ok ()
  | _ => .error (.untypedAddress a.text)

/-- Refuses a host whose name is a code of none. -/
def checkHost (a : Address) : Except Mishap Unit :=
  if Hostname.codeMark.isPrefixOf a.host.toList then
    match Hostname.checkSent a.host.toList with
    | .ok _ => .ok ()
    | .error fault => .error (.badHost fault)
  else .ok ()

end Address

end AdminConsole.Http
