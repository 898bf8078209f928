import AdminConsole.Http.Cookie

/-!
# Http/CookieSetting — what a server says about a cookie

A header sets one cookie: a name and a value, and attributes between semicolons. Of an attribute
that is repeated the first one counts, but an age replaces a date. A cookie with a broken attribute
is not set; three kinds of attribute are so broken that nothing in the whole answer is set.
-/

namespace AdminConsole.Http

/-- A header that sets a cookie, cut into its parts. -/
structure CookieSetting where
  name : String
  value : Option String
  /-- The attributes with their values; names are in lower case. -/
  attributes : List (String × Option String) := []
  deriving DecidableEq, Repr, Inhabited

/-- Why a cookie is not set. -/
inductive CookieFault where
  /-- This cookie is left out. -/
  | cookie
  /-- No cookie of the answer is set. -/
  | answer
  deriving DecidableEq, Repr, Inhabited

namespace CookieSetting

/-! ## Cutting a header -/

/-- The name and the value of one part, neither with blanks around it. -/
def part (cs : List Char) : String × Option String :=
  let trimmed (cs : List Char) : String := String.ofList (Text.trimBoth Text.isBlank cs)
  match cs.span (· != '=') with
  | (name, _ :: value) => (trimmed name, some (trimmed value))
  | (name, []) => (trimmed name, none)

/-- The setting in a header; none if the cookie has no name. -/
def ofHeader? (header : String) : Option CookieSetting :=
  match (header.toList.splitOnP (· == ';')).map part with
  | (name, value) :: attributes =>
    if name.isEmpty then none
    else
      let named := attributes.filter fun (n, _) => !n.isEmpty
      some { name, value, attributes := named.map fun (n, v) => (Text.lower n, v) }
  | [] => none

/-- A text without a quote at either end. -/
def withoutQuotes (cs : List Char) : List Char :=
  let cs := if cs.head? == some '\x22' then cs.drop 1 else cs
  if cs.getLast? == some '\x22' then cs.dropLast else cs

/-- Whether a date makes the whole answer unreadable. -/
def hasAbsurdDate (s : CookieSetting) : Bool :=
  s.attributes.any fun (n, v) =>
    n == "expires" && CookieDate.isAbsurd (withoutQuotes (v.getD "").toList)

/-! ## Attributes -/

/-- What the attributes say, as far as they are read. -/
structure Terms where
  domain : Option String := none
  path : Option String := none
  port : Option (Option String) := none
  /-- The moment from which on the cookie is over. -/
  ends : Option Int := none
  version : Option String := none
  secure : Option Bool := none
  deriving DecidableEq, Repr, Inhabited

/-- Keeps what is there, or takes a value that must be given. -/
def firstGiven {α : Type} (known : Option α) (given : Option α) : Except CookieFault (Option α) :=
  match known, given with
  | some x, _ => .ok (some x)
  | none, some x => .ok (some x)
  | none, none => .error .cookie

/-- The moment when an age is reached. -/
def ageEnd (age : Option String) : Except CookieFault Int :=
  match age with
  | none => .error .answer
  | some text => match Value.integerOfText "" text.toList with
    | .ok n => .ok (CookieDate.now + n)
    | .error _ => .error .cookie

/-- Reads one attribute. -/
def Terms.read (t : Terms) : String × Option String → Except CookieFault Terms
  | (name, value) => match name with
    | "domain" => (firstGiven t.domain (value.map Text.lower)).map fun domain => { t with domain }
    | "path" => (firstGiven t.path value).map fun path => { t with path }
    | "version" =>
      let bare := value.map fun v => String.ofList (withoutQuotes v.toList)
      (firstGiven t.version bare).map fun version => { t with version }
    | "port" => .ok { t with port := t.port.orElse fun _ => some value }
    | "secure" =>
      let given := match value with
        | some v => !v.isEmpty
        | none => true
      .ok { t with secure := t.secure.orElse fun _ => some given }
    | "expires" =>
      let date := CookieDate.read? (withoutQuotes (value.getD "").toList)
      .ok { t with ends := t.ends.orElse fun _ => date }
    | "max-age" => (ageEnd value).map fun moment => { t with ends := some moment }
    | _ => .ok t

/-- What the attributes of a setting say. -/
def terms (s : CookieSetting) : Except CookieFault Terms := s.attributes.foldlM Terms.read {}

/-! ## The cookie -/

/-- What is to be done with a cookie. -/
inductive Action where
  | keep (c : Cookie)
  /-- It is over: whatever is in its place goes. -/
  | drop (domain path name : String)
  | ignore
  deriving DecidableEq, Repr, Inhabited

/-- The cookie of a setting from an address, in a version of the rules. -/
def cookie (s : CookieSetting) (t : Terms) (version : Int) (a : Address) : Cookie :=
  { name := s.name
    value := s.value
    domain := match t.domain with
      | some d => Cookie.dotted d
      | none => Cookie.fullHost a
    path := match t.path with
      | some p =>
        if p.isEmpty then Cookie.directory version (Cookie.requestPath a) else Cookie.escaped p
      | none => Cookie.directory version (Cookie.requestPath a)
    ports := match t.port with
      | some (some p) => some (String.ofList (p.toList.filter (!CookieDate.isSpace ·)))
      | some none => Cookie.port? a
      | none => none
    secure := t.secure.getD false
    version := if version = 1 then 0 else version
    namesDomain := t.domain.isSome
    namesPorts := (t.port.bind id).isSome }

/-- What is to be done about a setting from an address. A moment beyond every double makes the
whole answer unreadable. -/
def action (s : CookieSetting) (t : Terms) (a : Address) : Except CookieFault Action :=
  match Value.integerOfText "" (t.version.getD "0").toList with
  | .error _ => .ok .ignore
  | .ok version =>
    let c := s.cookie t version a
    match t.ends with
    | none => .ok (.keep c)
    | some moment =>
      if moment ≤ CookieDate.now then .ok (.drop c.domain c.path c.name)
      else if (Binary64.ofInt moment).isFinite then .ok (.keep c)
      else .error .answer

end CookieSetting

end AdminConsole.Http
