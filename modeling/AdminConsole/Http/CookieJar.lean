import AdminConsole.Entries
import AdminConsole.Http.CookieSetting

/-!
# Http/CookieJar — the cookies of a client

Cookies lie in their places: by domain, by path, and by name, each in the order in which it came
first. A cookie replaces the one in its place. A place that was once filled keeps its rank when it
is empty.
-/

namespace AdminConsole.Http

/-- The cookies of a client, by domain, path and name. -/
structure CookieJar where
  domains : Entries String (Entries String (Entries String Cookie)) := []
  deriving DecidableEq, Repr, Inhabited

namespace CookieJar

/-- The cookies in their order. -/
def toList (jar : CookieJar) : List Cookie :=
  jar.domains.flatMap fun (_, paths) => paths.flatMap fun (_, names) => names.map Prod.snd

/-- Whether there are no cookies. -/
def isEmpty (jar : CookieJar) : Bool := jar.toList.isEmpty

/-- Puts a cookie in its place. -/
def put (jar : CookieJar) (c : Cookie) : CookieJar :=
  let paths := (Entries.get? c.domain jar.domains).getD []
  let names := (Entries.get? c.path paths).getD []
  ⟨Entries.put c.domain (Entries.put c.path (Entries.put c.name c names) paths) jar.domains⟩

/-- **A cookie that was put into a jar is in it.** -/
theorem mem_toList_put (jar : CookieJar) (c : Cookie) : c ∈ (jar.put c).toList := by
  simp only [toList, put, List.mem_flatMap, List.mem_map]
  exact ⟨_, Entries.mem_put_self _ _ _, _, Entries.mem_put_self _ _ _, _,
    Entries.mem_put_self _ _ _, rfl⟩

/-- Applies a change to the entry under a key. -/
def change {α : Type} (key : String) (f : α → α) (es : Entries String α) : Entries String α :=
  es.map fun (k, v) => (k, if k = key then f v else v)

/-- Takes the cookie out of a place. -/
def drop (jar : CookieJar) (domain path name : String) : CookieJar :=
  ⟨change domain (change path (Entries.erase name)) jar.domains⟩

/-- The cookies for a request as one text, longer paths first. -/
def header? (jar : CookieJar) (a : Address) : Option String :=
  let sent := (jar.toList.filter (·.isFor a)).mergeSort
    fun c d => decide (d.path.length ≤ c.path.length)
  if sent.isEmpty then none else some (joinTexts "; " (sent.map Cookie.text))

/-! ## Answers -/

/-- The settings of an answer with what their attributes say, without those that are broken; none
if nothing in the answer counts. -/
def settings? (headers : List String) : Option (List (CookieSetting × CookieSetting.Terms)) :=
  let settings := headers.filterMap CookieSetting.ofHeader?
  if settings.any CookieSetting.hasAbsurdDate then none
  else settings.foldr (fun s rest => match s.terms, rest with
    | .ok t, some rest => some ((s, t) :: rest)
    | .error .cookie, rest => rest
    | _, _ => none) (some [])

/-- Goes through the settings of an answer: drops what is over at once, and returns what is to be
kept, nothing if a setting makes the answer unreadable. -/
def sort (a : Address) : List (CookieSetting × CookieSetting.Terms) → CookieJar →
    List Cookie → CookieJar × List Cookie
  | [], jar, kept => (jar, kept.reverse)
  | (s, t) :: rest, jar, kept =>
    match s.action t a with
    | .ok (.keep c) => sort a rest jar (c :: kept)
    | .ok (.drop domain path name) => sort a rest (jar.drop domain path name) kept
    | .ok .ignore => sort a rest jar kept
    | .error _ => (jar, [])

/-- **The cookies after an answer** from an address. -/
def afterResponse (jar : CookieJar) (a : Address) (r : Response) : CookieJar :=
  match settings? (r.headers? "set-cookie") with
  | none => jar
  | some settings =>
    let (jar, kept) := sort a settings jar []
    (kept.filter (·.isAllowed a)).foldl put jar

end CookieJar

end AdminConsole.Http
