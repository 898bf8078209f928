import AdminConsole.Value.Number

/-!
# Settings/Check — which settings are usable

Settings are usable if all sections are there, the console has a name and a version, the server's
address is one of the web, and the limits and delays are numbers of the right sign. A number beyond
every double is no wrong setting but a fault.
-/

namespace AdminConsole.Settings

/-- The sections that settings must have. -/
def requiredSections : List String := ["app", "api", "ui", "logging"]

/-- The entries of a section, if it is a mapping. -/
def section? (es : List (Scalar × Value)) (name : String) : Option (List (Scalar × Value)) :=
  (Entries.get? (.text name) es).bind Value.entries?

/-- Whether a text is an address of the web. -/
def isWebAddress (s : String) : Bool :=
  "http://".toList.isPrefixOf s.toList || "https://".toList.isPrefixOf s.toList

/-- Whether the server's address is usable. -/
def hasAddress (api : List (Scalar × Value)) : Bool :=
  match Entries.get? (.text "base_url") api with
  | some (.text s) => isWebAddress s
  | _ => false

/-- A test of a setting; settings that are no number do not pass, and a number beyond every double
is a fault. -/
def judge {α : Type} (test : α → Bool) : Except Mishap α → Except Fault Bool
  | .ok a => .ok (test a)
  | .error m => if m.isInput then .ok false else .error (.mishap m)

/-- Whether a setting passes a test of numbers; a missing one does. -/
def passes {α : Type} (es : List (Scalar × Value)) (key : String) (read : Value → Except Mishap α)
    (test : α → Bool) : Except Fault Bool :=
  match Entries.get? (.text key) es with
  | none => .ok true
  | some v => judge test (read v)

/-- The first result that is not a pass, if there is one. -/
def passesAll : List (Except Fault Bool) → Except Fault Bool
  | [] => .ok true
  | .ok true :: rest => passesAll rest
  | result :: _ => result

/-- The tests of settings whose sections are all there. -/
def checkSections (app api ui : List (Scalar × Value)) : Except Fault Bool :=
  if !(Entries.has (.text "name") app && Entries.has (.text "version") app) then .ok false
  else if !hasAddress api then .ok false
  else passesAll [
    passes api "timeout" Value.toReal (fun x => !x.nonPositive),
    passes api "max_parallel_writes" Value.toInteger (fun n => decide (0 < n)),
    passes ui "spinner_delay_ms" Value.toInteger (fun n => decide (0 ≤ n)),
    passes ui "default_query_limit" Value.toInteger (fun n => decide (0 < n))]

/-- **Whether settings are usable.** -/
def isUsable (settings : Value) : Except Fault Bool :=
  match settings with
  | .map es =>
    if requiredSections.all fun name => (section? es name).isSome then
      checkSections ((section? es "app").getD []) ((section? es "api").getD [])
        ((section? es "ui").getD [])
    else .ok false
  | v => .error (.noAttribute v "get")

end AdminConsole.Settings
