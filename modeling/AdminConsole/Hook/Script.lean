import AdminConsole.Fault.Basic

/-!
# Hook/Script — the rule for scripts

A script that is not empty must begin with the function declaration of its event.
-/

namespace AdminConsole.HookScript

/-- The function declaration with which the scripts of an event begin. -/
def declarations : List (String × String) := [
  ("post_read", "function postRead"),
  ("pre_read", "function preRead")]

/-- Whether a text begins with another. -/
def startsWith (s start : String) : Bool := start.toList.isPrefixOf s.toList

/-- The message for a script that does not begin as its event wants. -/
def wrongStart (event declaration : String) : String :=
  "A " ++ event ++ " script must start with \"" ++ declaration ++ "\""

/-- The message for an event without scripts. -/
def unknownEvent (event : Value) : String := "Unknown hook event '" ++ event.plain ++ "'"

/-- The rule for a text as script. -/
def problem? (event script : String) : Option String :=
  if script.isEmpty then none
  else match declarations.lookup event with
    | none => some (unknownEvent (.text event))
    | some declaration =>
      if startsWith script declaration then none else some (wrongStart event declaration)

/-- **The message of the rule that a script breaks**, if it breaks one. -/
def check (event script : Value) : Except Fault (Option String) :=
  if !script.truthy then .ok none
  else match event with
    | .text e =>
      match script with
      | .text s => .ok (problem? e s)
      | _ =>
        if (declarations.lookup e).isSome then .error (.noAttribute script "startswith")
        else .ok (some (unknownEvent event))
    | .scalar _ => .ok (some (unknownEvent event))
    | _ => .error (.unhashable event)

end AdminConsole.HookScript
