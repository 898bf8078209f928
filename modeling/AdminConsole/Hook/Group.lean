import AdminConsole.Fault.Basic
import AdminConsole.Record.Hook

/-!
# Hook/Group — hooks by event

The hooks of each event, higher priority first and otherwise in their order. The events that the
editor offers come first, others follow in order of first appearance.
-/

namespace AdminConsole.HookGroups

/-- Hooks by event. -/
abbrev Groups := List (String × List StoredHook)

/-- Adds a hook to the group of its event. -/
def add (groups : Groups) (h : StoredHook) : Groups :=
  Entries.put h.event ((Entries.get? h.event groups).getD [] ++ [h]) groups

/-- The groups of the offered events, empty. -/
def initial : Groups := StoredHook.events.map fun e => (e, [])

/-- Hooks by falling priority, those of one priority in their order. -/
def byPriority (hooks : List StoredHook) : List StoredHook :=
  hooks.mergeSort fun a b => decide (b.priority ≤ a.priority)

/-- **The hooks of each event.** -/
def ofHooks (hooks : List StoredHook) : Groups :=
  (hooks.foldl add initial).map fun (event, hs) => (event, byPriority hs)

/-- Checks some documents as stored hooks; the first that is none ends it. -/
def readAll : List Value → Except Fault (List StoredHook)
  | [] => .ok []
  | v :: rest =>
    match StoredHook.ofValue v with
    | .error e => .error (.invalid e)
    | .ok h => do
      let hs ← readAll rest
      return h :: hs

end AdminConsole.HookGroups
