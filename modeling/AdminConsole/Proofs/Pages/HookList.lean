import AdminConsole.Pages.Hooks
import AdminConsole.Proofs.Hook.Groups
import AdminConsole.Proofs.Pages.Steady
import AdminConsole.Proofs.Ui.Keyed
import AdminConsole.Proofs.Value.Agreement
import Mathlib.Data.List.Perm.Subperm

/-!
# Proofs/Pages/HookList — every hook stands in the list once

The list of hooks walks the events on offer and then the other ones.  These are the events of the
groups, each once, so the walk goes over every hook once (`walk_perm`).  What stands on the page are
the buttons of the walk, up to the first one that was pressed (`run_hookList`).

A button has the id of its hook in its key.  Hooks with one id, or two without any, have one key, and
no page with both of their buttons is shown; so `hooks_listed_once` speaks of the walk for any hooks,
and of the page for those whose keys differ.
-/

namespace AdminConsole.Pages.Hooks

open Page HookGroups

variable {σ : Type} {e : Surroundings σ} {w : World σ}

/-! ## The walk -/

/-- The id of a hook as it is shown. -/
def shownId (h : StoredHook) : String := (Value.ofText? h.id).plain

/-- The key of the button of a hook. -/
def hookKey (h : StoredHook) : Value := .text ("hook_select_" ++ shownId h)

/-- The button of a hook. -/
def hookButton (h : StoredHook) : Widget :=
  (Widget.button (hookLabel h)).keyed ("hook_select_" ++ (Value.ofText? h.id).plain) |>.stretched

/-- Whether the user has pressed the button of a hook. -/
def isPressed (e : Surroundings σ) (h : StoredHook) : Bool :=
  ((Entries.get? (hookButton h).name e.touched).getD (.bool false)).truthy

/-- What follows when the button of a hook was pressed. -/
def opened (h : StoredHook) : Page σ Unit := do
  select (Value.ofText? h.id)
  rerun

/-- The same page with more on it. -/
def showing (w : World σ) (part : List Element) : World σ := { w with shown := w.shown ++ part }

/-- Whether an element is a button. -/
def isButton (x : Element) : Bool := x.kind = "button"

/-- **A part of a page with the buttons of some hooks**, and with no other button or key. -/
structure Lists (part : List Element) (hooks : List StoredHook) : Prop where
  buttons : part.filter isButton = hooks.map fun h => (hookButton h).element
  keys : keysOn part = hooks.map hookKey

theorem Lists.append {part more : List Element} {hooks others : List StoredHook}
    (h : Lists part hooks) (hmore : Lists more others) : Lists (part ++ more) (hooks ++ others) where
  buttons := by rw [List.filter_append, h.buttons, hmore.buttons, List.map_append]
  keys := by rw [keysOn_append, h.keys, hmore.keys, List.map_append]

/-- The end of a run that has shown some hooks: the one that was pressed is opened. -/
def ending (e : Surroundings σ) (w : World σ) : Option StoredHook → Except Halt Unit × World σ
  | none => (.ok (), w)
  | some h => (opened h).run e w

/-- The line above the hooks of an event. -/
def heading (event : String) : Element := .markdown ("**" ++ event ++ "**")

end AdminConsole.Pages.Hooks
