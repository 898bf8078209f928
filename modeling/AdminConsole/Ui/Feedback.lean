import AdminConsole.Fault.Category
import AdminConsole.Ui.Widget

/-!
# Ui/Feedback — telling the user how it went

Outcomes are shown as short notices, broken rules as lists, and faults as a panel with what may be
tried and the details.
-/

namespace AdminConsole

/-- Kinds of notices. -/
inductive Notice where
  | success
  | info
  | warning
  | error
  deriving DecidableEq, Repr, Inhabited

namespace Notice

/-- The icon of a notice. -/
def icon : Notice → String
  | success => "✅"
  | info => "ℹ️"
  | warning => "⚠️"
  | error => "❌"

/-- The kind with a name; an unknown one is an information. -/
def ofName (name : String) : Notice :=
  match name with
  | "success" => success
  | "warning" => warning
  | "error" => error
  | _ => info

end Notice

namespace Page

variable {σ α : Type}

/-- Shows a notice. -/
def notify (kind : Notice) (text : String) : Page σ Unit := display (.toast (.text text) kind.icon)

/-- Shows a value as a notice. Its kind may be given by name; only one name can be. -/
def notifyAs (kind : List Value) (v : Value) : Page σ Unit := do
  match kind with
  | [] => display (.toast v Notice.info.icon)
  | [k] =>
    let _ ← ofResult k.toKey
    display (.toast v (Notice.ofName k.plain).icon)
  | ks => fail (.mishap (.argumentCount "notify" (ks.length + 1)))

/-! ## Broken rules -/

/-- The line for one rule. -/
def ruleLine (s : String) : String := "  • " ++ s

/-- Shows rules below a heading, if there are any. -/
def showRules (line : String → Element) (heading : String) (rules : Value) : Page σ Unit :=
  if !rules.truthy then pure ()
  else do
    display (line heading)
    let rules ← ofResult rules.walked
    displayAll (rules.map fun r => line (ruleLine r.plain))

/-- Shows broken rules. -/
def showErrors (errors : Value) : Page σ Unit :=
  showRules .error "❌ **Validation Errors:**" errors

/-- **Shows broken rules, then warnings.** -/
def showValidation (errors : Value) (warnings : Value := .null) : Page σ Unit := do
  showErrors errors
  showRules .warning "⚠️ **Warnings:**" warnings

/-! ## Questions -/

/-- The words on the buttons of a question. -/
structure Question where
  key : String
  confirm : String := "Confirm"
  cancel : String := "Cancel"

/-- Asks the user to confirm. There is no answer until a button is pressed. -/
def confirmed? (q : Question) : Page σ (Option Bool) := do
  display (.columns 2)
  let yes ← pressed ((Widget.button q.confirm).primary.keyed (q.key ++ "_confirm"))
  let no ← pressed ((Widget.button q.cancel).keyed (q.key ++ "_cancel"))
  return if yes then some true else if no then some false else none

/-! ## Outcomes -/

/-- **Shows an outcome.** Returns whether it is a success. -/
def showOutcome (o : Outcome) : Page σ Bool := do
  match o.kind with
  | .success => notify .success o.message
  | .validation => notify .warning o.message
  | .remote =>
    notify .error (match o.error with
      | some f => o.message ++ ": " ++ f.text
      | none => o.message)
  | _ => notify .info o.message
  return o.ok

/-- The notices for the failures of a batch, in order of names. -/
def failureNotices (b : BatchOutcome) : List Element :=
  b.failedNames.map fun name =>
    .toast (.text (name ++ ": " ++ ((Entries.get? name b.failed).map Fault.text).getD ""))
      Notice.error.icon

/-- **Shows a batch**: one notice for all of it, and one for each failure. Returns whether nothing
failed. -/
def showBatch (b : BatchOutcome) : Page σ Bool := do
  if b.total = 0 then notify .info b.message; return true
  if b.ok then notify .success b.message; return true
  notify (if b.isPartial then .warning else .error) b.message
  displayAll (failureNotices b)
  return false

/-! ## Faults -/

/-- How a fault is shown: where it arose, and what replaces the friendly message or its category. -/
structure Report where
  context : String
  category : Option Category := none
  message : String := ""
  showDetails : Bool := false

/-- The message at the top of the panel. -/
def Report.headline (r : Report) (f : Fault) : String :=
  if r.message.isEmpty then (r.category.getD (.ofFault f)).message else r.message

/-- What the user may try. -/
def suggestionLines (f : Fault) : List Element :=
  match f.console? with
  | some e =>
    if e.suggestions.isEmpty then []
    else .markdown "**🔧 Suggested Actions:**" :: e.suggestions.map fun s => .markdown ("- " ++ s)
  | none => []

/-- The context of a console error, if it has one. -/
def contextLines (f : Fault) : List Element :=
  match f.console? with
  | some e => if e.context.truthy then [.json e.context] else []
  | none => []

/-- **The panel for a fault.** -/
def faultPanel (r : Report) (f : Fault) : List Element :=
  [.error (r.headline f)] ++ suggestionLines f
    ++ [.expanderSet "🔍 Technical Details" r.showDetails,
      .write ("**Error Type:** " ++ f.kind), .write ("**Context:** " ++ r.context),
      .write ("**Error Message:** " ++ f.text)]
    ++ contextLines f ++ [.code]

/-- Shows a fault. -/
def report (r : Report) (f : Fault) : Page σ Unit := displayAll (faultPanel r f)

/-- Shows a fault that arose somewhere. -/
def reportIn (context : String) (f : Fault) : Page σ Unit := report { context } f

/-- Runs a page; if it ends with a fault, the fault is shown and the fallback is returned. -/
def guarded (r : Report) (fallback : α) (p : Page σ α) : Page σ α := do
  match ← attempt p with
  | .ok a => return a
  | .error f =>
    report r f
    return fallback

end Page

end AdminConsole
