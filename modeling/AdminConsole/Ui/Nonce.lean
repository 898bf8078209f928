import AdminConsole.Ui.Page

/-!
# Ui/Nonce — editors that start over

The keys of an editor's widgets hold a number. With the next number the widgets are new ones, so
nothing that was typed into the old ones is kept.
-/

namespace AdminConsole

/-- The fault of counting on from a value that is no number. -/
def notCountable (v : Value) : Fault :=
  .mishap (.other "TypeError" (match v with
    | .text _ | .list _ =>
      "can only concatenate " ++ v.kindName ++ " (not \"int\") to " ++ v.kindName
    | _ => "unsupported operand type(s) for +: '" ++ v.kindName ++ "' and 'int'"))

/-- The number after a noted one. -/
def nextNonce : Value → Except Fault Value
  | .int n => .ok (.int (n + 1))
  | .bool b => .ok (.int (if b then 2 else 1))
  | .real x => .ok (.real (.ofFloat (x.toFloat + 1.0)))
  | v => .error (notCountable v)

namespace Page

variable {σ : Type}

/-- The number of an editor, zero at first. -/
def nonce (key : String) : Page σ Value := do
  return ((← session).note? key).getD (.int 0)

/-- **Makes an editor start over.** -/
def renew (key : String) : Page σ Unit := do
  let next ← ofResult (nextNonce (← nonce key))
  setNote key next

end Page

end AdminConsole
