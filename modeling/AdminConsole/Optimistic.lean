import AdminConsole.Outcome
import AdminConsole.Value.Same

/-!
# Optimistic — showing a change before it is stored

A field shows the proposed value while the write runs. If the write succeeds the value is
committed, if it fails the previous value comes back. Null stands for no value in flight.
-/

namespace AdminConsole

/-- A field with the stored value, the value being written, and the value to go back to. -/
structure OptimisticField where
  committed : Value
  pending : Value := .null
  previous : Value := .null
  label : String := "value"
  deriving DecidableEq, Repr, Inhabited

namespace OptimisticField

/-- Whether a write is running. -/
def inFlight (f : OptimisticField) : Bool := !f.pending.isNull

/-- The value to show. -/
def displayed (f : OptimisticField) : Value := if f.inFlight then f.pending else f.committed

/-- Starts a change; a value that is shown already starts none. -/
def propose (f : OptimisticField) (v : Value) : OptimisticField × Bool :=
  if v.same f.displayed then (f, false)
  else ({ f with previous := f.committed, pending := v }, true)

/-- Ends a change that was stored. -/
def confirm (f : OptimisticField) : OptimisticField :=
  if f.inFlight then { f with committed := f.pending, pending := .null, previous := .null } else f

/-- Ends a change that was not stored. -/
def rollback (f : OptimisticField) : OptimisticField :=
  if f.inFlight then { f with committed := f.previous, pending := .null, previous := .null } else f

/-- What a change asks: a write of the value. The field is shown while it runs. -/
abbrev Writer (σ : Type) := Value → OptimisticField → σ → Except Fault Unit × σ

/-- **Shows a value, writes it, and confirms it or goes back.** -/
def apply {σ : Type} (writer : Writer σ) (f : OptimisticField) (v : Value) (st : σ) :
    Except Fault Outcome × OptimisticField × σ :=
  match f.propose v with
  | (f, false) => (.ok (.skipped (Text.capitalize f.label ++ " unchanged")), f, st)
  | (f, true) =>
    match writer v f st with
    | (.ok (), st) =>
      (.ok (.success (Text.capitalize f.label ++ " changed to \"" ++ v.plain ++ "\"")),
        f.confirm, st)
    | (.error (.console e), st) =>
      (.ok (.remoteFailure ("Failed to change " ++ f.label) (.console e)), f.rollback, st)
    | (.error fault, st) => (.error fault, f, st)

end OptimisticField

end AdminConsole
