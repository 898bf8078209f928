import AdminConsole.Api.Calls
import AdminConsole.Session.Steps
import AdminConsole.Ui.Element

/-!
# Ui/Page — programs that build pages

A page is built in one run: it puts elements on the page, asks the server, and changes the session.
A run ends early when the page asks to be run again, which nothing stops, or with a fault, which
may be caught. Whatever was done before the end of a run stays done.
-/

namespace AdminConsole

/-- Why a run ends early. -/
inductive Halt where
  | rerun
  | fault (f : Fault)
  deriving DecidableEq, Repr, Inhabited

/-- What a run works on: the settings, the session, the state of whatever answers requests, what
stands on the page, and how many choices were drawn for made-up names. -/
structure World (σ : Type) where
  settings : Settings.Cache
  session : Session Client := {}
  server : σ
  shown : List Element := []
  drawn : Nat := 0

/-- What does not change during a run: the wire to the server, the values of the widgets that the
user has touched, and the choices for made-up names. -/
structure Surroundings (σ : Type) where
  wire : Http.Wire σ
  touched : Entries String Value := []
  choice : Nat → Nat := fun _ => 0

/-- A program that builds a page. -/
def Page (σ α : Type) : Type := Surroundings σ → World σ → Except Halt α × World σ

namespace Page

variable {σ α β : Type}

instance : Monad (Page σ) where
  pure a := fun _ w => (.ok a, w)
  bind p f := fun e w => match p e w with
    | (.ok a, w) => f a e w
    | (.error h, w) => (.error h, w)

/-- Runs a page. -/
def run (p : Page σ α) (e : Surroundings σ) (w : World σ) : Except Halt α × World σ := p e w

@[simp] theorem run_pure (a : α) (e : Surroundings σ) (w : World σ) :
    (pure a : Page σ α).run e w = (.ok a, w) := rfl

theorem run_bind (p : Page σ α) (f : α → Page σ β) (e : Surroundings σ) (w : World σ) :
    (p >>= f).run e w = match p.run e w with
      | (.ok a, w) => (f a).run e w
      | (.error h, w) => (.error h, w) := rfl

instance : LawfulMonad (Page σ) := LawfulMonad.mk' (Page σ)
  (fun p => by
    funext e w
    show (match p e w with
      | (.ok a, w) => (Except.ok a, w)
      | (.error h, w) => (.error h, w)) = p e w
    rcases p e w with ⟨_ | _, _⟩ <;> rfl)
  (fun _ _ => rfl)
  (fun p f g => by
    funext e w
    show (match (match p e w with
        | (.ok a, w) => f a e w
        | (.error h, w) => (.error h, w)) with
      | (.ok b, w) => g b e w
      | (.error h, w) => (.error h, w)) = match p e w with
        | (.ok a, w) => (match f a e w with
          | (.ok b, w) => g b e w
          | (.error h, w) => (.error h, w))
        | (.error h, w) => (.error h, w)
    rcases p e w with ⟨_ | _, _⟩ <;> rfl)

/-! ## Ending a run -/

/-- Asks to be run again. -/
def rerun : Page σ α := fun _ w => (.error .rerun, w)

/-- Ends the run with a fault. -/
def fail (f : Fault) : Page σ α := fun _ w => (.error (.fault f), w)

/-- Goes on with a result, or ends the run with its fault. -/
def ofResult : Except Fault α → Page σ α
  | .ok a => pure a
  | .error f => fail f

/-- **Catches the fault of a page**; a wish to be run again passes. -/
def attempt (p : Page σ α) : Page σ (Except Fault α) := fun e w =>
  match p e w with
  | (.ok a, w) => (.ok (.ok a), w)
  | (.error (.fault f), w) => (.ok (.error f), w)
  | (.error .rerun, w) => (.error .rerun, w)

/-! ## The page and the session -/

/-- Puts an element on the page. -/
def display (x : Element) : Page σ Unit := fun _ w => (.ok (), { w with shown := w.shown ++ [x] })

/-- Puts several elements on the page. -/
def displayAll (xs : List Element) : Page σ Unit :=
  fun _ w => (.ok (), { w with shown := w.shown ++ xs })

/-- The session. -/
def session : Page σ (Session Client) := fun _ w => (.ok w.session, w)

/-- Changes the session. -/
def modifySession (step : Session Client → Session Client) : Page σ Unit := fun _ w =>
  (.ok (), { w with session := step w.session })

/-- The note under a name, null if there is none. -/
def note (name : String) : Page σ Value := fun _ w => (.ok (w.session.note name), w)

/-- Writes a note. -/
def setNote (name : String) (v : Value) : Page σ Unit := modifySession (·.setNote name v)

/-- The value of a widget that the user has touched. -/
def touched? (name : String) : Page σ (Option Value) := fun e w =>
  (.ok (Entries.get? name e.touched), w)

/-! ## Settings -/

/-- Works with the settings. -/
def withSettings (step : Settings.Cache → Except Fault α × Settings.Cache) : Page σ α := fun _ w =>
  match step w.settings with
  | (.ok a, c) => (.ok a, { w with settings := c })
  | (.error f, c) => (.error (.fault f), { w with settings := c })

/-- A setting of a section, or a default. -/
def setting (name key : String) (default : Value) : Page σ Value :=
  withSettings fun c => c.value name key default

/-! ## Asking the server -/

/-- Works with the connection and whatever answers it; what it has become of them is kept. -/
def withServer (step : Http.Wire σ → Client × σ → α × (Client × σ)) : Page σ α := fun e w =>
  match w.session.client.get? with
  | none => (.error (.fault (.noAttribute .null "request")), w)
  | some c =>
    match step e.wire (c, w.server) with
    | (a, c, st) =>
      (.ok a, { w with server := st, session := { w.session with client := .held c } })

/-- Makes a call from a connection and whatever answers it. -/
def callWith (wire : Http.Wire σ) (call : Call α) (st : Client × σ) :
    Except Fault α × (Client × σ) :=
  let (answer, c, server) := call.run wire st.1 st.2
  (answer, c, server)

/-- **Asks the server.** A console error is an answer; any other fault ends the run. -/
def ask (call : Call α) : Page σ (Except ConsoleError α) := do
  match ← withServer fun wire st => callWith wire call st with
  | .ok a => pure (.ok a)
  | .error (.console e) => pure (.error e)
  | .error f => fail f

/-- Looks up when the mark of a load would be shown. -/
def awaitMark : Page σ Unit := do
  let _ ← withSettings Settings.Cache.spinnerDelay

/-- Asks the server under the mark of a load. -/
def load (call : Call α) : Page σ (Except ConsoleError α) := do
  awaitMark
  ask call

/-- An action under a mark with a given text, which is shown if the action `isSlow`. -/
def underMark (isSlow : Bool) (text : Value) (action : Page σ α) : Page σ α := do
  if isSlow then display (.spinner text)
  action

/-! ## Made-up names -/

/-- Works with made-up names: the step returns how many it drew. -/
def withNames (step : (Nat → String) → α × Nat) : Page σ α := fun e w =>
  let names (k : Nat) : String := Fields.syntheticName fun i => e.choice (w.drawn + 4 * k + i)
  match step names with
  | (a, drawn) => (.ok a, { w with drawn := w.drawn + 4 * drawn })

end Page

end AdminConsole
