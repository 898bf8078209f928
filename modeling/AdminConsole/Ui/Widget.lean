import AdminConsole.Ui.Page
import AdminConsole.Value.Search

/-!
# Ui/Widget — what the user can touch

A widget has a label, and a key if its label does not tell it apart. Its value is the one that the
user gave it; without one, a text field shows the note under its key, if there is one, and every
other widget the value it was made with.

A page takes widgets as they come. It also takes a second one under a key that is there already,
although it cannot be shown then: that the keys on a page differ is not checked here, it has to be
proved of the page.
-/

namespace AdminConsole

/-- Something on the page that has a value. -/
structure Widget where
  kind : String
  label : String
  key : Option String := none
  options : Entries String Value := []
  deriving DecidableEq, Repr, Inhabited

namespace Widget

/-- The name under which the user's values are kept. -/
def name (w : Widget) : String := w.key.getD w.label

/-- The widget on the page. -/
def element (w : Widget) : Element :=
  { kind := w.kind, content := [.text w.label]
    options := match w.key with
      | some key => ("key", .text key) :: w.options
      | none => w.options }

/-- The widget with another option. -/
def withOption (w : Widget) (name : String) (v : Value) : Widget :=
  { w with options := w.options ++ [(name, v)] }

/-! ## Options -/

def keyed (w : Widget) (key : String) : Widget := { w with key := some key }

def primary (w : Widget) : Widget := w.withOption "type" (.text "primary")

def disabled (w : Widget) (b : Bool) : Widget := w.withOption "disabled" (.bool b)

def help (w : Widget) (s : String) : Widget := w.withOption "help" (.text s)

def placeholder (w : Widget) (s : String) : Widget := w.withOption "placeholder" (.text s)

def height (w : Widget) (n : Nat) : Widget := w.withOption "height" (.int n)

/-- A widget as wide as its column. -/
def stretched (w : Widget) : Widget := w.withOption "width" (.text "stretch")

/-- A widget without its label. -/
def unlabelled (w : Widget) : Widget := w.withOption "label_visibility" (.text "collapsed")

/-- A text field that does not show what is typed. -/
def secret (w : Widget) : Widget := w.withOption "type" (.text "password")

/-! ## Kinds -/

def button (label : String) : Widget := { kind := "button", label }

/-- The button that sends a form. -/
def submit (label : String) : Widget := { kind := "form_submit_button", label }

def textField (label : String) : Widget := { kind := "text_input", label }

def textArea (label : String) : Widget := { kind := "text_area", label }

def checkbox (label : String) : Widget := { kind := "checkbox", label }

def toggle (label : String) : Widget := { kind := "toggle", label }

/-- A field for an integer within bounds. -/
def numberField (label : String) (low high : Int) : Widget :=
  { kind := "number_input", label
    options := [("min_value", .int low), ("max_value", .int high), ("step", .int 1)] }

/-- A list from which one option is chosen. -/
def selectBox (label : String) : Widget := { kind := "selectbox", label }

/-- Buttons of which one is chosen. -/
def radio (label : String) : Widget := { kind := "radio", label }

end Widget

namespace Page

variable {σ : Type}

/-- Puts a widget on the page. Returns the user's value, or else the given one. -/
def respond (w : Widget) (value : Value) : Page σ Value := do
  display w.element
  return (← touched? w.name).getD value

/-- Whether a button was pressed. -/
def pressed (w : Widget) : Page σ Bool := do
  return (← respond w (.bool false)).truthy

/-- The value of a checkbox, a toggle or a number field. -/
def chosen (w : Widget) (value : Value) : Page σ Value := respond (w.withOption "value" value) value

/-- What stands in a text field: the note under its key counts before the given value. -/
def typed (w : Widget) (value : Value) : Page σ Value := do
  let s ← session
  let noted := w.key.bind fun key => s.note? key
  respond (w.withOption "value" value) (noted.getD value)

/-- The option chosen among some, at first the one at a place. -/
def selected (w : Widget) (options : List Value) (index : Nat) : Page σ Value :=
  respond ((w.withOption "options" (.list options)).withOption "index" (.int index))
    (options.getD index .null)

/-- The place of a value among some options, the first one if it is not there. -/
def placeOf (v : Value) (options : List Value) : Nat :=
  let i := options.findIdx fun o => o.same v
  if i < options.length then i else 0

/-- A typed text without blanks around it. -/
def trimmed (v : Value) : Page σ String := ofResult (v.typedText.map Text.trim)

/-! ## Tables that can be edited -/

/-- A row with the user's cells in place of those in the table. -/
def editedRow (columns : List String) (cells : List Value) (edits : Value) : List Bool :=
  (columns.zip cells).map fun (c, v) => ((edits.member? c).getD v).truthy

/-- **Puts a table on the page whose cells can be edited.** Returns its rows by name, with the
user's edits. -/
def editTable (t : Table) (key : String) (isDisabled : Bool) :
    Page σ (List (String × List Bool)) := do
  display { kind := "data_editor", content := [t.toValue],
            options := [("key", .text key), ("disabled", .bool isDisabled),
              ("width", .text "stretch")] }
  let edits := (← touched? key).getD .empty
  return ((t.index.getD []).zip t.rows).map fun (name, cells) =>
    (name, editedRow t.columns cells ((edits.member? name).getD .empty))

end Page

end AdminConsole
