import AdminConsole.Table
import AdminConsole.Value.Basic

/-!
# Ui/Element — what stands on a page

A page is a list of elements in the order in which they are put on it: texts, marks, tables,
containers and widgets. An element has a kind, contents, and options by name.
-/

namespace AdminConsole

/-- Something on a page. -/
structure Element where
  kind : String
  content : List Value := []
  options : Entries String Value := []
  deriving DecidableEq, Repr, Inhabited

namespace Element

/-! ## Texts -/

/-- An element that shows one value. -/
def shows (kind : String) (v : Value) : Element := { kind, content := [v] }

def title (s : String) : Element := shows "title" (.text s)

/-- A header; its text may be a setting of any kind. -/
def header (v : Value) : Element := shows "header" v

def subheader (s : String) : Element := shows "subheader" (.text s)

/-- A line of small text, which may be a setting of any kind. -/
def caption (v : Value) : Element := shows "caption" v

def markdown (s : String) : Element := shows "markdown" (.text s)

def write (s : String) : Element := shows "write" (.text s)

/-- A value as a document that can be unfolded. -/
def json (v : Value) : Element := shows "json" v

/-- A block of code; what stands in it is not kept. -/
def code : Element := { kind := "code" }

/-! ## Marks -/

def info (s : String) : Element := shows "info" (.text s)

def warning (s : String) : Element := shows "warning" (.text s)

def error (s : String) : Element := shows "error" (.text s)

/-- A short notice with an icon. -/
def toast (v : Value) (icon : String) : Element :=
  { kind := "toast", content := [v], options := [("icon", .text icon)] }

/-- The mark of a load that takes long. -/
def spinner (v : Value) : Element := shows "spinner" v

/-! ## Layout -/

def divider : Element := { kind := "divider" }

/-- Columns of equal width. -/
def columns (n : Nat) : Element := shows "columns" (.int n)

/-- Columns of given widths. -/
def columnsOf (widths : List Value) : Element := shows "columns" (.list widths)

def tabs (names : List String) : Element := shows "tabs" (.texts names)

def expander (s : String) : Element := shows "expander" (.text s)

/-- An expander that is open or closed at first. -/
def expanderSet (s : String) (isOpen : Bool) : Element :=
  { expander s with options := [("expanded", .bool isOpen)] }

def popover (s : String) : Element := shows "popover" (.text s)

def form (name : String) : Element := shows "form" (.text name)

/-- A form whose fields are emptied when it is sent. -/
def clearingForm (name : String) : Element :=
  { form name with options := [("clear_on_submit", .bool true)] }

/-- The page's title in the browser, with its icon and layout. -/
def pageConfig (title : Value) : Element :=
  { kind := "set_page_config"
    options := [("page_title", title), ("page_icon", .text "🗄️"), ("layout", .text "wide"),
      ("initial_sidebar_state", .text "expanded")] }

/-! ## Tables -/

/-- A table without its index, as wide as the page. -/
def dataTable (t : Table) : Element :=
  { kind := "dataframe", content := [t.toValue]
    options := [("hide_index", .bool true), ("width", .text "stretch")] }

end Element

end AdminConsole
