import AdminConsole.Text.Quoted
import AdminConsole.Value.Basic

/-!
# Value/Display — documents as text in messages

A value in a message is written plainly; inside a list or mapping its texts are quoted and its dates
are terms with their parts. The words
for null and the truth values, the brackets and the separators are those of the console's messages.
-/

namespace AdminConsole

/-- Texts with a separator between them. -/
def joinTexts (separator : String) : List String → String
  | [] => ""
  | [s] => s
  | s :: rest => s ++ separator ++ joinTexts separator rest

namespace Scalar

/-- A scalar inside a container. -/
def inner : Scalar → String
  | .null => "None"
  | .bool true => "True"
  | .bool false => "False"
  | .int n => Decimal.intText n
  | .real x => Decimal.realText x
  | .text s => Text.quoted s
  | .bytes bs => Text.quotedBytes bs
  | .date d => d.term
  | .moment t => t.term

/-- A scalar on its own. -/
def plain : Scalar → String
  | .text s => s
  | .date d => d.iso
  | .moment t => t.joined " "
  | s => s.inner

end Scalar

namespace Value

mutual

/-- A value inside a container. -/
def inner : Value → String
  | .scalar s => s.inner
  | .list xs => "[" ++ joinTexts ", " (innerItems xs) ++ "]"
  | .map es => "\x7b" ++ joinTexts ", " (innerEntries es) ++ "\x7d"
  | .set [] => "set()"
  | .enclosing false => "[...]"
  | .enclosing true => "\x7b...\x7d"
  | .set ms => "\x7b" ++ joinTexts ", " (ms.map Scalar.inner) ++ "\x7d"

/-- The items of a list, each as text. -/
def innerItems : List Value → List String
  | [] => []
  | x :: xs => inner x :: innerItems xs

/-- The entries of a mapping, each as text. -/
def innerEntries : List (Scalar × Value) → List String
  | [] => []
  | (k, v) :: rest => (k.inner ++ ": " ++ inner v) :: innerEntries rest

end

/-- **A value on its own**: a text as it is, dates in their standard form, anything else as inside a
container. -/
def plain : Value → String
  | .scalar s => s.plain
  | v => v.inner

/-- The name of a value's kind in messages. -/
def kindName : Value → String
  | .scalar .null => "NoneType"
  | .scalar (.bool _) => "bool"
  | .scalar (.int _) => "int"
  | .scalar (.real _) => "float"
  | .scalar (.text _) => "str"
  | .scalar (.bytes _) => "bytes"
  | .scalar (.date _) => "date"
  | .scalar (.moment _) => "datetime"
  | .list _ => "list"
  | .map _ => "dict"
  | .set _ => "set"
  | .enclosing false => "list"
  | .enclosing true => "dict"

end Value

end AdminConsole
