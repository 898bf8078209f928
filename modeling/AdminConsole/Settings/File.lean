import AdminConsole.Settings.Defaults
import AdminConsole.Settings.Merge
import AdminConsole.Yaml.Document

/-!
# Settings/File — settings from a file

The settings file is laid over the built-in settings. A file that is missing, cannot be opened,
does not keep the grammar or holds no mapping leaves the built-in settings as they are; bytes that
are no text and values that cannot be made are faults.

All bytes are decoded before the grammar is looked at. A reader that decodes a file in pieces of 8192
bytes ends at a break of the grammar in one piece before it meets bytes that are no text in a later
one; for files within one piece the two are the same.
-/

namespace AdminConsole.Settings

/-- What stands at the place of the settings file. -/
inductive File where
  | missing
  | directory
  | bytes (bs : List UInt8)
  deriving DecidableEq, Repr, Inhabited

/-- A text with every line ended by a line feed. -/
def withLineFeeds : List Char → List Char
  | '\r' :: '\n' :: rest => '\n' :: withLineFeeds rest
  | '\r' :: rest => '\n' :: withLineFeeds rest
  | c :: rest => c :: withLineFeeds rest
  | [] => []

/-- The settings of a document: a mapping is laid over the built-in ones. -/
def ofDocument (document : Value) : Except Fault Value :=
  if document.isMap then merge defaults document else .ok defaults

/-- **The settings of a file.** -/
def ofFile : File → Except Fault Value
  | .missing => .ok defaults
  | .directory => .ok defaults
  | .bytes bs =>
    match Text.utf8Text? bs with
    | none => .error (.mishap (.undecodable "invalid bytes in the settings file"))
    | some cs =>
      match Yaml.read (withLineFeeds cs) with
      | .ok document => ofDocument document
      | .error .malformed => .ok defaults
      | .error (.mishap m) => .error (.mishap m)

end AdminConsole.Settings
