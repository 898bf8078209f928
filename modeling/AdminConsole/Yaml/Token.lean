import AdminConsole.Fault.Mishap

/-!
# Yaml/Token — the words of a settings file

A settings file is read as a list of tokens: scalars, the names and tags before them, and the marks
that open, part and close collections. In block layout the opening and closing marks come from the
indentation.
-/

namespace AdminConsole.Yaml

/-- Why a settings file is not read: it does not keep the grammar, or a value in it cannot be
made. -/
inductive Refusal where
  | malformed
  | mishap (m : Mishap)
  deriving DecidableEq, Repr, Inhabited

/-- What a line with a percent sign in front says. -/
inductive Directive where
  | version (major : Nat)
  | handle (name expansion : String)
  | other
  deriving DecidableEq, Repr, Inhabited

/-- A token. -/
inductive Token where
  | streamEnd
  | directive (d : Directive)
  | documentStart
  | documentEnd
  | blockSequenceStart
  | blockMappingStart
  | blockEnd
  | flowSequenceStart
  | flowSequenceEnd
  | flowMappingStart
  | flowMappingEnd
  | blockEntry
  | flowEntry
  | key
  | value
  | alias (name : String)
  | anchor (name : String)
  /-- A tag: its handle, if it has one, and what follows it. -/
  | tag (handle : Option String) (suffix : String)
  /-- A scalar; only a plain one may stand for something else than text. -/
  | scalar (text : String) (plain : Bool)
  deriving DecidableEq, Repr, Inhabited

end AdminConsole.Yaml
