import AdminConsole.Yaml.Token.Block
import AdminConsole.Yaml.Token.Plain

/-!
# Yaml/Token/Stream — a text as tokens

The tokens of a text, up to the first place where it does not keep the grammar. In block layout a
deeper column opens a collection and a lesser one closes it. A key is known as one only when its
colon comes, on the same line and not too far on: its mark is then put before its first token.
-/

namespace AdminConsole.Yaml

/-- A token that may turn out to begin a key. -/
structure KeyCandidate where
  /-- The number of tokens before it. -/
  position : Nat
  /-- Whether a colon has to follow. -/
  required : Bool
  index : Nat
  line : Nat
  column : Nat
  deriving DecidableEq, Repr, Inhabited

/-- How far tokens have been read. -/
structure Lexer where
  cursor : Cursor
  tokens : List Token := []
  /-- The column of the innermost block collection. -/
  indent : Int := -1
  /-- The columns around it. -/
  outer : List Int := []
  /-- How many flow collections are open. -/
  flow : Nat := 0
  /-- Whether a key may begin here. -/
  keyAllowed : Bool := true
  /-- The key candidates by flow level. -/
  candidates : List (Nat × KeyCandidate) := []
  finished : Bool := false
  deriving DecidableEq, Repr, Inhabited

namespace Lexer

/-- The farthest that a colon may be from the start of its key. -/
def maxKeyLength : Nat := 1024

/-! ## Parts of a step -/

/-- Adds a token. -/
def push (l : Lexer) (t : Token) : Lexer := { l with tokens := l.tokens ++ [t] }

/-- Adds a token before others. -/
def insertAt (l : Lexer) (position : Nat) (t : Token) : Lexer :=
  { l with tokens := l.tokens.take position ++ t :: l.tokens.drop position }

/-- Adds a token made of the next `n` characters. -/
def pushMark (l : Lexer) (t : Token) (n : Nat) : Lexer :=
  { l with tokens := l.tokens ++ [t], cursor := l.cursor.advanceBy n }

/-- Whether the current collection is a block one. -/
def inBlock (l : Lexer) : Bool := l.flow == 0

/-- Steps over spaces, comments and line ends. After a line end in block layout a key may begin. -/
def skipBlank : Nat → Lexer → Lexer
  | 0, l => l
  | fuel + 1, l =>
    let c := l.cursor.dropSpaces
    let c := if c.next == some '#' then c.dropLine else c
    match c.takeBreak with
    | (some _, after) =>
      skipBlank fuel { l with cursor := after, keyAllowed := l.keyAllowed || l.inBlock }
    | (none, _) => { l with cursor := c }

/-- Steps over a byte order mark at the start of the text. -/
def skipMark (l : Lexer) : Lexer :=
  if l.cursor.index = 0 && l.cursor.next == some '\ufeff' then
    { l with cursor := l.cursor.advance }
  else l

/-- Whether a candidate can no longer get its colon. -/
def isStale (l : Lexer) (k : KeyCandidate) : Bool :=
  k.line != l.cursor.line || maxKeyLength < l.cursor.index - k.index

/-- Drops candidates that can no longer get their colon; a required one is an error. -/
def dropStale (l : Lexer) : Except Refusal Lexer :=
  if l.candidates.any fun (_, k) => l.isStale k && k.required then malformed
  else .ok { l with candidates := l.candidates.filter fun (_, k) => !l.isStale k }

/-- Drops the candidate of the current flow level; a required one is an error. -/
def dropCandidate (l : Lexer) : Except Refusal Lexer :=
  match Entries.get? l.flow l.candidates with
  | some k =>
    if k.required then malformed
    else .ok { l with candidates := Entries.erase l.flow l.candidates }
  | none => .ok l

/-- Notes that the next token may begin a key. -/
def noteCandidate (l : Lexer) : Except Refusal Lexer :=
  if l.keyAllowed then
    match l.dropCandidate with
    | .error e => .error e
    | .ok l =>
      let k : KeyCandidate :=
        { position := l.tokens.length
          required := l.inBlock && l.indent == (l.cursor.column : Int)
          index := l.cursor.index
          line := l.cursor.line
          column := l.cursor.column }
      .ok { l with candidates := Entries.put l.flow k l.candidates }
  else .ok l

/-- Closes block collections of a greater column. -/
def closeTo (column : Int) : List Int → Lexer → Lexer
  | [], l => l
  | outer :: rest, l =>
    if column < l.indent then
      closeTo column rest { l.push .blockEnd with indent := outer, outer := rest }
    else l

/-- Closes block collections of a greater column; in flow layout columns do not count. -/
def unwind (l : Lexer) (column : Int) : Lexer :=
  if l.inBlock then closeTo column l.outer l else l

/-- Whether a column is deeper than the innermost block collection. -/
def opensAt (l : Lexer) (column : Nat) : Bool := decide (l.indent < (column : Int))

/-- The lexer inside a new block collection. -/
def indented (l : Lexer) (column : Nat) : Lexer :=
  { l with indent := column, outer := l.indent :: l.outer }

/-- Opens a block collection here, if the column is deeper. -/
def openBlock (l : Lexer) (t : Token) : Lexer :=
  if l.opensAt l.cursor.column then (l.indented l.cursor.column).push t else l

/-- Puts the lexer after a token that was read. -/
def take (l : Lexer) : Reading Token → Except Refusal Lexer
  | .ok (t, after) => .ok { l with tokens := l.tokens ++ [t], cursor := after }
  | .error e => .error e

/-! ## Steps, one for each kind of token -/

/-- The end of the text. -/
def readEnd (l : Lexer) : Except Refusal Lexer :=
  match (l.unwind (-1)).dropCandidate with
  | .error e => .error e
  | .ok l => .ok { l.push .streamEnd with keyAllowed := false, candidates := [], finished := true }

/-- A line that closes all collections. -/
def closeAll (l : Lexer) : Except Refusal Lexer :=
  match (l.unwind (-1)).dropCandidate with
  | .error e => .error e
  | .ok l => .ok { l with keyAllowed := false }

def readDirectiveLine (l : Lexer) : Except Refusal Lexer :=
  match l.closeAll with
  | .error e => .error e
  | .ok l => l.take (readDirective l.cursor)

/-- A document marker. -/
def readMarker (l : Lexer) (t : Token) : Except Refusal Lexer :=
  match l.closeAll with
  | .error e => .error e
  | .ok l => .ok (l.pushMark t 3)

/-- The opening of a flow collection. -/
def readFlowStart (l : Lexer) (t : Token) : Except Refusal Lexer :=
  match l.noteCandidate with
  | .error e => .error e
  | .ok l => .ok { l.pushMark t 1 with flow := l.flow + 1, keyAllowed := true }

/-- The closing of a flow collection. -/
def readFlowEnd (l : Lexer) (t : Token) : Except Refusal Lexer :=
  match l.dropCandidate with
  | .error e => .error e
  | .ok l => .ok { l.pushMark t 1 with flow := l.flow - 1, keyAllowed := false }

/-- A comma of a flow collection. -/
def readFlowEntry (l : Lexer) : Except Refusal Lexer :=
  match l.dropCandidate with
  | .error e => .error e
  | .ok l => .ok { l.pushMark .flowEntry 1 with keyAllowed := true }

/-- The dash before an item. -/
def readBlockEntry (l : Lexer) : Except Refusal Lexer :=
  if l.inBlock && !l.keyAllowed then malformed
  else
    let l := if l.inBlock then l.openBlock .blockSequenceStart else l
    match l.dropCandidate with
    | .error e => .error e
    | .ok l => .ok { l.pushMark .blockEntry 1 with keyAllowed := true }

/-- The question mark before a key. -/
def readKey (l : Lexer) : Except Refusal Lexer :=
  if l.inBlock && !l.keyAllowed then malformed
  else
    let l := if l.inBlock then l.openBlock .blockMappingStart else l
    match l.dropCandidate with
    | .error e => .error e
    | .ok l => .ok { l.pushMark .key 1 with keyAllowed := l.inBlock }

/-- Marks the key that a candidate begins, and the mapping that it opens. -/
def confirmKey (l : Lexer) (k : KeyCandidate) : Lexer :=
  let l := { l with candidates := Entries.erase l.flow l.candidates, keyAllowed := false }
  let l := l.insertAt k.position .key
  if l.inBlock && l.opensAt k.column then
    (l.indented k.column).insertAt k.position .blockMappingStart
  else l

/-- The colon before a value. -/
def readValue (l : Lexer) : Except Refusal Lexer :=
  match Entries.get? l.flow l.candidates with
  | some k => .ok ((l.confirmKey k).pushMark .value 1)
  | none =>
    if l.inBlock && !l.keyAllowed then malformed
    else
      let l := if l.inBlock then l.openBlock .blockMappingStart else l
      .ok { l.pushMark .value 1 with keyAllowed := l.inBlock }

/-- A token that may begin a key, and that no key can follow. -/
def readNode (l : Lexer) (read : Cursor → Reading Token) : Except Refusal Lexer :=
  match l.noteCandidate with
  | .error e => .error e
  | .ok l => { l with keyAllowed := false }.take (read l.cursor)

/-- A plain scalar. After a line end in it a key may begin. -/
def readPlainScalar (l : Lexer) : Except Refusal Lexer :=
  match l.noteCandidate with
  | .error e => .error e
  | .ok l =>
    let (t, brokeLine, after) := readPlain (!l.inBlock) l.indent l.cursor
    .ok { l.push t with cursor := after, keyAllowed := brokeLine }

/-- A literal or folded scalar. -/
def readBlockScalar (l : Lexer) (fold : Bool) : Except Refusal Lexer :=
  match l.dropCandidate with
  | .error e => .error e
  | .ok l => { l with keyAllowed := true }.take (readBlock fold l.indent l.cursor)

/-- Reads the name of an alias or anchor into a token. -/
def named (make : String → Token) (c : Cursor) : Reading Token :=
  (readAnchor c).map fun (name, after) => (make name, after)

/-- Whether a plain scalar may begin here. -/
def plainMayBegin (l : Lexer) (c : Char) : Bool :=
  let special := ['-', '?', ':', ',', '[', ']', '\x7b', '\x7d', '#', '&', '*', '!', '|', '>',
    '\x27', '\x22', '%', '@', '\x60']
  !(isBlankChar c || isBreak c || special.contains c)
    || (!endsWord (l.cursor.peek 1) && (c == '-' || (l.inBlock && (c == '?' || c == ':'))))

/-- Whether the character here is a mark: in flow layout always, in block layout before a blank. -/
def isMark (l : Lexer) : Bool := !l.inBlock || endsWord (l.cursor.peek 1)

/-- Reads the token that begins with `c`. -/
def readToken (l : Lexer) (c : Char) : Except Refusal Lexer :=
  let atStart := l.cursor.column = 0
  if c == '%' && atStart then l.readDirectiveLine
  else if c == '-' && atStart && l.cursor.seesMarker then l.readMarker .documentStart
  else if c == '.' && atStart && l.cursor.seesMarker then l.readMarker .documentEnd
  else if c == '[' then l.readFlowStart .flowSequenceStart
  else if c == '\x7b' then l.readFlowStart .flowMappingStart
  else if c == ']' then l.readFlowEnd .flowSequenceEnd
  else if c == '\x7d' then l.readFlowEnd .flowMappingEnd
  else if c == ',' then l.readFlowEntry
  else if c == '-' && endsWord (l.cursor.peek 1) then l.readBlockEntry
  else if c == '?' && l.isMark then l.readKey
  else if c == ':' && l.isMark then l.readValue
  else if c == '*' then l.readNode (named .alias)
  else if c == '&' then l.readNode (named .anchor)
  else if c == '!' then l.readNode readTag
  else if c == '|' && l.inBlock then l.readBlockScalar false
  else if c == '>' && l.inBlock then l.readBlockScalar true
  else if c == '\x27' then l.readNode (readQuoted false)
  else if c == '\x22' then l.readNode (readQuoted true)
  else if l.plainMayBegin c then l.readPlainScalar
  else malformed

/-- **Reads the next token**, with the marks that stand before it. -/
def step (l : Lexer) : Except Refusal Lexer :=
  let l := l.skipMark
  match (skipBlank (l.cursor.rest.length + 1) l).dropStale with
  | .error e => .error e
  | .ok l =>
    let l := l.unwind l.cursor.column
    match l.cursor.next with
    | none => l.readEnd
    | some c => l.readToken c

/-- The tokens that are sure: from the first one on that may yet turn out to begin a key, a token is
told only when what follows it has been read. -/
def sure (l : Lexer) : List Token :=
  let waiting := (l.candidates.filter fun (_, k) => !l.isStale k).map fun (_, k) => k.position
  l.tokens.take (waiting.foldl min l.tokens.length)

/-- Takes steps up to the end of the text or the first error. -/
def run : Nat → Lexer → List Token × Option Refusal
  | 0, l => (l.tokens, some .malformed)
  | fuel + 1, l =>
    match l.step with
    | .error e => (l.sure, some e)
    | .ok l => if l.finished then (l.tokens, none) else run fuel l

end Lexer

/-- Whether a character may stand in a settings file. -/
def isAllowed (c : Char) : Bool :=
  let n := c.toNat
  n == 9 || n == 10 || n == 13 || (32 ≤ n && n ≤ 126) || n == 0x85 || (0xa0 ≤ n && n ≤ 0xfffd)
    || 0x10000 ≤ n

/-- **The tokens of a text**, and why they end early, if they do. -/
def tokens (cs : List Char) : List Token × Option Refusal :=
  if cs.all isAllowed then Lexer.run (cs.length + 2) { cursor := .start cs }
  else ([], some .malformed)

end AdminConsole.Yaml
