import AdminConsole.Entries
import AdminConsole.Yaml.Tag
import AdminConsole.Yaml.Token.Stream

/-!
# Yaml/Node — tokens as a tree

The tree of the one document that a settings file holds. Each node has a tag, written or found; an
alias is replaced by the node that its anchor names. Inside that node itself it only says how far up
the node is.
-/

namespace AdminConsole.Yaml

/-- A node of a document. -/
inductive Node where
  /-- A scalar; its number tells it from other scalars with the same text. -/
  | scalar (tag text : String) (number : Nat)
  | sequence (tag : String) (items : List Node)
  | mapping (tag : String) (pairs : List (Node × Node))
  /-- The collection that many levels above the innermost one around this node. -/
  | enclosing (isMapping : Bool) (up : Nat)
  deriving Repr, Inhabited

namespace Node

/-- The tag of a node. -/
def tag : Node → String
  | scalar t _ _ => t
  | sequence t _ => t
  | mapping t _ => t
  | enclosing false _ => Tag.seq
  | enclosing true _ => Tag.map

/-- The node of a value that is left out. -/
def absent : Node := .scalar Tag.null "" 0

end Node

/-! ## Reading -/

/-- What an anchor names: a node, or a collection that is not closed yet, by its level. -/
inductive Anchored where
  | node (n : Node)
  | opened (isMapping : Bool) (level : Nat)

/-- How far tokens have been turned into nodes. -/
structure TreeState where
  tokens : List Token
  /-- Why the tokens end early. -/
  ending : Refusal
  /-- What the tag handles stand for. -/
  handles : List (String × String) := []
  /-- What the anchors name. -/
  anchors : List (String × Anchored) := []
  /-- How many collections are open. -/
  level : Nat := 0

namespace TreeState

/-- The next token; past the last one, the reason why there are no more. -/
def peek (s : TreeState) : Except Refusal Token :=
  match s.tokens with
  | t :: _ => .ok t
  | [] => .error s.ending

/-- The state after the next token. -/
def drop (s : TreeState) : TreeState := { s with tokens := s.tokens.tail }

/-- Takes the next token if it is `t`. -/
def take? (t : Token) (s : TreeState) : Except Refusal (Option TreeState) :=
  match s.peek with
  | .error e => .error e
  | .ok u => .ok (if u = t then some s.drop else none)

/-- Takes the next token, which has to be `t`. -/
def expect (t : Token) (s : TreeState) : Except Refusal TreeState :=
  match s.take? t with
  | .error e => .error e
  | .ok (some s) => .ok s
  | .ok none => .error .malformed

/-! ## Properties of a node -/

/-- Anchor and tag before a node, as they are written. -/
structure Properties where
  anchor : Option String := none
  tag : Option (Option String × String) := none

/-- Takes an anchor. -/
def takeAnchor (s : TreeState) : Except Refusal (Option String × TreeState) :=
  match s.peek with
  | .error e => .error e
  | .ok (.anchor name) => .ok (some name, s.drop)
  | .ok _ => .ok (none, s)

/-- Takes a tag. -/
def takeTag (s : TreeState) : Except Refusal (Option (Option String × String) × TreeState) :=
  match s.peek with
  | .error e => .error e
  | .ok (.tag handle suffix) => .ok (some (handle, suffix), s.drop)
  | .ok _ => .ok (none, s)

/-- Takes an anchor and a tag, in either order. -/
def takeProperties (s : TreeState) : Except Refusal (Properties × TreeState) := do
  let (anchor, s) ← s.takeAnchor
  let (tag, s) ← s.takeTag
  if anchor.isNone && tag.isSome then
    let (anchor, s) ← s.takeAnchor
    return ({ anchor, tag }, s)
  else return ({ anchor, tag }, s)

/-- The full name of a tag; its handle must be known. -/
def expand (s : TreeState) : Option (Option String × String) → Except Refusal (Option String)
  | none => .ok none
  | some (none, suffix) => .ok (some suffix)
  | some (some handle, suffix) =>
    match Entries.get? handle s.handles with
    | some expansion => .ok (some (expansion ++ suffix))
    | none => .error .malformed

/-- Whether a tag leaves the choice open. -/
def isOpen (tag : Option String) : Bool := tag.isNone || tag == some "!"

/-- The tag of a scalar: a written one, or what its text stands for if it is plain. -/
def scalarTag (tag : Option String) (text : String) (plain : Bool) : String :=
  match tag with
  | none => if plain then Tag.ofPlain text else Tag.str
  | some "!" => Tag.ofPlain text
  | some t => t

/-- The tag of a collection. -/
def collectionTag (tag : Option String) (default : String) : String :=
  if isOpen tag then default else tag.getD default

/-- Refuses an anchor that is there already. -/
def checkAnchor (s : TreeState) (anchor : Option String) : Except Refusal Unit :=
  match anchor with
  | some name => if Entries.has name s.anchors then .error .malformed else .ok ()
  | none => .ok ()

/-- Notes an anchored node. -/
def note (s : TreeState) (anchor : Option String) (what : Anchored) : TreeState :=
  match anchor with
  | some name => { s with anchors := Entries.put name what s.anchors }
  | none => s

/-- The node that an alias stands for; there must be such an anchor. -/
def aliased (s : TreeState) (name : String) : Except Refusal (Node × TreeState) :=
  match Entries.get? name s.anchors with
  | some (.node n) => .ok (n, s.drop)
  | some (.opened isMapping level) => .ok (.enclosing isMapping (s.level - level), s.drop)
  | none => .error .malformed

/-- Closes a scalar. -/
def scalarNode (s : TreeState) (anchor : Option String) (tag text : String) :
    Except Refusal (Node × TreeState) := do
  s.checkAnchor anchor
  let node := Node.scalar tag text s.tokens.length
  return (node, s.note anchor (.node node))

/-! ## Nodes -/

/-- Where a node stands, which decides what may begin it. -/
inductive Place where
  | flow
  | block
  /-- In a block mapping, where the dashes of a list need no indentation. -/
  | blockMember
  deriving DecidableEq

/-- Whether the next token is one of some marks, so that a value is left out. -/
def sees (s : TreeState) (marks : List Token) : Except Refusal Bool :=
  match s.peek with
  | .error e => .error e
  | .ok t => .ok (marks.contains t)

/-- How many collections may be open at once. -/
def maxLevel : Nat := 487

/-- The state inside a new collection; only so many may be open. -/
def deeper (s : TreeState) : Except Refusal TreeState :=
  if s.level < maxLevel then .ok { s with level := s.level + 1 }
  else .error (.mishap (.tooDeep ""))

/-- Opens a collection: notes its anchor, which must be new. -/
def openCollection (s : TreeState) (anchor : Option String) (isMapping : Bool) :
    Except Refusal TreeState := do
  s.checkAnchor anchor
  let s ← s.deeper
  return s.note anchor (.opened isMapping s.level)

/-- The state after a collection. -/
def closed (s : TreeState) : TreeState := { s with level := s.level - 1 }

/-- Closes a collection: notes its node. -/
def closeCollection (anchor : Option String) (node : Node) (s : TreeState) : Node × TreeState :=
  (node, s.closed.note anchor (.node node))

mutual

/-- Reads a node. -/
def readNode (place : Place) : Nat → TreeState → Except Refusal (Node × TreeState)
  | 0, _ => .error .malformed
  | fuel + 1, s => do
    match ← s.peek with
    | .alias name => s.aliased name
    | _ =>
      let (p, s) ← s.takeProperties
      let tag ← s.expand p.tag
      match ← s.peek with
      | .scalar text plain => s.drop.scalarNode p.anchor (scalarTag tag text plain) text
      | .flowSequenceStart =>
        let s ← s.drop.openCollection p.anchor false
        let (items, s) ← readFlowItems true fuel s
        return closeCollection p.anchor (.sequence (collectionTag tag Tag.seq) items) s
      | .flowMappingStart =>
        let s ← s.drop.openCollection p.anchor true
        let (pairs, s) ← readFlowPairs true fuel s
        return closeCollection p.anchor (.mapping (collectionTag tag Tag.map) pairs) s
      | t =>
        if t = .blockEntry ∧ place = .blockMember then do
          let s ← s.openCollection p.anchor false
          let (items, s) ← readDashes fuel s
          return closeCollection p.anchor (.sequence (collectionTag tag Tag.seq) items) s
        else if t = .blockSequenceStart ∧ place ≠ .flow then do
          let s ← s.drop.openCollection p.anchor false
          let (items, s) ← readBlockItems fuel s
          return closeCollection p.anchor (.sequence (collectionTag tag Tag.seq) items) s
        else if t = .blockMappingStart ∧ place ≠ .flow then do
          let s ← s.drop.openCollection p.anchor true
          let (pairs, s) ← readBlockPairs fuel s
          return closeCollection p.anchor (.mapping (collectionTag tag Tag.map) pairs) s
        else if p.anchor.isSome || tag.isSome then
          s.scalarNode p.anchor (scalarTag tag "" true) ""
        else .error .malformed

/-- Reads a node, unless one of some marks shows that it is left out. -/
def readUnless (marks : List Token) (place : Place) :
    Nat → TreeState → Except Refusal (Node × TreeState)
  | 0, _ => .error .malformed
  | fuel + 1, s => do
    if ← s.sees marks then return (.absent, s) else readNode place fuel s

/-- Reads a colon and the value after it; without a colon the value is left out. -/
def readMember (marks : List Token) (place : Place) :
    Nat → TreeState → Except Refusal (Node × TreeState)
  | 0, _ => .error .malformed
  | fuel + 1, s => do
    match ← s.take? .value with
    | some s => readUnless marks place fuel s
    | none => return (.absent, s)

/-- Reads the items of a list without an indentation of its own. -/
def readDashes : Nat → TreeState → Except Refusal (List Node × TreeState)
  | 0, _ => .error .malformed
  | fuel + 1, s => do
    match ← s.take? .blockEntry with
    | none => return ([], s)
    | some s =>
      let (item, s) ← readUnless [.blockEntry, .key, .value, .blockEnd] .block fuel s
      let (items, s) ← readDashes fuel s
      return (item :: items, s)

/-- Reads the items of a block list up to its end. -/
def readBlockItems : Nat → TreeState → Except Refusal (List Node × TreeState)
  | 0, _ => .error .malformed
  | fuel + 1, s => do
    match ← s.take? .blockEntry with
    | none =>
      let s ← s.expect .blockEnd
      return ([], s)
    | some s =>
      let (item, s) ← readUnless [.blockEntry, .blockEnd] .block fuel s
      let (items, s) ← readBlockItems fuel s
      return (item :: items, s)

/-- Reads the pairs of a block mapping up to its end. -/
def readBlockPairs : Nat → TreeState → Except Refusal ((List (Node × Node)) × TreeState)
  | 0, _ => .error .malformed
  | fuel + 1, s => do
    match ← s.take? .key with
    | none =>
      let s ← s.expect .blockEnd
      return ([], s)
    | some s =>
      let (key, s) ← readUnless [.key, .value, .blockEnd] .blockMember fuel s
      let (value, s) ← readMember [.key, .value, .blockEnd] .blockMember fuel s
      let (pairs, s) ← readBlockPairs fuel s
      return ((key, value) :: pairs, s)

/-- Reads the items of a flow list up to its end; a pair alone is a mapping. -/
def readFlowItems (first : Bool) : Nat → TreeState → Except Refusal (List Node × TreeState)
  | 0, _ => .error .malformed
  | fuel + 1, s => do
    match ← s.take? .flowSequenceEnd with
    | some s => return ([], s)
    | none =>
      let s ← if first then pure s else s.expect .flowEntry
      match ← s.take? .key with
      | some s =>
        let s ← s.deeper
        let (key, s) ← readUnless [.value, .flowEntry, .flowSequenceEnd] .flow fuel s
        let (value, s) ← readMember [.flowEntry, .flowSequenceEnd] .flow fuel s
        let (items, s) ← readFlowItems false fuel s.closed
        return (.mapping Tag.map [(key, value)] :: items, s)
      | none =>
        match ← s.take? .flowSequenceEnd with
        | some s => return ([], s)
        | none =>
          let (item, s) ← readNode .flow fuel s
          let (items, s) ← readFlowItems false fuel s
          return (item :: items, s)

/-- Reads the pairs of a flow mapping up to its end; a node alone is a key. -/
def readFlowPairs (first : Bool) :
    Nat → TreeState → Except Refusal ((List (Node × Node)) × TreeState)
  | 0, _ => .error .malformed
  | fuel + 1, s => do
    match ← s.take? .flowMappingEnd with
    | some s => return ([], s)
    | none =>
      let s ← if first then pure s else s.expect .flowEntry
      match ← s.take? .key with
      | some s =>
        let (key, s) ← readUnless [.value, .flowEntry, .flowMappingEnd] .flow fuel s
        let (value, s) ← readMember [.flowEntry, .flowMappingEnd] .flow fuel s
        let (pairs, s) ← readFlowPairs false fuel s
        return ((key, value) :: pairs, s)
      | none =>
        match ← s.take? .flowMappingEnd with
        | some s => return ([], s)
        | none =>
          let (key, s) ← readNode .flow fuel s
          let (pairs, s) ← readFlowPairs false fuel s
          return ((key, .absent) :: pairs, s)

end

/-! ## Documents -/

/-- The tag handles that every document knows. -/
def standardHandles : List (String × String) := [("!", "!"), ("!!", Tag.standard)]

/-- Reads directives: at most one version, which must begin with one, and handles, each once. -/
def readDirectives (versioned : Bool) : List Token → TreeState → Except Refusal TreeState
  | .directive d :: rest, s =>
    let s := s.drop
    match d with
    | .version major =>
      if versioned || major != 1 then .error .malformed else readDirectives true rest s
    | .handle name expansion =>
      if Entries.has name s.handles then .error .malformed
      else readDirectives versioned rest { s with handles := s.handles ++ [(name, expansion)] }
    | .other => readDirectives versioned rest s
  | _, s =>
    .ok { s with
      handles := s.handles ++ standardHandles.filter fun (name, _) => !Entries.has name s.handles }

/-- The state after markers of a document's end. -/
def dropEnds (s : TreeState) : TreeState :=
  { s with tokens := s.tokens.dropWhile (· = .documentEnd) }

/-- The steps that are enough to read any node of the tokens that are left. -/
def enough (s : TreeState) : Nat := 4 * s.tokens.length + 4

/-- Reads a document that begins with directives or a marker. -/
def readMarked (s : TreeState) : Except Refusal (Node × TreeState) := do
  let s ← readDirectives false s.tokens s
  let s ← s.expect .documentStart
  match ← s.peek with
  | .directive _ | .documentStart | .documentEnd | .streamEnd => return (.absent, s)
  | _ => readNode .block s.enough s

/-- Reads the only document, if there is one. -/
def readDocument (s : TreeState) : Except Refusal (Option Node) := do
  match ← s.peek with
  | .streamEnd => return none
  | t =>
    let marked := match t with
      | .directive _ | .documentStart => true
      | _ => false
    let (node, s) ←
      if marked then s.readMarked
      else readNode .block s.enough { s with handles := standardHandles }
    let _ ← s.dropEnds.expect .streamEnd
    return some node

end TreeState

/-- **The node of a text**, nothing if the text holds no document. -/
def Node.read (cs : List Char) : Except Refusal (Option Node) :=
  let (ts, ending) := tokens cs
  ({ tokens := ts, ending := ending.getD .malformed } : TreeState).readDocument

end AdminConsole.Yaml
