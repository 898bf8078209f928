import AdminConsole.Loading
import AdminConsole.Outcome
import AdminConsole.Permission.Flags
import AdminConsole.Value.Number
import AdminConsole.Value.Pairs

/-!
# Permission/Matrix — editing the permissions of one subject

For one subject each entity has a baseline, the permission set that was loaded, and a current set
that is edited. The pending map holds the entities whose current set differs from the baseline,
with that set; it is what a commit sends. A load takes a tag, and only the answer to the latest
load is used.
-/

namespace AdminConsole

/-- Permission sets by entity. -/
abbrev PermissionRows := List (String × Flags)

/-- The permission matrix of one subject. -/
structure Matrix where
  maxParallel : Int := 4
  /-- Whose permissions are edited, null before the first load. -/
  subject : Value := .null
  baseline : PermissionRows := []
  current : PermissionRows := []
  pending : PermissionRows := []
  sequencer : Sequencer := {}
  loading : Bool := false
  loadError : Option Fault := none
  deriving DecidableEq, Repr, Inhabited

namespace Matrix

/-- An empty matrix; at least one write runs at a time. -/
def create (maxParallel : Value) : Except Fault Matrix :=
  match maxParallel.toInteger with
  | .ok n => .ok { maxParallel := max 1 n }
  | .error m => .error (.mishap m)

/-- Whether the cells show what the server has. -/
def loaded (m : Matrix) : Bool := !m.subject.isNull && !m.loading && m.loadError.isNone

/-- Whether there is something to commit. -/
def isDirty (m : Matrix) : Bool := !m.pending.isEmpty

/-- The entities with a cell. -/
def entities (m : Matrix) : List String := Entries.keys m.current

/-- The subject of writes, an empty text if there is none. -/
def writtenSubject (m : Matrix) : Value := m.subject.orElse (.text "")

/-! ## Loading -/

/-- Starts a load: all cells go, and edits are refused until its answer arrives. -/
def beginLoad (m : Matrix) (subject : Value) : Matrix × Int :=
  let (sequencer, tag) := m.sequencer.next
  ({ m with
      subject := subject, baseline := [], current := [], pending := [],
      sequencer := sequencer, loading := true, loadError := none }, tag)

/-- The permission sets of a document by entity. -/
def readRows : Value → Except Fault PermissionRows
  | .map es => readEntries es
  | v => .error (.noAttribute v "items")
where
  /-- Reads the rows one by one. -/
  readEntries : List (Scalar × Value) → Except Fault PermissionRows
    | [] => .ok []
    | (k, v) :: rest => do
      let flags ← v.toMapping
      let rows ← readEntries rest
      return (k.plain, flags) :: rows

/-- Puts loaded rows into all cells. -/
def install (m : Matrix) (rows : PermissionRows) : Matrix :=
  { m with baseline := rows, current := rows, pending := [], loading := false }

/-- **Takes the answer to a load**, if it is the latest one; otherwise nothing changes. -/
def applyBaseline (m : Matrix) (tag : Int) (rows : Value) : Except Fault (Matrix × Bool) :=
  if m.sequencer.isCurrent tag then do
    let rows ← readRows rows
    return (m.install rows, true)
  else .ok (m, false)

/-- Notes that the latest load failed. -/
def failLoad (m : Matrix) (tag : Int) (error : Fault) : Matrix × Bool :=
  if m.sequencer.isCurrent tag then ({ m with loading := false, loadError := some error }, true)
  else (m, false)

/-- The error under which an unexpected failure of a load is kept. -/
def unexpectedAnswer (subject : Value) (f : Fault) : Fault :=
  match f with
  | .console e => .console e
  | f => .console (.general
      ("Unexpected response while loading permissions for '" ++ subject.plain ++ "': " ++ f.text)
      (.object [("subject", subject), ("error_type", .text f.kind)])
      ["Retry loading the permissions", "Check the server logs for details"])

/-- What a load asks: the rows of a subject. It may work on the matrix while it runs. -/
abbrev Loader (σ : Type) := Value → Matrix → σ → Except Fault Value × Matrix × σ

/-- **Loads the rows of a subject into all cells.** -/
def loadBaseline {σ : Type} (loader : Loader σ) (subject : Value) (m : Matrix) (st : σ) :
    Outcome × Matrix × σ :=
  let (m, tag) := m.beginLoad subject
  let (answer, m, st) := loader subject m st
  let failed (f : Fault) : Outcome × Matrix × σ :=
    let error := unexpectedAnswer subject f
    (.remoteFailure ("Failed to load ACLs for \"" ++ subject.plain ++ "\"") error,
      (m.failLoad tag error).1, st)
  match answer with
  | .error f => failed f
  | .ok rows =>
    match m.applyBaseline tag rows with
    | .error f => failed f
    | .ok (m, true) => (.success ("ACLs loaded for \"" ++ subject.plain ++ "\""), m, st)
    | .ok (m, false) =>
      (.skipped ("A newer load for \"" ++ m.subject.plain ++ "\" is in progress"),
        m, st)

/-! ## Editing -/

/-- Brings the pending entry of an entity in line with its cell. -/
def refreshPending (m : Matrix) (entity : String) (current : Flags) : Matrix :=
  if Flags.same? (some current) (Entries.get? entity m.baseline) then
    { m with pending := Entries.erase entity m.pending }
  else { m with pending := Entries.put entity current m.pending }

/-- The fault of editing a cell that cannot be edited. -/
def refuse (m : Matrix) (entity reason : String) : Fault :=
  .console (.matrix (.text entity) reason m.subject)

/-- The reason against a permission that does not exist. -/
def unknownPermission (permission : String) : String := "unknown permission '" ++ permission ++ "'"

/-- **The cell and the permission that two values name.** Only texts name any; for other values this
is the fault of an edit. -/
def named (m : Matrix) (entity permission : Value) : Except Fault (String × String) :=
  let refused (reason : String) : Except Fault (String × String) :=
    .error (.console (.matrix entity reason m.subject))
  match entity, permission with
  | .text e, .text p => .ok (e, p)
  | e, .text p =>
    if !Flags.vocabulary.contains p then refused (unknownPermission p)
    else if m.loading then refused "permissions are still loading"
    else match e.toKey with
      | .ok _ => refused "no permissions loaded for this entity"
      | .error f => .error f
  | _, p => refused (unknownPermission p.plain)

/-- **Turns one flag over.** Returns the new set of the entity. -/
def toggle (m : Matrix) (entity permission : String) : Except Fault (Matrix × Flags) :=
  if !Flags.vocabulary.contains permission then
    .error (m.refuse entity (unknownPermission permission))
  else if m.loading then .error (m.refuse entity "permissions are still loading")
  else match Entries.get? entity m.current with
    | none => .error (m.refuse entity "no permissions loaded for this entity")
    | some flags =>
      let updated := flags.flip (.text permission)
      .ok (({ m with current := Entries.put entity updated m.current }).refreshPending
        entity updated, updated)

/-- **Sets one flag.** A cell that shows the flag already is left as it is. -/
def setPermission (m : Matrix) (entity permission : String) (enabled : Bool) :
    Except Fault (Matrix × Flags) :=
  if !Flags.vocabulary.contains permission then
    .error (m.refuse entity (unknownPermission permission))
  else match Entries.get? entity m.current with
    | some flags =>
      if !m.loading && (flags.stored (.text permission)).same (.bool enabled) then .ok (m, flags)
      else m.toggle entity permission
    | none => m.toggle entity permission

/-- Gives up all edits. -/
def discard (m : Matrix) : Matrix := { m with current := m.baseline, pending := [] }

/-! ## Committing -/

/-- What a commit asks for one entity: a write of its set. It may work on the matrix. -/
abbrev Writer (σ : Type) :=
  Value → String → Flags → Matrix → σ → Except Fault Unit × Matrix × σ

/-- Runs the writes of a snapshot in order and keeps their answers. -/
def runWrites {σ : Type} (writer : Writer σ) (subject : Value) :
    PermissionRows → Matrix → σ → List (String × Flags × Except Fault Unit) × Matrix × σ
  | [], m, st => ([], m, st)
  | (entity, flags) :: rest, m, st =>
    let (answer, m, st) := writer subject entity flags m st
    let (answers, m, st) := runWrites writer subject rest m st
    ((entity, flags, answer) :: answers, m, st)

/-- Takes over a set that was written. -/
def written (m : Matrix) (entity : String) (flags : Flags) : Matrix :=
  let m := { m with baseline := Entries.put entity flags m.baseline }
  match Entries.get? entity m.current with
  | some current => m.refreshPending entity current
  | none => { m with pending := Entries.erase entity m.pending }

/-- Records the answers of writes one by one; a fault that is no console error ends it. -/
def recordWrites : List (String × Flags × Except Fault Unit) → BatchOutcome → Matrix →
    Except Fault BatchOutcome × Matrix
  | [], batch, m => (.ok { batch with succeeded := sortTexts batch.succeeded }, m)
  | (entity, flags, answer) :: rest, batch, m =>
    match answer with
    | .ok () => recordWrites rest (batch.addSuccess entity) (m.written entity flags)
    | .error (.console e) => recordWrites rest (batch.addFailure entity (.console e)) m
    | .error f => (.error f, m)

/-- **Writes every pending entity**, each on its own. -/
def commitPending {σ : Type} (writer : Writer σ) (m : Matrix) (st : σ) :
    Except Fault BatchOutcome × Matrix × σ :=
  let subject := m.writtenSubject
  let (answers, m, st) := runWrites writer subject m.pending m st
  let (result, m) := recordWrites answers { action := "ACL update", subject := subject } m
  (result, m, st)

/-! ## Restoring defaults -/

/-- What a restore asks for one entity: a reset. -/
abbrev Resetter (σ : Type) := Value → String → Matrix → σ → Except Fault Unit × Matrix × σ

/-- Resets entities one by one; a fault that is no console error ends it. -/
def resetAll {σ : Type} (resetter : Resetter σ) (subject : Value) :
    List String → BatchOutcome → Matrix → σ → Except Fault BatchOutcome × Matrix × σ
  | [], batch, m, st => (.ok batch, m, st)
  | entity :: rest, batch, m, st =>
    match resetter subject entity m st with
    | (.ok (), m, st) => resetAll resetter subject rest (batch.addSuccess entity) m st
    | (.error (.console e), m, st) =>
      resetAll resetter subject rest (batch.addFailure entity (.console e)) m st
    | (.error f, m, st) => (.error f, m, st)

/-- The name under which a failed reload is listed. -/
def reloadKey : String := "(reload)"

/-- **Resets entities to the server's defaults**, then loads the rows again if any reset worked. -/
def restoreDefaults {σ : Type} (resetter : Resetter σ) (loader : Loader σ) (entities : List String)
    (m : Matrix) (st : σ) : Except Fault BatchOutcome × Matrix × σ :=
  let subject := m.writtenSubject
  match resetAll resetter subject entities { action := "default ACL restore", subject := subject }
      m st with
  | (.error f, m, st) => (.error f, m, st)
  | (.ok batch, m, st) =>
    if batch.succeeded.isEmpty then (.ok batch, m, st)
    else
      let (outcome, m, st) := loadBaseline loader subject m st
      match outcome.error with
      | some e => (.ok (batch.addFailure reloadKey e), m, st)
      | none => (.ok batch, m, st)

end Matrix

end AdminConsole
