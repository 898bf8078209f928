import AdminConsole.Proofs.Schema.Wire
import AdminConsole.Schema.Session

/-!
# Proofs/Schema/Editing — a session keeps its schema well-formed

A `Run` of an editing session starts from a schema document and goes through edits at any paths,
discards, and commits that the server answers as it likes.  Each step keeps the edited schema *and*
the acknowledged one well-formed (`Kept`): a discard goes back to the acknowledged one, and a commit
can end with either of them or with what was loaded.  Hence the edited schema is well-formed and is
sent in the server's form (`edited_wellFormed`).
-/

namespace AdminConsole.SchemaSession

open Fields

/-- The document of a schema gives the type `t` to one of its fields. -/
def Names (doc : Value) (t : String) : Prop :=
  ∃ es level, doc = .map es ∧ Entries.get? (.text "fields") es = some level ∧ LevelNames t level

/-- The types that may occur once `docs` were read. -/
def Known (docs : List Value) : String → Prop := Concrete fun t => ∃ doc ∈ docs, Names doc t

/-- A server that answers a load with a document. -/
structure Server (σ : Type) where
  /-- Answers the replacement of the schema of an entity. -/
  replace : String → Value → σ → Except Fault Unit × σ
  /-- Answers with the schema document of an entity. -/
  document : String → σ → Except Fault Value × σ

namespace Server

variable {σ : Type}

/-- The calls of a commit: a document that is loaded is read as a schema. -/
def remote (server : Server σ) : Remote σ where
  replace := server.replace
  load entity st :=
    let r := server.document entity st
    (r.1.bind fun doc => SchemaTree.ofWire doc (.text entity), r.2)

/-- What a commit reads: the document that is loaded once the edited schema was taken. -/
def read (server : Server σ) (s : SchemaSession) (st : σ) : List Value :=
  match server.replace s.entity s.payload st with
  | (.error _, _) => []
  | (.ok (), st) =>
    match (server.document s.entity st).1 with
    | .error _ => []
    | .ok doc => [doc]

end Server

/-- **The runs of an editing session**, with the documents read so far.  The children that a patch
gives are well-formed. -/
inductive Run : List Value → SchemaSession → Prop
  | opened {payload entity : Value} {tree : SchemaTree}
      (read : SchemaTree.ofWire payload entity = .ok tree) : Run [payload] (.opened tree)
  | update {docs : List Value} {s : SchemaSession} (run : Run docs s) (path : KeyPath) {p : Patch}
      (children : ∀ cs, p.children = some (some cs) → WellFormed (Known docs) cs) :
      Run docs (s.update path p)
  | rename {docs : List Value} {s : SchemaSession} (run : Run docs s) (path : KeyPath)
      (name : String) : Run docs (s.rename path name)
  | delete {docs : List Value} {s : SchemaSession} (run : Run docs s) (path : KeyPath) :
      Run docs (s.delete path)
  | add {docs : List Value} {s : SchemaSession} (run : Run docs s) (names : Nat → String)
      (parent : KeyPath) : Run docs (s.add names parent).1
  | discard {docs : List Value} {s : SchemaSession} (run : Run docs s) : Run docs s.discard
  | commit {docs : List Value} {s : SchemaSession} {σ : Type} (run : Run docs s)
      (server : Server σ) (st : σ) :
      Run (server.read s st ++ docs) (s.commit server.remote st).2.1

/-- Both schemas of a session are well-formed. -/
structure Kept (docs : List Value) (s : SchemaSession) : Prop where
  tree : WellFormed (Known docs) s.tree.fields
  baseline : WellFormed (Known docs) s.baseline.fields

variable {docs : List Value} {s : SchemaSession}

theorem known_types (docs : List Value) : ∀ t ∈ Field.types, Known docs t := concrete_types _

/-- Reading more documents takes no type away. -/
theorem Kept.mono (h : Kept docs s) (more : List Value) : Kept (more ++ docs) s := by
  have hk : ∀ t, Known docs t → Known (more ++ docs) t := fun t ht =>
    ht.mono fun ⟨doc, hdoc, hn⟩ => ⟨doc, List.mem_append_right _ hdoc, hn⟩
  exact ⟨h.tree.mono hk, h.baseline.mono hk⟩

/-! ## Reading a schema -/

/-- The fields of a schema are those of its document, or there are none. -/
theorem fields_of_ofWire {payload entity : Value} {tree : SchemaTree}
    (h : SchemaTree.ofWire payload entity = .ok tree) :
    tree.fields = [] ∨ ∃ es level, payload = .map es ∧
      Entries.get? (.text "fields") es = some level ∧ tree.fields = ofWire level := by
  cases payload with
  | map es =>
      rw [SchemaTree.ofWire] at h
      obtain rfl := Except.ok.inj h
      cases hf : Entries.get? (.text "fields") es with
      | none => exact .inl rfl
      | some level =>
          by_cases hl : level.truthy
          · exact .inr ⟨es, level, rfl, hf, congrArg ofWire (if_pos hl)⟩
          · exact .inl (congrArg ofWire (if_neg hl))
  | _ => nomatch h

/-- **A schema that is read is well-formed.** -/
theorem wellFormed_of_ofWire {payload entity : Value} {tree : SchemaTree}
    (h : SchemaTree.ofWire payload entity = .ok tree) (hdoc : payload ∈ docs) :
    WellFormed (Known docs) tree.fields := by
  rcases fields_of_ofWire h with hnil | ⟨es, level, hes, hlevel, hfields⟩
  · rw [hnil]
    exact .nil
  · rw [hfields]
    exact (wellFormed_ofWire level).mono fun t ht =>
      ht.mono fun hn => ⟨payload, hdoc, es, level, hes, hlevel, hn⟩

theorem Kept.opened {payload entity : Value} {tree : SchemaTree}
    (h : SchemaTree.ofWire payload entity = .ok tree) (hdoc : payload ∈ docs) :
    Kept docs (.opened tree) :=
  ⟨wellFormed_of_ofWire h hdoc, wellFormed_of_ofWire h hdoc⟩

/-! ## Single steps -/

theorem Kept.update (h : Kept docs s) (path : KeyPath) {p : Patch}
    (children : ∀ cs, p.children = some (some cs) → WellFormed (Known docs) cs) :
    Kept docs (s.update path p) :=
  ⟨h.tree.update (known_types docs) path children, h.baseline⟩

/-- **A rename** changes nothing, or gives a field of the session another name. -/
theorem rename_cases (s : SchemaSession) (path : KeyPath) (name : String) :
    s.rename path name = s ∨ ∃ f, find? s.tree.fields path = some f ∧
      s.rename path name = s.modify (Fields.rename path { f with name := name } false) := by
  rw [SchemaSession.rename]
  cases hf : find? s.tree.fields path with
  | none => exact .inl rfl
  | some f =>
      by_cases hn : name.isEmpty
      · exact .inl (if_pos hn)
      · exact .inr ⟨f, rfl, if_neg hn⟩

theorem Kept.rename (h : Kept docs s) (path : KeyPath) (name : String) :
    Kept docs (s.rename path name) := by
  rcases s.rename_cases path name with hs | ⟨f, hf, hs⟩
  · rw [hs]
    exact h
  · have found : Sound (Known docs) f := h.tree.sound_of_find? hf
    have renamed : Sound (Known docs) { f with name := name } := ⟨found.type, found.below⟩
    rw [hs]
    exact ⟨h.tree.rename path renamed false, h.baseline⟩

theorem Kept.delete (h : Kept docs s) (path : KeyPath) : Kept docs (s.delete path) :=
  ⟨h.tree.delete path, h.baseline⟩

theorem Kept.add (h : Kept docs s) (names : Nat → String) (parent : KeyPath) :
    Kept docs (s.add names parent).1 :=
  ⟨h.tree.addChild (known_types docs) names parent, h.baseline⟩

theorem Kept.discard (h : Kept docs s) : Kept docs s.discard := ⟨h.baseline, h.baseline⟩

/-- **A commit** leaves the session, acknowledges the edited schema, or starts anew from the one that
was loaded. -/
theorem commit_cases {σ : Type} (remote : Remote σ) (s : SchemaSession) (st : σ) :
    (s.commit remote st).2.1 = s ∨ (s.commit remote st).2.1 = s.acknowledged ∨
      ∃ tree st', remote.replace s.entity s.payload st = (.ok (), st') ∧
        (remote.load s.entity st').1 = .ok tree ∧ (s.commit remote st).2.1 = .opened tree := by
  unfold commit
  dsimp only
  split
  · exact .inl rfl
  · exact .inl rfl
  · rename_i st' hreplace
    split
    · exact .inr (.inl rfl)
    · exact .inr (.inl rfl)
    · rename_i tree _ hload
      exact .inr (.inr ⟨tree, st', hreplace, by rw [hload], rfl⟩)

/-- A schema that is loaded comes from the document that is read. -/
theorem Server.exists_read {σ : Type} {server : Server σ} {st st' : σ} {tree : SchemaTree}
    (hreplace : server.remote.replace s.entity s.payload st = (.ok (), st'))
    (hload : (server.remote.load s.entity st').1 = .ok tree) :
    ∃ doc, server.read s st = [doc] ∧ SchemaTree.ofWire doc (.text s.entity) = .ok tree := by
  have hreplace' : server.replace s.entity s.payload st = (.ok (), st') := hreplace
  have hload' : (server.document s.entity st').1.bind
      (fun doc => SchemaTree.ofWire doc (.text s.entity)) = .ok tree := hload
  rw [Server.read, hreplace']
  cases hdoc : (server.document s.entity st').1 with
  | error f =>
      rw [hdoc] at hload'
      nomatch hload'
  | ok doc =>
      rw [hdoc] at hload'
      exact ⟨doc, by simp only [hdoc], hload'⟩

theorem Kept.commit {σ : Type} (h : Kept docs s) (server : Server σ) (st : σ) :
    Kept (server.read s st ++ docs) (s.commit server.remote st).2.1 := by
  rcases commit_cases server.remote s st with hs | hs | ⟨tree, st', hreplace, hload, hs⟩
  · rw [hs]
    exact h.mono _
  · rw [hs]
    exact ⟨(h.mono _).tree, (h.mono _).tree⟩
  · obtain ⟨doc, hread, htree⟩ := Server.exists_read hreplace hload
    rw [hs, hread]
    exact .opened htree List.mem_cons_self

/-! ## Whole runs -/

theorem Run.kept (run : Run docs s) : Kept docs s := by
  induction run with
  | opened read => exact .opened read List.mem_cons_self
  | update _ path children ih => exact ih.update path children
  | rename _ path name ih => exact ih.rename path name
  | delete _ path ih => exact ih.delete path
  | add _ names parent ih => exact ih.add names parent
  | discard _ ih => exact ih.discard
  | commit _ server st ih => exact ih.commit server st

/-- Every object opens a session. -/
theorem exists_run (es : List (Scalar × Value)) (entity : Value) :
    ∃ tree, SchemaTree.ofWire (.map es) entity = .ok tree ∧ Run [.map es] (.opened tree) :=
  ⟨_, rfl, .opened rfl⟩

/-- **An edited schema is well-formed, and it is sent in the server's form**, with the keys that it
has at every level. -/
theorem edited_wellFormed (run : Run docs s) :
    WellFormed (Known docs) s.tree.fields ∧ WireLevel s.tree.fields s.payload :=
  ⟨run.kept.tree, run.kept.tree.wireLevel⟩

/-- A schema with a type that the editor does not offer, and a field with fields. -/
def accountDocument : Value :=
  .object [("fields", .object [
    ("id", .object [("type", .text "uuid")]),
    ("owner", .object [("type", .text "object"),
      ("fields", .object [("name", .object [("required", .bool true)])])])])]

/-- The schema in `accountDocument`. -/
def accountTree : SchemaTree where
  entity := "account"
  fields := [("id", { name := "id", type := "uuid" }),
    ("owner", { name := "owner", type := "object",
                children := some [("name", { name := "name", required := true })] })]

/-- A session in which the field `name` takes the type `number` and its parent the name `id`. -/
def renamedAccount : SchemaSession :=
  ((opened accountTree).update ["owner", "name"] { type := some "number" }).update ["owner"]
    { name := some "id" }

/-- The parent has taken the place of the field that was called `id`. -/
theorem edited_wellFormed_renamedAccount :
    Run [accountDocument] renamedAccount ∧
      Fields.find? renamedAccount.tree.fields ["id", "name"] =
        some { name := "name", type := "number", required := true } ∧
      Entries.keys renamedAccount.tree.fields = ["id"] ∧
      WellFormed (Known [accountDocument]) renamedAccount.tree.fields ∧
      WireLevel renamedAccount.tree.fields renamedAccount.payload := by
  have read : SchemaTree.ofWire accountDocument (.text "account") = .ok accountTree := by decide
  have opened : Run [accountDocument] (.opened accountTree) := .opened read
  have run : Run [accountDocument] renamedAccount := by
    refine (opened.update ["owner", "name"] ?_).update ["owner"] ?_
    · exact fun cs h => nomatch h
    · exact fun cs h => nomatch h
  exact ⟨run, by decide, by decide, edited_wellFormed run⟩

end AdminConsole.SchemaSession
