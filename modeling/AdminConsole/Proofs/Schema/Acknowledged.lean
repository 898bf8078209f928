import AdminConsole.Proofs.Schema.Codec
import AdminConsole.Proofs.Schema.Detection
import AdminConsole.Proofs.Schema.Distinct

/-!
# Proofs/Schema/Acknowledged — the baseline is what the server acknowledged

A commit makes one or two calls, and each can fail.  `Remote.noted` keeps the calls with their
answers, `lastContent` reads off them what the server acknowledged last, and `Exchanged` are the
runs of a session along which the calls are kept.

* A commit ends in one of three ways (`commit_noted`): the replacement is refused and nothing
  happens, or the schema cannot be loaded again and the edited one becomes the baseline, or the
  loaded one takes the place of both.
* Hence the baseline is always what was last acknowledged, and a schema that the server stores and
  returns is sent as before (`baseline_acknowledged`).
-/

namespace AdminConsole

namespace Fields

variable {fields : Fields} {key : String} {f : Field}

/-! ## Writing a tree again -/

/-- **A tree has the same content as itself**: no key is looked up in the wrong place. -/
theorem Distinct.agrees_self (h : Distinct fields) :
    fields.toWire.agrees fields.toWire = true := by
  induction h with
  | @mk fields keys below ih =>
      rw [toWire, Value.agrees_map_iff (textual_levelToWire keys) (textual_levelToWire keys)]
      intro k
      cases hk : Entries.get? k (levelToWire fields) with
      | none => exact .none
      | some doc =>
          obtain ⟨key, f, hf, rfl, rfl⟩ := mem_levelToWire (Entries.mem_of_get? hk)
          exact .some ((agrees_wireMembers_iff key).mpr ⟨.refl f, ih key f hf⟩)

/-- A field that was read after it was written is written the same, if the level below it is. -/
theorem wireMembers_readField (key : String)
    (below : toWire (ofWire f.subfields.toWire) = f.subfields.toWire) :
    wireMembers key (readField key (wireMembers key f)) = wireMembers key f := by
  rw [readField_wireMembers_eq]
  refine wireMembers_congr ?_ rfl ?_
  · exact if_neg fun he => typeText_ne_empty f (String.isEmpty_iff.mp he)
  · by_cases hnil : f.subfields = []
    · rw [if_pos hnil, hnil]
      rfl
    · rw [if_neg hnil]
      exact below

/-- **What is written, read and written again is the same document.** -/
theorem Distinct.toWire_ofWire (h : Distinct fields) :
    toWire (ofWire fields.toWire) = fields.toWire := by
  induction h with
  | @mk fields keys below ih =>
      have hread : ofWire fields.toWire =
          fields.map fun e => (e.1, readField e.1 (wireMembers e.1 e.2)) := by
        rw [toWire, ofWire,
          levelFromWire_map (fun e => readField e.1 (wireMembers e.1 e.2)) fun _ _ => rfl]
        refine Entries.ofPairs_of_nodup ?_
        rwa [Entries.keys, List.map_map]
      rw [hread, toWire, toWire, levelToWire_eq, levelToWire_eq, List.map_map]
      refine congrArg Value.map (List.map_congr_left fun e he => ?_)
      simp only [Function.comp_apply, fieldToWire_eq, wireMembers_readField e.1 (ih e.1 e.2 he)]

end Fields

namespace SchemaSession

open Fields

/-! ## Calls and their answers -/

/-- A call to the server with its answer. -/
inductive Exchange where
  | replaced (entity : String) (payload : Value) (answer : Except Fault Unit)
  | loaded (entity : String) (answer : Except Fault SchemaTree)

/-- The content that a call acknowledged. -/
def Exchange.content? : Exchange → Option Value
  | .replaced _ payload (.ok ()) => some payload
  | .loaded _ (.ok tree) => some tree.fields.toWire
  | _ => none

/-- **The content that was last acknowledged**, `start` before there was any; the latest call comes
first. -/
def lastContent (start : Value) (log : List Exchange) : Value :=
  (log.findSome? Exchange.content?).getD start

variable {σ : Type}

/-- The same calls, kept with their answers. -/
def Remote.noted (remote : Remote σ) : Remote (σ × List Exchange) where
  replace entity payload st :=
    let (answer, st') := remote.replace entity payload st.1
    (answer, st', .replaced entity payload answer :: st.2)
  load entity st :=
    let (answer, st') := remote.load entity st.1
    (answer, st', .loaded entity answer :: st.2)

/-- **Each call returns or raises a console error**, and what is loaded is a tree of mappings. -/
structure Remote.Answers (remote : Remote σ) : Prop where
  replace : ∀ entity payload st, (remote.replace entity payload st).1 = .ok () ∨
    ∃ e, (remote.replace entity payload st).1 = .error (.console e)
  load : ∀ entity st,
    (∃ tree, (remote.load entity st).1 = .ok tree ∧ tree.fields.Distinct) ∨
      ∃ e, (remote.load entity st).1 = .error (.console e)

/-- **The runs of a session** that was opened on `start`, with the calls so far.  The children that
a patch gives are a tree of mappings. -/
inductive Exchanged (start : SchemaTree) : SchemaSession → List Exchange → Prop
  | opened : Exchanged start (.opened start) []
  | update {s : SchemaSession} {log : List Exchange} (run : Exchanged start s log) (path : KeyPath)
      {p : Patch} (children : ∀ cs, p.children = some (some cs) → Distinct cs) :
      Exchanged start (s.update path p) log
  | rename {s : SchemaSession} {log : List Exchange} (run : Exchanged start s log) (path : KeyPath)
      (name : String) : Exchanged start (s.rename path name) log
  | delete {s : SchemaSession} {log : List Exchange} (run : Exchanged start s log)
      (path : KeyPath) : Exchanged start (s.delete path) log
  | add {s : SchemaSession} {log : List Exchange} (run : Exchanged start s log)
      (names : Nat → String) (parent : KeyPath) : Exchanged start (s.add names parent).1 log
  | discard {s : SchemaSession} {log : List Exchange} (run : Exchanged start s log) :
      Exchanged start s.discard log
  | commit {s : SchemaSession} {log : List Exchange} {σ : Type} {remote : Remote σ}
      (run : Exchanged start s log) (answers : remote.Answers) (st : σ) :
      Exchanged start (s.commit remote.noted (st, log)).2.1
        (s.commit remote.noted (st, log)).2.2.2

/-! ## One commit -/

variable {start : SchemaTree} {s : SchemaSession} {log : List Exchange}

/-- **How a commit ends**: refused, taken but not loaded again, or loaded. -/
inductive Committed (s : SchemaSession) (log : List Exchange) : SchemaSession → List Exchange → Prop
  | refused (f : Fault) : Committed s log s (.replaced s.entity s.payload (.error f) :: log)
  | unread (f : Fault) : Committed s log s.acknowledged
      (.loaded s.entity (.error f) :: .replaced s.entity s.payload (.ok ()) :: log)
  | reloaded {tree : SchemaTree} (distinct : tree.fields.Distinct) :
      Committed s log (.opened tree)
        (.loaded s.entity (.ok tree) :: .replaced s.entity s.payload (.ok ()) :: log)

/-- **A commit returns**, and ends in one of the three ways. -/
theorem commit_noted {remote : Remote σ} (answers : remote.Answers) (s : SchemaSession) (st : σ)
    (log : List Exchange) : ∃ outcome s' st' log',
      s.commit remote.noted (st, log) = (.ok outcome, s', st', log') ∧ Committed s log s' log' := by
  have hreplace := answers.replace s.entity s.payload st
  rcases hr : remote.replace s.entity s.payload st with ⟨answer, st₁⟩
  have hnoted : remote.noted.replace s.entity s.payload (st, log) =
      (answer, st₁, .replaced s.entity s.payload answer :: log) := by
    simp only [Remote.noted, hr]
  rw [hr] at hreplace
  unfold commit
  rcases hreplace with rfl | ⟨e, rfl⟩
  · have hload := answers.load s.entity st₁
    rcases hl : remote.load s.entity st₁ with ⟨answer, st₂⟩
    have hnoted' (log : List Exchange) : remote.noted.load s.entity (st₁, log) =
        (answer, st₂, .loaded s.entity answer :: log) := by
      simp only [Remote.noted, hl]
    rw [hl] at hload
    simp only [hnoted, hnoted']
    rcases hload with ⟨tree, rfl, hdistinct⟩ | ⟨e, rfl⟩
    · exact ⟨_, _, _, _, rfl, .reloaded hdistinct⟩
    · exact ⟨_, _, _, _, rfl, .unread _⟩
  · simp only [hnoted]
    exact ⟨_, _, _, _, rfl, .refused _⟩

/-- The schemas of a session are trees of mappings, and the baseline is what was acknowledged. -/
structure Mirrored (start : SchemaTree) (s : SchemaSession) (log : List Exchange) : Prop where
  tree : s.tree.fields.Distinct
  baseline : s.baseline.fields.Distinct
  content : s.baseline.fields.toWire = lastContent start.fields.toWire log

theorem Mirrored.committed {s' : SchemaSession} {log' : List Exchange} (h : Mirrored start s log)
    (committed : Committed s log s' log') : Mirrored start s' log' := by
  cases committed with
  | refused f => exact ⟨h.tree, h.baseline, h.content⟩
  | unread f => exact ⟨h.tree, h.tree, rfl⟩
  | reloaded distinct => exact ⟨distinct, distinct, rfl⟩

/-- A session with its schema as the baseline is clean. -/
theorem isDirty_of_eq (h : s.tree.fields.Distinct) (eq : s.tree = s.baseline) :
    s.isDirty = false := by
  have hself : s.payload.same s.tree.fields.toWire = true := h.agrees_self
  rw [isDirty, ← eq, hself]
  rfl

/-! ## Runs -/

theorem Mirrored.rename (h : Mirrored start s log) (path : KeyPath) (name : String) :
    Mirrored start (s.rename path name) log := by
  rcases s.rename_cases path name with hs | ⟨f, hf, hs⟩
  · rw [hs]
    exact h
  · have below : Distinct f.subfields := h.tree.subfields_of_find? path hf
    rw [hs]
    exact ⟨h.tree.rename path (f := { f with name := name }) below false, h.baseline, h.content⟩

theorem Exchanged.mirrored (mapping : start.fields.Distinct) (run : Exchanged start s log) :
    Mirrored start s log := by
  induction run with
  | opened => exact ⟨mapping, mapping, rfl⟩
  | update _ path children ih => exact ⟨ih.tree.update path children, ih.baseline, ih.content⟩
  | rename _ path name ih => exact ih.rename path name
  | delete _ path ih => exact ⟨ih.tree.delete path, ih.baseline, ih.content⟩
  | add _ names parent ih => exact ⟨ih.tree.addChild names parent, ih.baseline, ih.content⟩
  | discard _ ih => exact ⟨ih.baseline, ih.baseline, ih.content⟩
  | @commit s log _ _ _ answers st ih =>
      obtain ⟨outcome, s', st', log', hcommit, committed⟩ := commit_noted answers s st log
      rw [hcommit]
      exact ih.committed committed

/-! ## A server that returns what it stored -/

/-- **A server that stores what it takes**, and answers with it. -/
structure Server.Stores (server : Server σ) (stored : σ → String → Value) : Prop where
  replace : ∀ entity payload st,
    ((server.replace entity payload st).1 = .ok () ∧
      stored (server.replace entity payload st).2 entity = payload) ∨
    ∃ e, (server.replace entity payload st).1 = .error (.console e)
  document : ∀ entity st,
    (∃ es, (server.document entity st).1 = .ok (.map es) ∧
      Entries.get? (.text "fields") es = some (stored st entity)) ∨
    ∃ e, (server.document entity st).1 = .error (.console e)

/-- The fields of a schema that is read from an object. -/
theorem exists_ofWire_map {es : List (Scalar × Value)} {fields : Value} (entity : Value)
    (h : Entries.get? (.text "fields") es = some fields) : ∃ tree,
      SchemaTree.ofWire (.map es) entity = .ok tree ∧
        tree.fields = ofWire (fields.orElse .empty) := by
  refine ⟨_, rfl, ?_⟩
  rw [h]
  rfl

/-- **A stored schema that is loaded again is sent as it was.** -/
theorem payload_commit_of_stores {server : Server σ} {stored : σ → String → Value}
    (stores : server.Stores stored) (h : s.tree.fields.Distinct) (st : σ) :
    (s.commit server.remote st).2.1.payload = s.payload := by
  rcases commit_cases server.remote s st with hs | hs | ⟨tree, st', hreplace, hload, hs⟩
  · rw [hs]
  · rw [hs]
    rfl
  · rw [hs]
    have hreplace' : server.replace s.entity s.payload st = (.ok (), st') := hreplace
    have hstored : stored st' s.entity = s.payload := by
      rcases stores.replace s.entity s.payload st with ⟨-, hstored⟩ | ⟨e, he⟩
      · rwa [hreplace'] at hstored
      · rw [hreplace'] at he
        cases he
    have hload' : (server.document s.entity st').1.bind
        (fun doc => SchemaTree.ofWire doc (.text s.entity)) = .ok tree := hload
    rcases stores.document s.entity st' with ⟨es, hdoc, hfields⟩ | ⟨e, he⟩
    · -- what was stored is the payload, and reading it and writing it again gives it back
      obtain ⟨tree', hread, htree⟩ := exists_ofWire_map (.text s.entity) hfields
      rw [hdoc] at hload'
      obtain rfl : tree' = tree := Except.ok.inj (hread.symm.trans hload')
      have hempty : s.payload.orElse .empty = s.payload := by
        rw [payload, toWire, Value.orElse]
        cases s.tree.fields with
        | nil => rfl
        | cons e rest => rfl
      change tree'.fields.toWire = s.payload
      rw [htree, hstored, hempty]
      exact h.toWire_ofWire
    · rw [he] at hload'
      cases hload'

/-- **No commit loses an edit, and the baseline is what the server has.**  After every run of edits,
discards and commits, whatever failed:

* the baseline is written as the content that the server last acknowledged;
* a commit returns, and it sends the edited schema.  If that is refused, nothing is loaded and the
  session stays as it is; if it is taken, the session is clean, and its schema is the edited one or
  the one that was loaded;
* against a server that returns what it stored, the next commit sends the same payload again. -/
theorem baseline_acknowledged (mapping : start.fields.Distinct) (run : Exchanged start s log) :
    s.baseline.fields.toWire = lastContent start.fields.toWire log ∧
    (∀ {σ : Type} {remote : Remote σ}, remote.Answers → ∀ st, ∃ outcome s' st' log',
      s.commit remote.noted (st, log) = (.ok outcome, s', st', log') ∧
      ((∃ f, log' = .replaced s.entity s.tree.fields.toWire (.error f) :: log ∧ s' = s) ∨
        ∃ answer, log' = .loaded s.entity answer ::
            .replaced s.entity s.tree.fields.toWire (.ok ()) :: log ∧
          s'.isDirty = false ∧
          s'.tree = match answer with
            | .ok tree => tree
            | .error _ => s.tree)) ∧
    ∀ {σ : Type} {server : Server σ} {stored : σ → String → Value}, server.Stores stored →
      ∀ st, (s.commit server.remote st).2.1.payload = s.payload := by
  have h := run.mirrored mapping
  refine ⟨h.content, fun answers st => ?_,
    fun stores st => payload_commit_of_stores stores h.tree st⟩
  obtain ⟨outcome, s', st', log', hcommit, committed⟩ := commit_noted answers s st log
  refine ⟨outcome, s', st', log', hcommit, ?_⟩
  have h' := h.committed committed
  cases committed with
  | refused f => exact .inl ⟨f, rfl, rfl⟩
  | unread f => exact .inr ⟨.error f, rfl, isDirty_of_eq h'.tree rfl, rfl⟩
  | reloaded => exact .inr ⟨_, rfl, isDirty_of_eq h'.tree rfl, rfl⟩

/-- A server from which nothing can be loaded, and which takes a replacement if `takes`. -/
def faltering (takes : Bool) : Remote Unit where
  replace _ _ st := (if takes then .ok () else .error (.console (.general "busy" .empty [])), st)
  load _ st := (.error (.console (.general "busy" .empty [])), st)

/-- A server that keeps the last schema it was sent. -/
def shelf : Server Value where
  replace _ payload _ := (.ok (), payload)
  document _ kept := (.ok (.object [("fields", kept)]), kept)

/-- The schema of accounts with another type of name. -/
def renumberedAccount : SchemaSession :=
  (opened accountTree).update ["owner", "name"] { type := some "number" }

/-- The same schema once it was taken, with a required key. -/
def strictAccount : SchemaSession :=
  renumberedAccount.acknowledged.update ["id"] { required := some true }

/-- The calls of these two commits: the first is taken and cannot be loaded again, the second is
refused. -/
def strictCalls : List Exchange :=
  ((strictAccount.commit (faltering false).noted
    ((), (renumberedAccount.commit (faltering true).noted ((), [])).2.2.2)).2.2.2)

/-- The first edit is the baseline, and the second is still there to be sent. -/
theorem baseline_acknowledged_strictAccount :
    Exchanged accountTree strictAccount strictCalls ∧ strictCalls.length = 3 ∧
      strictAccount.isDirty = true ∧
      lastContent accountTree.fields.toWire strictCalls = renumberedAccount.payload ∧
      strictAccount.baseline.fields.toWire = lastContent accountTree.fields.toWire strictCalls ∧
      (strictAccount.commit (faltering true).noted ((), strictCalls)).2.1.isDirty = false ∧
      (strictAccount.commit shelf.remote .empty).2.1 ≠ strictAccount ∧
      (strictAccount.commit shelf.remote .empty).2.1.payload = strictAccount.payload := by
  have mapping : accountTree.fields.Distinct := by
    have read : SchemaTree.ofWire accountDocument (.text "account") = .ok accountTree := by decide
    exact (Run.opened read).kept.tree.toDistinct
  have answers (takes : Bool) : (faltering takes).Answers := by
    refine ⟨fun _ _ _ => ?_, fun _ _ => .inr ⟨_, rfl⟩⟩
    cases takes with
    | true => exact .inl rfl
    | false => exact .inr ⟨_, rfl⟩
  have stores : shelf.Stores fun kept _ => kept :=
    ⟨fun _ _ _ => .inl ⟨rfl, rfl⟩, fun _ _ => .inl ⟨_, rfl, rfl⟩⟩
  have run : Exchanged accountTree strictAccount strictCalls := by
    have edited : Exchanged accountTree renumberedAccount [] :=
      Exchanged.opened.update ["owner", "name"] fun _ h => nomatch h
    have strict := (edited.commit (answers true) ()).update ["id"]
      (p := { required := some true }) fun _ h => nomatch h
    exact strict.commit (answers false) ()
  obtain ⟨content, commits, stored⟩ := baseline_acknowledged mapping run
  obtain ⟨outcome, s', st', log', hcommit, hends⟩ := commits (answers true) ()
  have hclean : s'.isDirty = false := by
    rcases hends with ⟨f, hlog, -⟩ | ⟨answer, -, hclean, -⟩
    · have hcalls := congrArg (·.2.2.2) hcommit
      rw [hlog] at hcalls
      nomatch hcalls
    · exact hclean
  rw [hcommit]
  exact ⟨run, rfl, by decide, rfl, content, hclean, by decide, stored stores .empty⟩

end SchemaSession

end AdminConsole
