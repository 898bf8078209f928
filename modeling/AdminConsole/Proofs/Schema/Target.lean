import AdminConsole.Proofs.Schema.Editing

/-!
# Proofs/Schema/Target — whose schema a session writes

A commit is made for the entity of the acknowledged schema.  A schema that is loaded takes its place,
and it belongs to the entity that its document names, whichever was asked for.  `Called` are the
runs of a session against servers that answer as they like, along with the calls that were made.

* Each call is made for the `target`: the entity that was named last, or the one that the session
  was opened on (`Called.aimed`).
* So all calls are made for that one exactly if no document, unless the very last call loaded it,
  names another (`made_for_opened_iff`).  `schema_of_another_replaced` is a session that goes on to
  write the schema of the entity it was answered with.
-/

namespace AdminConsole.SchemaSession

/-! ## Calls and their target -/

/-- The entity that a schema document names. -/
def named? (doc : Value) : Option String :=
  ((doc.member? "id").filter Value.truthy).map Value.plain

/-- A call to the server for an entity, with its answer. -/
inductive Call where
  | replace (entity : String) (answer : Except Fault Unit)
  | load (entity : String) (answer : Except Fault Value)

namespace Call

/-- The entity that a call is made for. -/
def entity : Call → String
  | replace entity _ | load entity _ => entity

/-- The entity that the answer to a call names. -/
def answered? : Call → Option String
  | load _ (.ok doc) => named? doc
  | _ => none

end Call

/-- **The entity that was named last**, `start` before there was any; the latest call comes first. -/
def target (start : String) (log : List Call) : String :=
  (log.findSome? Call.answered?).getD start

variable {σ : Type}

/-- The same server, with its calls kept. -/
def Server.noted (server : Server σ) : Server (σ × List Call) where
  replace entity payload st :=
    let (answer, st') := server.replace entity payload st.1
    (answer, st', .replace entity answer :: st.2)
  document entity st :=
    let (answer, st') := server.document entity st.1
    (answer, st', .load entity answer :: st.2)

/-- **The runs of a session** that was opened on `start`, with the calls so far.  Servers may answer
anything, also a fault that ends the commit. -/
inductive Called (start : SchemaTree) : SchemaSession → List Call → Prop
  | opened : Called start (.opened start) []
  | update {s : SchemaSession} {log : List Call} (run : Called start s log) (path : KeyPath)
      (p : Fields.Patch) : Called start (s.update path p) log
  | rename {s : SchemaSession} {log : List Call} (run : Called start s log) (path : KeyPath)
      (name : String) : Called start (s.rename path name) log
  | delete {s : SchemaSession} {log : List Call} (run : Called start s log) (path : KeyPath) :
      Called start (s.delete path) log
  | add {s : SchemaSession} {log : List Call} (run : Called start s log) (names : Nat → String)
      (parent : KeyPath) : Called start (s.add names parent).1 log
  | discard {s : SchemaSession} {log : List Call} (run : Called start s log) :
      Called start s.discard log
  | commit {s : SchemaSession} {log : List Call} {σ : Type} (run : Called start s log)
      (server : Server σ) (st : σ) :
      Called start (s.commit server.noted.remote (st, log)).2.1
        (s.commit server.noted.remote (st, log)).2.2.2

variable {start : SchemaTree} {s : SchemaSession} {log : List Call}

/-! ## One commit -/

/-- **A schema belongs to the entity that its document names**, else to the one asked for. -/
theorem entity_of_ofWire {doc : Value} {entity : String} {tree : SchemaTree}
    (h : SchemaTree.ofWire doc (.text entity) = .ok tree) :
    tree.entity = (named? doc).getD entity := by
  cases doc with
  | map es =>
      obtain rfl := Except.ok.inj h
      have hasked : (Value.text entity).orElse (.text "") = .text entity := by
        rw [Value.orElse]
        split
        · rfl
        · rename_i hempty
          obtain rfl : entity = "" := by simpa [Value.truthy] using hempty
          rfl
      have hmember : (Value.map es).member? "id" = Entries.get? (.text "id") es := rfl
      dsimp only
      rw [hasked, named?, hmember]
      cases hid : Entries.get? (.text "id") es with
      | none => rfl
      | some id =>
          rw [Option.getD_some, Value.orElse, Option.filter_some]
          cases id.truthy with
          | false => rfl
          | true => rfl
  | _ => nomatch h

/-- **How a commit ends**: refused, taken but not loaded again, or loaded. -/
inductive Addressed (s : SchemaSession) (log : List Call) : SchemaSession → List Call → Prop
  | refused (f : Fault) : Addressed s log s (.replace s.entity (.error f) :: log)
  | unread {answer : Except Fault Value} (unnamed : (Call.load s.entity answer).answered? = none) :
      Addressed s log s.acknowledged
        (.load s.entity answer :: .replace s.entity (.ok ()) :: log)
  | reloaded {doc : Value} {tree : SchemaTree}
      (read : SchemaTree.ofWire doc (.text s.entity) = .ok tree) :
      Addressed s log (.opened tree)
        (.load s.entity (.ok doc) :: .replace s.entity (.ok ()) :: log)

/-- **Both calls of a commit are made for the entity of the session.** -/
theorem commit_addressed (server : Server σ) (s : SchemaSession) (st : σ) (log : List Call) :
    Addressed s log (s.commit server.noted.remote (st, log)).2.1
      (s.commit server.noted.remote (st, log)).2.2.2 := by
  rcases hr : server.replace s.entity s.payload st with ⟨replaced, st₁⟩
  have hreplace : server.noted.remote.replace s.entity s.payload (st, log) =
      (replaced, st₁, .replace s.entity replaced :: log) := by
    simp only [Server.remote, Server.noted, hr]
  unfold commit
  simp only [hreplace]
  rcases replaced with f | _
  · cases f with
    | console e => exact .refused _
    | _ => exact .refused _
  rcases hd : server.document s.entity st₁ with ⟨answer, st₂⟩
  have hload (log : List Call) : server.noted.remote.load s.entity (st₁, log) =
      (answer.bind fun doc => SchemaTree.ofWire doc (.text s.entity), st₂,
        .load s.entity answer :: log) := by
    simp only [Server.remote, Server.noted, hd]
  simp only [hload]
  rcases answer with f | doc
  · cases f with
    | console e => exact .unread rfl
    | _ => exact .unread rfl
  · cases doc with
    | map es => exact .reloaded rfl
    | _ => exact .unread rfl

/-- **A commit replaces the schema of the entity of the session**, whatever comes of it. -/
theorem exists_replace_suffix (server : Server σ) (s : SchemaSession) (st : σ) (log : List Call) :
    ∃ answer, (.replace s.entity answer :: log) <:+
      (s.commit server.noted.remote (st, log)).2.2.2 := by
  have addressed := commit_addressed server s st log
  generalize (s.commit server.noted.remote (st, log)).2.1 = s',
    (s.commit server.noted.remote (st, log)).2.2.2 = log' at addressed ⊢
  cases addressed with
  | refused f => exact ⟨_, List.suffix_refl _⟩
  | unread => exact ⟨_, List.suffix_cons _ _⟩
  | reloaded => exact ⟨_, List.suffix_cons _ _⟩

/-! ## Runs -/

/-- Both schemas of a session belong to the target, and so did each call when it was made. -/
structure Aimed (start : SchemaTree) (s : SchemaSession) (log : List Call) : Prop where
  tree : s.tree.entity = target start.entity log
  baseline : s.baseline.entity = target start.entity log
  made : ∀ call earlier, (call :: earlier) <:+ log → call.entity = target start.entity earlier

/-- Another call for the target. -/
theorem Aimed.made_cons (h : Aimed start s log) {next : Call}
    (hnext : next.entity = target start.entity log) :
    ∀ call earlier, (call :: earlier) <:+ next :: log →
      call.entity = target start.entity earlier := by
  intro call earlier hsuffix
  rcases List.suffix_cons_iff.mp hsuffix with heq | hsuffix
  · obtain ⟨rfl, rfl⟩ := List.cons.inj heq
    exact hnext
  · exact h.made call earlier hsuffix

theorem Aimed.addressed {s' : SchemaSession} {log' : List Call} (h : Aimed start s log)
    (addressed : Addressed s log s' log') : Aimed start s' log' := by
  have replaced (answer : Except Fault Unit) :
      Aimed start s (.replace s.entity answer :: log) :=
    ⟨h.tree, h.baseline, h.made_cons h.baseline⟩
  cases addressed with
  | refused f => exact replaced (.error f)
  | @unread answer unnamed =>
      have htarget : target start.entity (.load s.entity answer :: .replace s.entity (.ok ()) :: log)
          = target start.entity log := by
        rw [target, List.findSome?_cons, unnamed]
        rfl
      have htree := h.tree.trans htarget.symm
      exact ⟨htree, htree, (replaced (.ok ())).made_cons h.baseline⟩
  | @reloaded doc tree read =>
      have htree : tree.entity =
          target start.entity (.load s.entity (.ok doc) :: .replace s.entity (.ok ()) :: log) := by
        rw [entity_of_ofWire read, target, List.findSome?_cons]
        cases hnamed : named? doc with
        | none =>
            rw [show (Call.load s.entity (.ok doc)).answered? = none from hnamed]
            exact h.baseline
        | some named =>
            rw [show (Call.load s.entity (.ok doc)).answered? = some named from hnamed]
            rfl
      exact ⟨htree, htree, (replaced (.ok ())).made_cons h.baseline⟩

theorem Aimed.rename (h : Aimed start s log) (path : KeyPath) (name : String) :
    Aimed start (s.rename path name) log := by
  rcases s.rename_cases path name with hs | ⟨f, -, hs⟩
  · rw [hs]
    exact h
  · rw [hs]
    exact ⟨h.tree, h.baseline, h.made⟩

theorem Called.aimed (run : Called start s log) : Aimed start s log := by
  induction run with
  | opened => exact ⟨rfl, rfl, fun _ _ h => nomatch List.suffix_nil.mp h⟩
  | update _ path p ih => exact ⟨ih.tree, ih.baseline, ih.made⟩
  | rename _ path name ih => exact ih.rename path name
  | delete _ path ih => exact ⟨ih.tree, ih.baseline, ih.made⟩
  | add _ names parent ih => exact ⟨ih.tree, ih.baseline, ih.made⟩
  | discard _ ih => exact ⟨ih.baseline, ih.baseline, ih.made⟩
  | @commit s log _ _ server st ih => exact ih.addressed (commit_addressed server s st log)

/-! ## The whole log -/

/-- A call that is not the last one has a next one. -/
theorem exists_next_of_mem_tail {call : Call} :
    ∀ {log : List Call}, call ∈ log.tail → ∃ next earlier, (next :: call :: earlier) <:+ log
  | [], h => nomatch h
  | [_], h => nomatch h
  | last :: before :: log, h => by
      rcases List.mem_cons.mp h with rfl | h
      · exact ⟨last, log, List.suffix_refl _⟩
      · obtain ⟨next, earlier, hsuffix⟩ :=
          exists_next_of_mem_tail (show call ∈ (before :: log).tail from h)
        exact ⟨next, earlier, hsuffix.trans (List.suffix_cons _ _)⟩

/-- **A session keeps the entity that its answers name.**  After any run against any servers:

* the next commit replaces the schema of the entity that was named last, else of the one that the
  session was opened on, and each call was made for such an entity too;
* so all calls were made for the opened one exactly if no answer before the last call names another. -/
theorem made_for_opened_iff (run : Called start s log) :
    (∀ {σ : Type} (server : Server σ) (st : σ), ∃ answer,
      (.replace (target start.entity log) answer :: log) <:+
        (s.commit server.noted.remote (st, log)).2.2.2) ∧
    (∀ call earlier, (call :: earlier) <:+ log → call.entity = target start.entity earlier) ∧
    ((∀ call ∈ log, call.entity = start.entity) ↔
      ∀ call ∈ log.tail, ∀ named, call.answered? = some named → named = start.entity) := by
  obtain ⟨-, hbaseline, hmade⟩ := run.aimed
  refine ⟨fun server st => ?_, hmade, fun hall call hcall named hnamed => ?_,
    fun hnamed call hcall => ?_⟩
  · rw [← hbaseline]
    exact exists_replace_suffix server s st log
  · obtain ⟨next, earlier, hsuffix⟩ := exists_next_of_mem_tail hcall
    have hnext : next.entity = named := by
      rw [hmade next _ hsuffix, target, List.findSome?_cons, hnamed]
      rfl
    exact hnext.symm.trans (hall next (hsuffix.subset List.mem_cons_self))
  · obtain ⟨later, earlier, rfl⟩ := List.append_of_mem hcall
    have hbefore : earlier ⊆ (later ++ call :: earlier).tail := by
      cases later with
      | nil => exact List.Subset.refl _
      | cons _ later => exact fun c hc => List.mem_append_right _ (List.mem_cons_of_mem _ hc)
    rw [hmade call earlier (List.suffix_append _ _), target]
    cases hlast : earlier.findSome? Call.answered? with
    | none => rfl
    | some named =>
        obtain ⟨c, hc, hsome⟩ := List.exists_of_findSome?_eq_some hlast
        exact hnamed c (hbefore hc) named hsome

/-- The schema of orders. -/
def totalTree : SchemaTree where
  entity := "orders"
  fields := [("total", { name := "total", type := "string" })]

/-- A server that answers every load with a schema of one entity. -/
def answeringWith (entity : String) : Server Unit where
  replace _ _ st := (.ok (), st)
  document _ st := (.ok (.object [("id", .text entity), ("fields", .object [
    ("total", .object [("type", .text "number")])])]), st)

/-- Another type for the total, sent to a server. -/
def retyped (server : Server Unit) : Except Fault Outcome × SchemaSession × Unit × List Call :=
  ((opened totalTree).update ["total"] { type := some "number" }).commit server.noted.remote
    ((), [])

/-- The total is made required after that, and sent too. -/
def requiredAfter (server : Server Unit) :
    Except Fault Outcome × SchemaSession × Unit × List Call :=
  ((retyped server).2.1.update ["total"] { required := some true }).commit server.noted.remote
    ((), (retyped server).2.2.2)

theorem called_requiredAfter (server : Server Unit) :
    Called totalTree (requiredAfter server).2.1 (requiredAfter server).2.2.2 := by
  have first : Called totalTree (retyped server).2.1 (retyped server).2.2.2 :=
    (Called.opened.update ["total"] { type := some "number" }).commit server ()
  exact (first.update ["total"] { required := some true }).commit server ()

/-- All four calls are made for orders if that is what the answers name. -/
theorem made_for_opened_iff_orders :
    Called totalTree (requiredAfter (answeringWith "orders")).2.1
      (requiredAfter (answeringWith "orders")).2.2.2 ∧
    (requiredAfter (answeringWith "orders")).2.2.2.length = 4 ∧
    ∀ call ∈ (requiredAfter (answeringWith "orders")).2.2.2, call.entity = "orders" := by
  have run := called_requiredAfter (answeringWith "orders")
  have hanswers : (requiredAfter (answeringWith "orders")).2.2.2.tail.map Call.answered? =
      [none, some "orders", none] := rfl
  refine ⟨run, rfl, (made_for_opened_iff run).2.2.mpr fun call hcall named hnamed => ?_⟩
  have hanswer : call.answered? ∈ [none, some "orders", none] :=
    hanswers ▸ List.mem_map_of_mem hcall
  simpa [hnamed, totalTree] using hanswer

/-- **A session of orders replaces the schema of invoices**: the reload of its first commit was
answered with a document of invoices. -/
theorem schema_of_another_replaced :
    Called totalTree (requiredAfter (answeringWith "invoices")).2.1
      (requiredAfter (answeringWith "invoices")).2.2.2 ∧
    (requiredAfter (answeringWith "invoices")).2.2.2.map Call.entity =
      ["invoices", "invoices", "orders", "orders"] :=
  ⟨called_requiredAfter _, rfl⟩

end AdminConsole.SchemaSession
