import AdminConsole.Pages.EntityTypes
import AdminConsole.Proofs.Schema.Detection
import AdminConsole.Proofs.Schema.Frame
import AdminConsole.Proofs.Schema.Listing
import AdminConsole.Proofs.Ui.AtRest
import Mathlib.Logic.Relation

/-!
# Proofs/Pages/SchemaEditor — looking at a schema

The editor shows a row for each field and makes a change in a row at once.  What stands in a name's
text field is taken without the blanks around it, so a field whose own name has blanks around it is
taken for renamed, though nobody touched it: the first such field gets its trimmed name, and a field
beside it that has that name is lost (`leads_editor_of_unsettled`).

All other widgets give back what they show.  So looking at a schema leaves the session as it is if
all names are `Settled`, and only then: `looking_edits_nothing_iff`.
-/

namespace AdminConsole.Pages.EntityTypes

open Page

variable {σ : Type} {e : Surroundings σ} {s s' : Session Client} {entity : String} {path : KeyPath}
  {f : Field} {t : SchemaSession}

/-! ## The editor at rest -/

/-- **A name that is not taken for another one**: it is blank, or has no blanks around it. -/
def Settled (name : String) : Prop := Text.trim name = "" ∨ Text.trim name = name

instance (name : String) : Decidable (Settled name) := inferInstanceAs (Decidable (_ ∨ _))

/-- The key of a widget in a field's row. -/
def rowKey (s : Session Client) (entity : String) (path : KeyPath) (part : String) : String :=
  fieldKey entity ((s.note? nonceKey).getD (.int 0)).plain path part

/-- Nobody touched the row of a field. -/
structure RowAtRest (e : Surroundings σ) (s : Session Client) (entity : String) (path : KeyPath)
    (f : Field) : Prop where
  name : EchoesText e s (rowKey s entity path "name") (.text f.name)
  type : Echoes e (rowKey s entity path "type") (.text f.type)
  required : Echoes e (rowKey s entity path "required") (.bool f.required)
  add : Unpressed e (rowKey s entity path "add")
  delete : Unpressed e (rowKey s entity path "delete")

/-- **Nobody touched the editor**: no button is pressed, and no row is touched. -/
structure AtRest (e : Surroundings σ) (s : Session Client) (t : SchemaSession) : Prop where
  addRoot : Unpressed e "schema_add_root"
  commit : Unpressed e "schema_commit"
  discard : Unpressed e "schema_discard"
  drop : Unpressed e "schema_drop"
  confirmDrop : Unpressed e "schema_drop_confirm"
  cancelDrop : Unpressed e "schema_drop_cancel"
  rows : ∀ path f, (path, f) ∈ Fields.list t.tree.fields → RowAtRest e s t.entity path f

/-- **One more look at a schema**: the editor of the session that is held is shown, and nobody
touches it. -/
def Looked (s s' : Session Client) : Prop :=
  ∃ (σ : Type) (e : Surroundings σ) (w : World σ) (t : SchemaSession), w.session = s ∧
    s.schema.get? = some t ∧ AtRest e s t ∧ s' = ((editor t).run e w).2.session

/-- Who touches nothing at all leaves the editor at rest. -/
theorem atRest_of_untouched (h : e.touched = []) (hs : s.notes = []) (t : SchemaSession) :
    AtRest e s t where
  addRoot := unpressed_of_untouched h
  commit := unpressed_of_untouched h
  discard := unpressed_of_untouched h
  drop := unpressed_of_untouched h
  confirmDrop := unpressed_of_untouched h
  cancelDrop := unpressed_of_untouched h
  rows path f _ :=
    { name := echoesText_of_untouched h (by rw [Session.note?, hs, Entries.get?_nil])
      type := echoes_of_untouched h
      required := echoes_of_untouched h
      add := unpressed_of_untouched h
      delete := unpressed_of_untouched h }

/-! ## The row of a field -/

theorem text_mem_typeOptions (type : String) : .text type ∈ typeOptions type := by
  unfold typeOptions
  split
  · rename_i h
    exact List.mem_map_of_mem (List.contains_iff_mem.mp h)
  · simp

theorem leads_fieldWidgets (h : RowAtRest e s entity path f) :
    Leads e s s (fieldWidgets entity ((s.note? nonceKey).getD (.int 0)).plain path f)
      (.ok ⟨.text f.name, .text f.type, .bool f.required, false, false⟩) := by
  unfold fieldWidgets
  exact (Leads.display _).bind <| (Leads.typed rfl h.name).bind <|
    (Leads.selected (getD_placeOf (text_mem_typeOptions f.type)) h.type).bind <|
    (Leads.chosen h.required).bind <| (Leads.pressed h.add).bind <|
    (Leads.pressed h.delete).bind <| Leads.pure _

/-- **A row that nobody touched** has no changes of type and required mark. -/
theorem patchOf_shown (f : Field) (add delete : Bool) :
    patchOf f ⟨.text f.name, .text f.type, .bool f.required, add, delete⟩ = none := by
  have htype : (Value.text f.type).same (.text f.type) = true := Value.same_text_iff.mpr rfl
  simp [patchOf, htype, Value.truthy]

/-- What a row does with the name that stands in it. -/
def takeName (path : KeyPath) (f : Field) (input : FieldInput) : Page σ Unit := do
  let name ← trimmed input.name
  if !name.isEmpty && name != f.name then editAndRerun (·.rename path name)
  match patchOf f input with
  | some p => editAndRerun (·.update path p)
  | none => pure ()

theorem leads_fieldRow {r : Except Halt Unit} (h : RowAtRest e s entity path f)
    (hname : Leads e s s' (takeName path f
      ⟨.text f.name, .text f.type, .bool f.required, false, false⟩) r) :
    Leads e s s' (fieldRow entity path f) r := by
  unfold fieldRow
  dsimp only
  refine (Leads.nonce _).bind ((leads_fieldWidgets h).bind ?_)
  rw [if_neg Bool.false_ne_true, if_neg Bool.false_ne_true]
  exact hname

theorem leads_trimmed (text : String) :
    Leads e s s (trimmed (.text text)) (.ok (Text.trim text)) := by
  have hgiven : (Value.text text).orElse (.text "") = .text text := by
    rw [Value.orElse, Value.truthy]
    split
    · rfl
    · rename_i hempty
      have hnil : text = "" := String.isEmpty_iff.mp (by simpa using hempty)
      rw [hnil]
  refine Leads.ofResult ?_
  rw [Value.typedText, hgiven]
  rfl

theorem leads_fieldRow_of_settled (h : RowAtRest e s entity path f) (settled : Settled f.name) :
    Leads e s s (fieldRow entity path f) (.ok ()) := by
  refine leads_fieldRow h ((leads_trimmed f.name).bind ?_)
  have hkept : ¬ (!(Text.trim f.name).isEmpty && Text.trim f.name != f.name) = true := by
    rcases settled with hblank | hsame
    · simp [hblank]
    · simp [hsame]
  dsimp only
  rw [if_neg hkept, patchOf_shown]
  exact Leads.pure ()

theorem leads_editAndRerun (step : SchemaSession → SchemaSession) :
    Leads e s (s.editSchema step) (editAndRerun step) (.error .rerun) :=
  (Leads.modifySession _).bind Leads.rerun

/-- **A field with blanks around its name is renamed.** -/
theorem leads_fieldRow_of_unsettled (h : RowAtRest e s entity path f) (blanks : ¬ Settled f.name) :
    Leads e s (s.editSchema (·.rename path (Text.trim f.name))) (fieldRow entity path f)
      (.error .rerun) := by
  refine leads_fieldRow h ((leads_trimmed f.name).bind ?_)
  obtain ⟨hblank, hsame⟩ := not_or.mp blanks
  have htaken : (!(Text.trim f.name).isEmpty && Text.trim f.name != f.name) = true := by
    simp [hblank, hsame]
  dsimp only
  rw [if_pos htaken]
  exact (leads_editAndRerun _).halt

/-! ## All rows -/

/-- The rows of some fields. -/
def rows (entity : String) : List (KeyPath × Field) → Page σ Unit
  | [] => pure ()
  | (path, f) :: rest => do
    fieldRow entity path f
    rows entity rest

theorem rows_append (entity : String) (more : List (KeyPath × Field)) :
    ∀ xs : List (KeyPath × Field),
      (rows entity (xs ++ more) : Page σ Unit) = rows entity xs >>= fun _ => rows entity more
  | [] => rfl
  | (path, f) :: rest => by
      rw [List.cons_append, rows, rows, rows_append entity more rest, bind_assoc]

mutual

theorem fieldRows_eq (entity : String) (path : KeyPath) : ∀ f : Field,
    (fieldRows entity path f : Page σ Unit) = rows entity (Fields.listField path f)
  | ⟨_, _, _, none⟩ => by
      rw [fieldRows, Fields.listField, rows]
      exact (bind_pure _).symm
  | ⟨_, _, _, some cs⟩ => by
      rw [fieldRows, Fields.listField, rows, levelRows_eq entity path cs]

/-- **The editor has a row for each field that is listed**, in their order. -/
theorem levelRows_eq (entity : String) (path : KeyPath) : ∀ fields : Fields,
    (levelRows entity path fields : Page σ Unit) = rows entity (Fields.listLevel path fields)
  | [] => rfl
  | (key, f) :: rest => by
      rw [levelRows, Fields.listLevel, rows_append, fieldRows_eq entity (path ++ [key]) f,
        levelRows_eq entity path rest]

end

theorem leads_rows_of_settled : ∀ {xs : List (KeyPath × Field)},
    (∀ x ∈ xs, RowAtRest e s entity x.1 x.2 ∧ Settled x.2.name) →
      Leads e s s (rows entity xs) (.ok ())
  | [], _ => Leads.pure ()
  | (path, f) :: rest, h => by
      obtain ⟨⟨hrests, hsettled⟩, hrest⟩ := List.forall_mem_cons.mp h
      exact (leads_fieldRow_of_settled hrests hsettled).bind (leads_rows_of_settled hrest)

/-! ## The editor -/

theorem leads_editorButtons (h : AtRest e s t) : Leads e s s (editorButtons t) (.ok ()) := by
  unfold editorButtons
  dsimp only
  refine (Leads.display _).bind (Leads.unpressed h.addRoot (Leads.unpressed h.commit ?_))
  exact Leads.session.bind (Leads.unpressed h.discard (Leads.unpressed h.drop (Leads.pure ())))

theorem leads_dropQuestion (h : AtRest e s t) (entity : String) :
    Leads e s s (dropQuestion entity) (.ok ()) := by
  unfold dropQuestion
  refine (Leads.note dropKey).bind ?_
  split
  · exact (Leads.display _).bind
      ((Leads.confirmed? h.confirmDrop h.cancelDrop).bind (Leads.pure ()))
  · exact Leads.pure ()

/-- What the editor shows below the rows. -/
def pendingChanges : Page σ Unit := do
  let s := (← session).schema.get?.getD default
  display (.expanderSet "🔍 Pending changes" s.isDirty)
  let lines ← ofResult s.changes
  display (.markdown (SchemaChanges.display lines))

/-- **An editor that nobody touches** does what its rows do, and then shows the changes. -/
theorem leads_editor {r : Except Halt Unit} (h : AtRest e s t)
    (hrows : Leads e s s'
      (rows t.entity (Fields.list t.tree.fields) >>= fun _ => pendingChanges) r) :
    Leads e s s' (editor t) r := by
  rw [Fields.list, ← levelRows_eq] at hrows
  unfold editor
  dsimp only
  refine (Leads.display _).bind ((leads_editorButtons h).bind ((leads_dropQuestion h _).bind ?_))
  split
  · exact (Leads.display _).bind hrows
  · exact hrows

theorem leads_editor_of_settled {lines : List String} (h : AtRest e s t)
    (held : s.schema.get? = some t) (hlines : t.changes = .ok lines)
    (settled : ∀ x ∈ Fields.list t.tree.fields, Settled x.2.name) :
    Leads e s s (editor t) (.ok ()) := by
  refine leads_editor h ((leads_rows_of_settled fun x hx => ⟨h.rows _ _ hx, settled x hx⟩).bind ?_)
  have hlines' : (s.schema.get?.getD default).changes = .ok lines := by
    rw [held, Option.getD_some, hlines]
  exact Leads.session.bind
    ((Leads.display _).bind ((Leads.ofResult hlines').bind (Leads.display _)))

/-- **The first field with blanks around its name is renamed**, and the page asks to be run
again. -/
theorem leads_editor_of_unsettled {before after : List (KeyPath × Field)} (h : AtRest e s t)
    (listed : Fields.list t.tree.fields = before ++ (path, f) :: after)
    (settled : ∀ x ∈ before, Settled x.2.name) (blanks : ¬ Settled f.name) :
    Leads e s (s.editSchema (·.rename path (Text.trim f.name))) (editor t) (.error .rerun) := by
  have rests (x : KeyPath × Field) (hx : x ∈ before ++ (path, f) :: after) :
      RowAtRest e s t.entity x.1 x.2 := h.rows _ _ (listed ▸ hx)
  refine leads_editor h (Leads.halt ?_)
  rw [listed, rows_append]
  refine (leads_rows_of_settled fun x hx =>
    ⟨rests x (List.mem_append_left _ hx), settled x hx⟩).bind ?_
  exact (leads_fieldRow_of_unsettled (rests (path, f) (by simp)) blanks).halt

/-! ## Looking again and again -/

/-- The session that is held is shown as it is, and is not loaded again. -/
theorem run_openSession {w : World σ} {entity : Value} (held : w.session.schema.get? = some t)
    (h : edits entity t = true) : (openSession entity).run e w = (.ok (some t), w) := by
  have hkept : w.session.schema.get?.filter (edits entity) = some t := by
    rw [held, Option.filter_some, if_pos h]
  have hsession : (session : Page σ (Session Client)).run e w = (.ok w.session, w) := rfl
  unfold openSession
  rw [run_bind, hsession]
  dsimp only
  rw [hkept]
  rfl

/-- A schema as it was loaded has no changes. -/
theorem isDirty_opened {docs : List Value} {tree : SchemaTree}
    (kept : SchemaSession.Kept docs (.opened tree)) :
    (SchemaSession.opened tree).isDirty = false :=
  (SchemaSession.isDirty_eq_false_iff kept).mpr (.refl _ _)

/-- **A schema with settled names stays as it is**, and so does the session. -/
theorem eq_of_looked {doc id : Value} {tree : SchemaTree}
    (read : SchemaTree.ofWire doc id = .ok tree) (held : s.schema.get? = some (.opened tree))
    (settled : ∀ x ∈ Fields.list tree.fields, Settled x.2.name)
    (looks : Relation.ReflTransGen Looked s s') : s' = s := by
  induction looks with
  | refl => rfl
  | tail _ look ih =>
    subst ih
    obtain ⟨_, e, w, t, hw, ht, rests, rfl⟩ := look
    obtain rfl := Option.some.inj (held.symm.trans ht)
    have kept : SchemaSession.Kept [doc] (.opened tree) := .opened read List.mem_cons_self
    obtain ⟨lines, hlines, -⟩ := SchemaSession.changes_eq_nil_iff kept
    exact ((leads_editor_of_settled rests held hlines settled).session_eq hw).2

/-- **A field that is renamed is not where it was**, and stands under its new name. -/
theorem rename_opened {docs : List Value} {tree : SchemaTree} {name : String}
    (kept : SchemaSession.Kept docs (.opened tree)) (found : Fields.find? tree.fields path = some f)
    (hname : name ≠ "") (moved : name ≠ f.name) :
    ((SchemaSession.opened tree).rename path name).isDirty = true ∧
      Fields.find? ((SchemaSession.opened tree).rename path name).tree.fields path = none ∧
      Fields.find? ((SchemaSession.opened tree).rename path name).tree.fields
        (path.dropLast ++ [name]) = some { f with name := name } := by
  have keyed : Fields.Keyed tree.fields := kept.tree.mono fun _ _ => trivial
  have hrename : ((SchemaSession.opened tree).rename path name).tree.fields =
      (Fields.Edit.rename { f with name := name } false).run path tree.fields := by
    simp [SchemaSession.rename, SchemaSession.opened, found, hname, SchemaSession.modify,
      Fields.Edit.run]
  have framed := (Fields.edit_framed keyed path (.rename { f with name := name } false)).2 f found
  have last : path.dropLast ++ [f.name] = path := by
    rcases List.eq_nil_or_concat' path with rfl | ⟨parent, key, rfl⟩
    · cases found
    · rw [Fields.find?_concat] at found
      obtain ⟨level, hl, hf⟩ := Option.bind_eq_some_iff.mp found
      rw [List.dropLast_concat, (keyed.levelAt parent hl).name_eq (Entries.mem_of_get? hf)]
  have gone : Fields.find? ((SchemaSession.opened tree).rename path name).tree.fields path =
      none := by
    rw [hrename]
    refine framed.vacated (fun g hg hpath => moved ?_) path List.prefix_rfl
    obtain rfl := Option.some.inj hg
    exact List.singleton_inj.mp (List.append_cancel_left (hpath.trans last.symm))
  refine ⟨?_, gone, ?_⟩
  · rw [← Bool.not_eq_false, SchemaSession.isDirty_eq_false_iff (kept.rename path name)]
    intro agree
    have hpath := agree path fun _ _ => trivial
    rw [gone] at hpath
    have hbaseline : ((SchemaSession.opened tree).rename path name).baseline.fields =
        tree.fields := by
      rcases SchemaSession.rename_cases (.opened tree) path name with hs | ⟨_, _, hs⟩ <;>
        rw [hs] <;> rfl
    rw [hbaseline, found] at hpath
    cases hpath
  · rw [hrename]
    exact framed.placed _ rfl

/-- **The first field whose name is not settled is renamed.** -/
theorem leads_opened_of_unsettled {docs : List Value} {tree : SchemaTree}
    {before after : List (KeyPath × Field)} (kept : SchemaSession.Kept docs (.opened tree))
    (held : s.schema.get? = some (.opened tree)) (rests : AtRest e s (.opened tree))
    (listed : Fields.list tree.fields = before ++ (path, f) :: after)
    (settled : ∀ x ∈ before, Settled x.2.name) (blanks : ¬ Settled f.name) :
    ∃ t, t = (SchemaSession.opened tree).rename path (Text.trim f.name) ∧ t.isDirty = true ∧
      Leads e s (s.setSchema t) (editor (.opened tree)) (.error .rerun) ∧
      Fields.find? t.tree.fields path = none ∧
      Fields.find? t.tree.fields (path.dropLast ++ [Text.trim f.name]) =
        some { f with name := Text.trim f.name } := by
  have found : Fields.find? tree.fields path = some f :=
    (Fields.mem_list_iff kept.tree.toDistinct).mp
      (listed ▸ List.mem_append_right before List.mem_cons_self)
  obtain ⟨hblank, hsame⟩ := not_or.mp blanks
  obtain ⟨dirty, gone, placed⟩ := rename_opened kept found hblank hsame
  have leads := leads_editor_of_unsettled rests listed settled blanks
  rw [Session.editSchema, held] at leads
  exact ⟨_, rfl, dirty, leads, gone, placed⟩

/-- The first of some fields whose name is not settled. -/
theorem exists_first_unsettled {xs : List (KeyPath × Field)}
    (h : ¬ ∀ x ∈ xs, Settled x.2.name) : ∃ before path f after,
      xs = before ++ (path, f) :: after ∧ (∀ x ∈ before, Settled x.2.name) ∧ ¬ Settled f.name := by
  have hsome : (xs.find? fun x => !decide (Settled x.2.name)).isSome = true := by
    rw [List.find?_isSome]
    push Not at h
    simpa using h
  obtain ⟨⟨path, f⟩, hfirst⟩ := Option.isSome_iff_exists.mp hsome
  obtain ⟨blanks, before, after, hxs, settled⟩ := List.find?_eq_some_iff_append.mp hfirst
  exact ⟨before, path, f, after, hxs, by simpa using settled, by simpa using blanks⟩

/-- **Looking at a schema edits nothing exactly if every name is settled.**  Take a schema as it was
read, in a session that holds it, and an editor that nobody touches.

* The page of its entity goes on with what is held, and loads nothing.
* However often the editor is shown, the schema stays what it was and is not dirty, if and only if
  each name is blank or has no blanks around it.  Then every run goes on to its end, and the whole
  session stays as it is.
* Otherwise the first field with another name is renamed at once: it gets its trimmed name, the
  session is dirty, and the page asks to be run again.  A field beside it with that name is lost. -/
theorem looking_edits_nothing_iff {doc id : Value} {tree : SchemaTree} {w : World σ}
    (read : SchemaTree.ofWire doc id = .ok tree)
    (held : w.session.schema.get? = some (.opened tree))
    (rests : AtRest e w.session (.opened tree)) :
    (∀ entity, edits entity (.opened tree) = true →
      (openSession entity).run e w = (.ok (some (.opened tree)), w)) ∧
    ((∀ s, Relation.ReflTransGen Looked w.session s →
        ∃ t, s.schema.get? = some t ∧ t.tree = tree ∧ t.isDirty = false) ↔
      ∀ x ∈ Fields.list tree.fields, Settled x.2.name) ∧
    ((∀ x ∈ Fields.list tree.fields, Settled x.2.name) →
      Leads e w.session w.session (editor (.opened tree)) (.ok ()) ∧
      ∀ s, Relation.ReflTransGen Looked w.session s → s = w.session) ∧
    ∀ before path f after, Fields.list tree.fields = before ++ (path, f) :: after →
      (∀ x ∈ before, Settled x.2.name) → ¬ Settled f.name →
      ∃ t, t = (SchemaSession.opened tree).rename path (Text.trim f.name) ∧ t.isDirty = true ∧
        Leads e w.session (w.session.setSchema t) (editor (.opened tree)) (.error .rerun) ∧
        Fields.find? t.tree.fields path = none ∧
        Fields.find? t.tree.fields (path.dropLast ++ [Text.trim f.name]) =
          some { f with name := Text.trim f.name } := by
  have kept : SchemaSession.Kept [doc] (.opened tree) := .opened read List.mem_cons_self
  obtain ⟨lines, hlines, -⟩ := SchemaSession.changes_eq_nil_iff kept
  refine ⟨fun entity => run_openSession held, ⟨fun unedited => ?_, fun settled s looks => ?_⟩,
    fun settled => ⟨leads_editor_of_settled rests held hlines settled,
      fun s => eq_of_looked read held settled⟩,
    fun before path f after => leads_opened_of_unsettled kept held rests⟩
  · -- one more look would rename the first field whose name is not settled
    by_contra unsettled
    obtain ⟨before, path, f, after, listed, settled, blanks⟩ := exists_first_unsettled unsettled
    obtain ⟨t, -, dirty, leads, -⟩ :=
      leads_opened_of_unsettled kept held rests listed settled blanks
    have look : Looked w.session (w.session.setSchema t) :=
      ⟨σ, e, w, _, rfl, held, rests, (leads.session_eq rfl).2.symm⟩
    obtain ⟨t', ht', -, clean⟩ := unedited _ (.single look)
    obtain rfl := Option.some.inj ht'
    rw [dirty] at clean
    nomatch clean
  · obtain rfl := eq_of_looked read held settled looks
    exact ⟨_, held, rfl, isDirty_opened kept⟩

/-- A world in which a schema was opened. -/
def holding (tree : SchemaTree) : World Unit where
  settings := { file := .missing }
  session := { schema := .held (.opened tree) }
  server := ()

/-- A schema with a number and a text, whose names differ by a blank. -/
def spacedDocument : Value :=
  .object [("id", .text "orders"), ("fields", .object [
    (" total", .object [("type", .text "number")]), ("total", .object [("type", .text "string")])])]

/-- The schema in `spacedDocument`. -/
def spacedTree : SchemaTree where
  entity := "orders"
  fields := [(" total", { name := " total", type := "number" }), ("total", { name := "total" })]

/-- The orders stay as they are, however often they are looked at; with a blank before the name of
the total its field is not found any more after the first look. -/
theorem looking_edits_nothing_orders :
    SchemaTree.ofWire SchemaSession.ordersDocument (.text "orders") =
      .ok SchemaSession.ordersTree ∧
    (∀ s, Relation.ReflTransGen Looked (holding SchemaSession.ordersTree).session s →
      s = (holding SchemaSession.ordersTree).session) ∧
    SchemaTree.ofWire spacedDocument (.text "orders") = .ok spacedTree ∧
    ∃ t, Leads nobody (holding spacedTree).session ((holding spacedTree).session.setSchema t)
        (editor (.opened spacedTree)) (.error .rerun) ∧
      Fields.find? t.tree.fields [" total"] = none := by
  have orders : SchemaTree.ofWire SchemaSession.ordersDocument (.text "orders") =
      .ok SchemaSession.ordersTree := by decide
  have spaced : SchemaTree.ofWire spacedDocument (.text "orders") = .ok spacedTree := by decide
  obtain ⟨-, -, hsettled, -⟩ := looking_edits_nothing_iff (e := nobody)
    (w := holding SchemaSession.ordersTree) orders rfl (atRest_of_untouched rfl rfl _)
  obtain ⟨-, -, -, hfirst⟩ := looking_edits_nothing_iff (e := nobody) (w := holding spacedTree)
    spaced rfl (atRest_of_untouched rfl rfl _)
  obtain ⟨t, -, -, leads, gone, -⟩ :=
    hfirst [] [" total"] _ _ rfl (List.forall_mem_nil _) (by decide)
  exact ⟨orders, (hsettled (by decide)).2, spaced, t, leads, gone⟩

/-- **A look at a schema overwrites a field**: of two names that differ by a blank the second one is
lost, and its place goes to the first. -/
theorem overwritten_by_a_look :
    SchemaTree.ofWire spacedDocument (.text "orders") = .ok spacedTree ∧
    (holding spacedTree).session.schema.get? = some (.opened spacedTree) ∧
    (SchemaSession.opened spacedTree).isDirty = false ∧
    ∃ s t, Looked (holding spacedTree).session s ∧ s.schema.get? = some t ∧ t.isDirty = true ∧
      t.tree.fields = [("total", { name := "total", type := "number" })] := by
  have spaced : SchemaTree.ofWire spacedDocument (.text "orders") = .ok spacedTree := by decide
  have kept : SchemaSession.Kept [spacedDocument] (.opened spacedTree) :=
    .opened spaced List.mem_cons_self
  have rests : AtRest nobody (holding spacedTree).session (.opened spacedTree) :=
    atRest_of_untouched rfl rfl _
  have listed : Fields.list spacedTree.fields =
      [] ++ ([" total"], { name := " total", type := "number" }) ::
        [(["total"], { name := "total" })] := rfl
  obtain ⟨t, rfl, dirty, leads, -⟩ :=
    leads_opened_of_unsettled kept rfl rests listed (List.forall_mem_nil _) (by decide)
  exact ⟨spaced, rfl, isDirty_opened kept, _, _,
    ⟨Unit, nobody, holding spacedTree, _, rfl, rfl, rests, (leads.session_eq rfl).2.symm⟩, rfl,
    dirty, by decide⟩

end AdminConsole.Pages.EntityTypes
