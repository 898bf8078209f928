import AdminConsole.Proofs.Http.Segments
import AdminConsole.Proofs.Pages.SchemaEditor
import AdminConsole.Proofs.Ui.Keyed
import Mathlib.Data.List.ProdSigma

/-!
# Proofs/Pages/FieldKeys — the keys of the widgets in the rows of a schema

The editor puts five widgets in the row of a field.  The key of each is made of the path of the
field, whose names are joined by slashes, and of the kind of the widget.  The kind can be read off
a key, for it has no underscore in it; of the path only what stands between its slashes can
(`fieldKey_eq_iff`).  A name may have slashes in it as well, so a field `a/b` has the keys of a
field `b` below a field `a`.

Every run of the editor puts the widgets of the first rows on the page, and of all rows if it goes
on to its end (`exists_rendered_editor`).  So its keys differ exactly if no two of the rows are
`Namesakes`: `field_keys_distinct_iff`.
-/

namespace AdminConsole.Pages.EntityTypes

open Page Http.Address

variable {σ : Type} {e : Surroundings σ} {s : Session Client} {entity nonce : String}
  {path other : KeyPath} {part kind : String} {xs : List (KeyPath × Field)} {t : SchemaSession}

/-! ## The key of a widget -/

/-- The kinds of widgets in the row of a field, in their order. -/
def parts : List String := ["name", "type", "required", "add", "delete"]

/-- What can be read off a path whose names are joined by slashes. -/
def spelling (path : KeyPath) : List (List Char) := path.flatMap fun key => segments key.toList

/-- **Two paths that read the same**, though they are not the same. -/
def Namesakes (path other : KeyPath) : Prop := path ≠ other ∧ spelling path = spelling other

theorem underscoreless_of_mem_parts (h : part ∈ parts) : '_' ∉ part.toList := by
  have hall : ∀ part ∈ parts, '_' ∉ part.toList := by decide
  exact hall part h

/-- The last underscore of a text parts it. -/
theorem append_underscore_inj {as bs before after : List Char} (has : '_' ∉ as) (hbs : '_' ∉ bs) :
    before ++ '_' :: as = after ++ '_' :: bs ↔ before = after ∧ as = bs := by
  refine ⟨fun h => ?_, fun ⟨hbefore, hs⟩ => hbefore ▸ hs ▸ rfl⟩
  -- one of the two starts with the other, and the rest of it has no underscore
  rcases List.append_eq_append_iff.mp h with ⟨rest, rfl, hrest⟩ | ⟨rest, rfl, hrest⟩ <;>
    rcases List.cons_eq_append_iff.mp hrest with ⟨rfl, htail⟩ | ⟨tail, rfl, rfl⟩
  · exact ⟨(List.append_nil _).symm, (List.cons_inj_right _).mp htail.symm⟩
  · simp at has
  · exact ⟨List.append_nil _, (List.cons_inj_right _).mp htail⟩
  · simp at hbs

theorem toList_fieldKey (entity nonce : String) (path : KeyPath) (part : String) :
    (fieldKey entity nonce path part).toList =
      (("schema_" ++ entity ++ "_" ++ nonce ++ "_").toList ++ slashed path) ++
        '_' :: part.toList := by
  rw [fieldKey, String.toList_append, String.toList_append, String.toList_append, slashed,
    List.append_assoc _ "_".toList]
  rfl

/-- **What a key says.** -/
theorem fieldKey_eq_iff (hpath : path ≠ []) (hother : other ≠ []) (hpart : part ∈ parts)
    (hkind : kind ∈ parts) : fieldKey entity nonce path part = fieldKey entity nonce other kind ↔
      part = kind ∧ spelling path = spelling other := by
  rw [← String.toList_inj, toList_fieldKey, toList_fieldKey,
    append_underscore_inj (underscoreless_of_mem_parts hpart) (underscoreless_of_mem_parts hkind),
    List.append_cancel_left_eq, slashed_eq_iff hpath hother, String.toList_inj, and_comm]
  rfl

/-- Names without slashes can be read off their path. -/
theorem not_namesakes_of_slashless (hpath : ∀ key ∈ path, '/' ∉ key.toList)
    (hother : ∀ key ∈ other, '/' ∉ key.toList) : ¬ Namesakes path other := by
  rintro ⟨hne, hspelling⟩
  rw [spelling, spelling, flatMap_segments_of_slashless hpath,
    flatMap_segments_of_slashless hother] at hspelling
  exact hne (List.map_injective_iff.mpr (fun _ _ => String.toList_inj.mp) hspelling)

/-! ## The widgets on the page -/

/-- **The widgets in the rows of some fields**: the path of a field and a kind for each of them. -/
def fieldWidgetsOf (xs : List (KeyPath × Field)) : List (KeyPath × String) :=
  xs.map Prod.fst ×ˢ parts

theorem mem_fieldWidgetsOf_iff {a : KeyPath × String} :
    a ∈ fieldWidgetsOf xs ↔ (∃ x ∈ xs, x.1 = a.1) ∧ a.2 ∈ parts := by
  rw [fieldWidgetsOf, List.mem_product, List.mem_map]

theorem nodup_fieldWidgetsOf (distinct : (xs.map Prod.fst).Nodup) : (fieldWidgetsOf xs).Nodup :=
  distinct.product (by decide)

/-- The keys of these widgets. -/
def rowKeys (s : Session Client) (entity : String) (xs : List (KeyPath × Field)) : List Value :=
  (fieldWidgetsOf xs).map fun a => .text (rowKey s entity a.1 a.2)

theorem rowKeys_cons (s : Session Client) (entity : String) (x : KeyPath × Field) :
    rowKeys s entity (x :: xs) = rowKeys s entity [x] ++ rowKeys s entity xs := by
  simp [rowKeys, fieldWidgetsOf, List.product_cons]

/-- **Two widgets have one key** exactly if they are of one kind and their paths read the same. -/
theorem rowKey_eq_iff (hne : ∀ x ∈ xs, x.1 ≠ []) {a b : KeyPath × String}
    (ha : a ∈ fieldWidgetsOf xs) (hb : b ∈ fieldWidgetsOf xs) :
    rowKey s entity a.1 a.2 = rowKey s entity b.1 b.2 ↔
      a.2 = b.2 ∧ spelling a.1 = spelling b.1 := by
  obtain ⟨⟨x, hx, hxa⟩, hpart⟩ := mem_fieldWidgetsOf_iff.mp ha
  obtain ⟨⟨y, hy, hyb⟩, hkind⟩ := mem_fieldWidgetsOf_iff.mp hb
  exact fieldKey_eq_iff (hxa ▸ hne x hx) (hyb ▸ hne y hy) hpart hkind

/-- **The keys differ** exactly if no two of the rows are namesakes. -/
theorem nodup_rowKeys_iff (hne : ∀ x ∈ xs, x.1 ≠ []) (distinct : (xs.map Prod.fst).Nodup) :
    (rowKeys s entity xs).Nodup ↔ ∀ x ∈ xs, ∀ y ∈ xs, ¬ Namesakes x.1 y.1 := by
  rw [rowKeys, List.nodup_map_iff_inj_on (nodup_fieldWidgetsOf distinct)]
  constructor
  · rintro inj x hx y hy ⟨hpaths, hspelling⟩
    have hname {z : KeyPath × Field} (hz : z ∈ xs) : (z.1, "name") ∈ fieldWidgetsOf xs :=
      mem_fieldWidgetsOf_iff.mpr ⟨⟨z, hz, rfl⟩, List.mem_cons_self⟩
    have hkeys : rowKey s entity x.1 "name" = rowKey s entity y.1 "name" :=
      (rowKey_eq_iff hne (hname hx) (hname hy)).mpr ⟨rfl, hspelling⟩
    exact hpaths (Prod.ext_iff.mp (inj _ (hname hx) _ (hname hy) (congrArg _ hkeys))).1
  · intro apart a ha b hb hkeys
    obtain ⟨hparts, hspelling⟩ := (rowKey_eq_iff hne ha hb).mp (Value.text_injective hkeys)
    obtain ⟨⟨x, hx, hxa⟩, -⟩ := mem_fieldWidgetsOf_iff.mp ha
    obtain ⟨⟨y, hy, hyb⟩, -⟩ := mem_fieldWidgetsOf_iff.mp hb
    refine Prod.ext (not_not.mp fun hpaths => apart x hx y hy ?_) hparts
    rw [hxa, hyb]
    exact ⟨hpaths, hspelling⟩

/-! ## The rows -/

theorem adds_fieldWidgets (entity nonce : String) (path : KeyPath) (f : Field) :
    Adds e s (fieldWidgets entity nonce path f)
      (parts.map fun part => .text (fieldKey entity nonce path part)) := by
  unfold fieldWidgets
  exact (Adds.display rfl).bind (fun _ => ⟨_, rfl⟩) fun _ =>
    (Adds.typed rfl _).bind (fun _ => ⟨_, rfl⟩) fun _ =>
    (Adds.selected rfl _ _).bind (fun _ => ⟨_, rfl⟩) fun _ =>
    (Adds.chosen rfl _).bind (fun _ => ⟨_, rfl⟩) fun _ =>
    (Adds.pressed rfl).bind (fun _ => ⟨_, rfl⟩) fun _ =>
    (Adds.pressed rfl).bind_nil fun _ => Adds.pure _

theorem adds_editAndRerun (step : SchemaSession → SchemaSession) :
    Adds e s (editAndRerun step) [] :=
  fun _ _ => ⟨(List.append_nil _).symm, nofun⟩

theorem adds_addAndRerun (parent : KeyPath) : Adds e s (addAndRerun parent) [] :=
  fun _ _ => ⟨(List.append_nil _).symm, nofun⟩

theorem adds_takeName (path : KeyPath) (f : Field) (input : FieldInput) :
    Adds e s (takeName path f input) [] := by
  refine (Adds.ofResult _).bind_nil fun name =>
    Adds.ite ((adds_editAndRerun _).bind_nil fun _ => ?_) ?_
  all_goals
    split
    · exact adds_editAndRerun _
    · exact Adds.pure ()

/-- **A row adds its five keys**, whatever is changed in it. -/
theorem adds_fieldRow (entity : String) (path : KeyPath) (f : Field) :
    Adds e s (fieldRow entity path f) (rowKeys s entity [(path, f)]) := by
  unfold fieldRow
  refine Adds.nonce ((adds_fieldWidgets entity _ path f).bind_nil fun input => ?_)
  have add : Adds e s (if input.add then addAndRerun path >>= fun _ => takeName path f input
      else takeName path f input) [] :=
    Adds.ite ((adds_addAndRerun path).bind_nil fun _ => adds_takeName path f input)
      (adds_takeName path f input)
  exact Adds.ite ((adds_editAndRerun _).bind_nil fun _ => add) add

/-- **Every run shows the widgets of the first rows**, and of all of them if it goes on. -/
theorem exists_rendered_rows (e : Surroundings σ) (entity : String) :
    ∀ (xs : List (KeyPath × Field)) (w : World σ), ∃ ys, ys <+: xs ∧
      keysOn ((rows entity xs).run e w).2.shown =
        keysOn w.shown ++ rowKeys w.session entity ys ∧
      (((rows entity xs).run e w).1 = .ok () →
        ys = xs ∧ ((rows entity xs).run e w).2.session = w.session)
  | [], w => ⟨[], List.prefix_rfl, (List.append_nil _).symm, fun _ => ⟨rfl, rfl⟩⟩
  | (path, f) :: rest, w => by
      obtain ⟨hkeys, hsession⟩ := adds_fieldRow (e := e) entity path f w rfl
      rw [rows, run_bind]
      generalize (fieldRow entity path f).run e w = result at hkeys hsession ⊢
      obtain ⟨h | ⟨⟩, w'⟩ := result
      · exact ⟨[(path, f)], ⟨rest, rfl⟩, hkeys, nofun⟩
      · obtain ⟨ys, leading, hmore, hend⟩ := exists_rendered_rows e entity rest w'
        rw [hsession () rfl, hkeys, List.append_assoc, ← rowKeys_cons] at hmore
        rw [hsession () rfl] at hend
        exact ⟨(path, f) :: ys, (List.prefix_cons_inj _).mpr leading, hmore,
          fun h => (hend h).imp_left (congrArg _)⟩

/-! ## The editor -/

/-- What the editor does before it comes to the rows. -/
def front (t : SchemaSession) : Page σ Unit := do
  display (.subheader (t.tree.entity ++ " (" ++
    (if t.tree.manual then "manual" else "auto-managed") ++ ")"))
  editorButtons t
  dropQuestion t.tree.entity
  if t.tree.fields.isEmpty then display (.caption (.text "This entity type has no fields."))

/-- **The editor comes to the rows, goes through them**, and then shows the changes. -/
theorem editor_eq (t : SchemaSession) : (editor t : Page σ Unit) = front t >>= fun _ =>
    rows t.entity (Fields.list t.tree.fields) >>= fun _ => pendingChanges := by
  rw [Fields.list, ← levelRows_eq]
  unfold editor front
  simp only [bind_assoc]
  refine bind_congr fun _ => bind_congr fun _ => bind_congr fun _ => ?_
  split <;> rfl

theorem adds_pendingChanges : Adds e s pendingChanges [] := by
  unfold pendingChanges
  exact Adds.session <| (Adds.display rfl).bind_nil fun _ =>
    (Adds.ofResult _).bind_nil fun _ => Adds.display rfl

/-- The page and the session when the editor comes to the rows. -/
def atRows (e : Surroundings σ) (t : SchemaSession) (w : World σ) : World σ :=
  ((front t).run e w).2

/-- **Every run of the editor shows the widgets of the first rows**, and of all of them if it goes
on to its end. -/
theorem exists_rendered_editor (e : Surroundings σ) (t : SchemaSession) (w : World σ) :
    ∃ xs, xs <+: Fields.list t.tree.fields ∧
      keysOn ((editor t).run e w).2.shown =
        keysOn (atRows e t w).shown ++ rowKeys (atRows e t w).session t.entity xs ∧
      (((editor t).run e w).1 = .ok () → xs = Fields.list t.tree.fields) := by
  rw [editor_eq, run_bind, atRows]
  generalize (front t).run e w = result
  obtain ⟨h | ⟨⟩, w'⟩ := result
  · exact ⟨[], List.nil_prefix, (List.append_nil _).symm, nofun⟩
  obtain ⟨xs, leading, hkeys, hend⟩ :=
    exists_rendered_rows e t.entity (Fields.list t.tree.fields) w'
  refine ⟨xs, leading, ?_⟩
  dsimp only
  rw [run_bind]
  generalize (rows t.entity (Fields.list t.tree.fields)).run e w' = result at hkeys hend ⊢
  obtain ⟨h | ⟨⟩, w''⟩ := result
  · exact ⟨hkeys, nofun⟩
  · obtain ⟨hmore, -⟩ := adds_pendingChanges (e := e) w'' rfl
    rw [List.append_nil, hkeys] at hmore
    exact ⟨hmore, fun _ => (hend rfl).1⟩

/-- The editor of a schema with settled names goes on to its end if nobody touches it. -/
theorem run_editor_of_settled {doc id : Value} {tree : SchemaTree}
    (read : SchemaTree.ofWire doc id = .ok tree)
    (settled : ∀ x ∈ Fields.list tree.fields, Settled x.2.name) :
    ((editor (.opened tree)).run nobody (holding tree)).1 = .ok () := by
  have kept : SchemaSession.Kept [doc] (.opened tree) := .opened read List.mem_cons_self
  obtain ⟨lines, hlines, -⟩ := SchemaSession.changes_eq_nil_iff kept
  have rests : AtRest nobody (holding tree).session (.opened tree) := atRest_of_untouched rfl rfl _
  exact ((leads_editor_of_settled rests rfl hlines settled).session_eq rfl).1

/-- **Two field widgets have one key exactly if their paths read the same.**  Take an editor of a
tree of mappings, whatever the user has touched.

* A run puts on the page, behind what stood there when it came to the rows, the keys of the first
  rows, and of all rows if it goes on to its end.
* The widgets of these rows differ, in path or kind; two of them have one key if and only if they
  are of one kind and their paths read the same with slashes between the names.
* So no key is there twice if and only if no two of the rows are namesakes, and none is if no name
  has a slash in it. -/
theorem field_keys_distinct_iff (h : Fields.Distinct t.tree.fields) (e : Surroundings σ)
    (w : World σ) :
    ∃ xs, xs <+: Fields.list t.tree.fields ∧
      keysOn ((editor t).run e w).2.shown =
        keysOn (atRows e t w).shown ++ rowKeys (atRows e t w).session t.entity xs ∧
      (((editor t).run e w).1 = .ok () → xs = Fields.list t.tree.fields) ∧
      (fieldWidgetsOf xs).Nodup ∧
      (∀ a ∈ fieldWidgetsOf xs, ∀ b ∈ fieldWidgetsOf xs,
        rowKey (atRows e t w).session t.entity a.1 a.2 =
            rowKey (atRows e t w).session t.entity b.1 b.2 ↔
          a.2 = b.2 ∧ spelling a.1 = spelling b.1) ∧
      ((rowKeys (atRows e t w).session t.entity xs).Nodup ↔
        ∀ x ∈ xs, ∀ y ∈ xs, ¬ Namesakes x.1 y.1) ∧
      ((∀ x ∈ xs, ∀ key ∈ x.1, '/' ∉ key.toList) →
        (rowKeys (atRows e t w).session t.entity xs).Nodup) := by
  obtain ⟨xs, leading, hkeys, hend⟩ := exists_rendered_editor e t w
  have hne : ∀ x ∈ xs, x.1 ≠ [] := fun x hx => Fields.ne_nil_of_mem_list (leading.subset hx)
  have distinct : (xs.map Prod.fst).Nodup :=
    (Fields.nodup_paths_list h).sublist (leading.sublist.map Prod.fst)
  have hiff : (rowKeys (atRows e t w).session t.entity xs).Nodup ↔
      ∀ x ∈ xs, ∀ y ∈ xs, ¬ Namesakes x.1 y.1 := nodup_rowKeys_iff hne distinct
  exact ⟨xs, leading, hkeys, hend, nodup_fieldWidgetsOf distinct,
    fun a ha b hb => rowKey_eq_iff hne ha hb, hiff, fun slashless => hiff.mpr fun x hx y hy =>
      not_namesakes_of_slashless (slashless x hx) (slashless y hy)⟩

/-- A run of the editor puts the keys of all fields of the orders on the page, each once. -/
theorem field_keys_distinct_iff_orders :
    Fields.Distinct SchemaSession.ordersTree.fields ∧
    ∃ before keys, keysOn ((editor (.opened SchemaSession.ordersTree)).run nobody
        (holding SchemaSession.ordersTree)).2.shown = before ++ keys ∧
      keys.length = 5 * (Fields.list SchemaSession.ordersTree.fields).length ∧ keys.Nodup := by
  have read : SchemaTree.ofWire SchemaSession.ordersDocument (.text "orders") =
      .ok SchemaSession.ordersTree := by decide
  have keyed : Fields.Keyed SchemaSession.ordersTree.fields := by decide
  obtain ⟨xs, -, shown, all, -, -, -, differ⟩ := field_keys_distinct_iff
    (t := .opened SchemaSession.ordersTree) keyed.toDistinct nobody
    (holding SchemaSession.ordersTree)
  obtain rfl := all (run_editor_of_settled read (by decide))
  exact ⟨keyed.toDistinct, _, _, shown, rfl, differ (by decide)⟩

/-- A schema with a field below another one, and a field whose name is their path. -/
def slashedDocument : Value :=
  .object [("id", .text "orders"), ("fields", .object [
    ("a", .object [("type", .text "object"), ("fields", .object [("b", .object [])])]),
    ("a/b", .object [])])]

/-- The schema in `slashedDocument`. -/
def slashedTree : SchemaTree where
  entity := "orders"
  fields := [("a", { name := "a", type := "object", children := some [("b", { name := "b" })] }),
    ("a/b", { name := "a/b" })]

/-- **Two fields, one key**: the widgets of a field `b` below `a` and of a field `a/b` have the same
keys, and the editor puts both on one page. -/
theorem one_key_for_two_fields :
    SchemaTree.ofWire slashedDocument (.text "orders") = .ok slashedTree ∧
    (["a", "b"], "name") ∈ fieldWidgetsOf (Fields.list slashedTree.fields) ∧
    (["a/b"], "name") ∈ fieldWidgetsOf (Fields.list slashedTree.fields) ∧
    fieldKey "orders" "0" ["a", "b"] "name" = fieldKey "orders" "0" ["a/b"] "name" ∧
    ¬ (keysOn ((editor (.opened slashedTree)).run nobody (holding slashedTree)).2.shown).Nodup := by
  have read : SchemaTree.ofWire slashedDocument (.text "orders") = .ok slashedTree := by decide
  have keyed : Fields.Keyed slashedTree.fields := by decide
  refine ⟨read, by decide, by decide, by decide, fun differ => ?_⟩
  obtain ⟨xs, -, shown, all⟩ :=
    exists_rendered_editor nobody (.opened slashedTree) (holding slashedTree)
  obtain rfl := all (run_editor_of_settled read (by decide))
  rw [shown] at differ
  exact (nodup_rowKeys_iff (fun _ => Fields.ne_nil_of_mem_list)
    (Fields.nodup_paths_list keyed.toDistinct)).mp (List.Nodup.of_append_right differ)
    (["a", "b"], { name := "b" }) (by decide) (["a/b"], { name := "a/b" }) (by decide)
    ⟨by decide, by decide⟩

end AdminConsole.Pages.EntityTypes
