import AdminConsole.Proofs.Schema.Compared
import AdminConsole.Proofs.Schema.Distinct
import AdminConsole.Proofs.Schema.Frame

/-!
# Proofs/Schema/Listing — the fields of a tree with their paths

The list of a tree goes through its levels: each field comes with its path, before what is below it
(`listLevel_eq`).  In a tree of mappings a field is listed under a path exactly if it is found there
(`mem_listLevel_iff`).

The list of a level further down is the list of that level alone with longer paths
(`listLevel_eq_below`), so the list of a tree is made of the lists of the trees below its fields
(`list_eq`).  By induction on these: no path is listed twice, what is below a field stands in one
piece behind it, and the fields of a level keep their order.  `tree_listed_in_order` says all of it.
-/

namespace AdminConsole.Fields

variable {fields : Fields} {key : String} {f : Field} {base path : KeyPath}

theorem listField_eq (path : KeyPath) :
    ∀ f : Field, listField path f = (path, f) :: listLevel path f.subfields
  | ⟨_, _, _, none⟩ => rfl
  | ⟨_, _, _, some _⟩ => rfl

/-- **The list of a level**, field by field. -/
theorem listLevel_eq (base : KeyPath) : ∀ fields : Fields, listLevel base fields =
    fields.flatMap fun x => (base ++ [x.1], x.2) :: listLevel (base ++ [x.1]) x.2.subfields
  | [] => rfl
  | (key, f) :: rest => by
      rw [listLevel, listField_eq, listLevel_eq base rest, List.flatMap_cons]

theorem mem_listLevel_cons_iff : (path, f) ∈ listLevel base fields ↔ ∃ key g, (key, g) ∈ fields ∧
    ((path = base ++ [key] ∧ f = g) ∨ (path, f) ∈ listLevel (base ++ [key]) g.subfields) := by
  rw [listLevel_eq, List.mem_flatMap, Prod.exists]
  simp only [List.mem_cons, Prod.mk.injEq]

/-- **A field is listed under the paths at which it is found.** -/
theorem mem_listLevel_iff (h : Distinct fields) : ∀ {base path : KeyPath} {f : Field},
    (path, f) ∈ listLevel base fields ↔
      ∃ rest, path = base ++ rest ∧ find? fields rest = some f := by
  induction h with
  | @mk fields keys _ ih =>
    intro base path f
    rw [mem_listLevel_cons_iff]
    constructor
    · rintro ⟨key, g, hg, ⟨rfl, rfl⟩ | hf⟩
      · exact ⟨[key], rfl, Entries.get?_of_mem keys hg⟩
      · obtain ⟨rest, rfl, hrest⟩ := (ih key g hg).mp hf
        have hne : rest ≠ [] := fun hnil => nomatch hnil ▸ hrest
        refine ⟨key :: rest, List.append_assoc .., ?_⟩
        rw [find?_cons_of_ne_nil hne, Entries.get?_of_mem keys hg]
        exact hrest
    · rintro ⟨rest, rfl, hrest⟩
      cases rest with
      | nil => nomatch hrest
      | cons key rest =>
        cases rest with
        | nil => exact ⟨key, f, Entries.mem_of_get? hrest, .inl ⟨rfl, rfl⟩⟩
        | cons next rest =>
          rw [find?_cons_cons] at hrest
          obtain ⟨g, hg, hf⟩ := Option.bind_eq_some_iff.mp hrest
          have hmem := Entries.mem_of_get? hg
          exact ⟨key, g, hmem, .inr ((ih key g hmem).mpr
            ⟨next :: rest, (List.append_assoc base [key] _).symm, hf⟩)⟩

theorem mem_list_iff (h : Distinct fields) :
    (path, f) ∈ list fields ↔ find? fields path = some f := by
  rw [list, mem_listLevel_iff h]
  simp

/-! ## The lists of the trees below -/

/-- Fields of a tree that stands below a path. -/
def below (base : KeyPath) (xs : List (KeyPath × Field)) : List (KeyPath × Field) :=
  xs.map fun x => (base ++ x.1, x.2)

theorem mem_below_iff {xs : List (KeyPath × Field)} :
    (path, f) ∈ below base xs ↔ ∃ rest, (rest, f) ∈ xs ∧ path = base ++ rest := by
  simp [below, eq_comm]

theorem sizeOf_subfields_lt (f : Field) : sizeOf f.subfields < sizeOf f := by
  obtain ⟨name, type, required, _ | cs⟩ := f <;>
    simp only [Field.subfields, Option.getD_none, Option.getD_some, Field.mk.sizeOf_spec,
      Option.none.sizeOf_spec, Option.some.sizeOf_spec, List.nil.sizeOf_spec] <;> omega

/-- **Induction over the levels of a tree**, whatever its keys are. -/
theorem induction_subfields {motive : Fields → Prop}
    (level : ∀ fields, (∀ key f, (key, f) ∈ fields → motive f.subfields) → motive fields)
    (fields : Fields) : motive fields :=
  level fields fun _ f hf => induction_subfields level f.subfields
termination_by sizeOf fields
decreasing_by
  have hmem := List.sizeOf_lt_of_mem hf
  have hbelow := sizeOf_subfields_lt f
  rw [Prod.mk.sizeOf_spec] at hmem
  omega

/-- **A level further down is listed with longer paths.** -/
theorem listLevel_append (a b : KeyPath) (fields : Fields) :
    listLevel (a ++ b) fields = below a (listLevel b fields) := by
  induction fields using induction_subfields generalizing b with
  | level fields ih =>
    rw [listLevel_eq, listLevel_eq b, below, List.map_flatMap]
    refine List.flatMap_congr fun e he => ?_
    rw [List.append_assoc, ih e.1 e.2 he, List.map_cons, below]

theorem listLevel_eq_below (base : KeyPath) (fields : Fields) :
    listLevel base fields = below base (list fields) := by
  rw [list, ← listLevel_append, List.append_nil]

/-- A field of a level and everything below it. -/
def block (e : String × Field) : List (KeyPath × Field) :=
  ([e.1], e.2) :: below [e.1] (list e.2.subfields)

/-- **The list of a tree**, from the lists of the trees below its fields. -/
theorem list_eq (fields : Fields) : list fields = fields.flatMap block := by
  rw [list, listLevel_eq]
  simp only [List.nil_append, listLevel_eq_below]
  rfl

theorem list_append (a b : Fields) : list (a ++ b) = list a ++ list b := by
  rw [list_eq, list_eq, list_eq, List.flatMap_append]

theorem list_cons (e : String × Field) (rest : Fields) :
    list (e :: rest) = block e ++ list rest := by
  rw [list_eq, List.flatMap_cons, ← list_eq]

/-! ## The order of the list -/

theorem ne_nil_of_mem_list {x : KeyPath × Field} (h : x ∈ list fields) : x.1 ≠ [] := by
  rw [list_eq] at h
  obtain ⟨e, -, he⟩ := List.mem_flatMap.mp h
  rcases List.mem_cons.mp he with rfl | he
  · exact List.cons_ne_nil _ _
  · obtain ⟨rest, -, hx⟩ := mem_below_iff.mp he
    rw [hx]
    exact List.cons_ne_nil _ _

/-- **No path is listed twice.** -/
theorem nodup_paths_list (h : Distinct fields) : ((list fields).map Prod.fst).Nodup := by
  induction h with
  | @mk fields keys _ ih =>
    have paths : (list fields).map Prod.fst =
        fields.flatMap fun e => ([] :: (list e.2.subfields).map Prod.fst).map (e.1 :: ·) := by
      rw [list_eq, List.map_flatMap]
      refine List.flatMap_congr fun e _ => ?_
      simp [block, below, Function.comp_def]
    rw [paths]
    refine nodup_flatMap_cons keys fun e he => List.nodup_cons.mpr ⟨fun hnil => ?_, ih e.1 e.2 he⟩
    obtain ⟨x, hx, hpath⟩ := List.mem_map.mp hnil
    exact ne_nil_of_mem_list hx hpath

/-- **What is below a field is listed right behind it.** -/
theorem exists_list_split (h : Distinct fields) : ∀ {path : KeyPath} {f : Field},
    find? fields path = some f → ∃ before after,
      list fields = before ++ (path, f) :: below path (list f.subfields) ++ after := by
  induction h with
  | @mk fields _ _ ih =>
    intro path f hf
    cases path with
    | nil => nomatch hf
    | cons key rest =>
      cases rest with
      | nil =>
        obtain ⟨as, bs, rfl⟩ := List.append_of_mem (Entries.mem_of_get? hf)
        exact ⟨list as, list bs, by rw [list_append, list_cons, List.append_assoc]; rfl⟩
      | cons next rest =>
        rw [find?_cons_cons] at hf
        obtain ⟨g, hg, hf⟩ := Option.bind_eq_some_iff.mp hf
        have hmem := Entries.mem_of_get? hg
        obtain ⟨before, after, hbelow⟩ := ih key g hmem hf
        obtain ⟨as, bs, rfl⟩ := List.append_of_mem hmem
        refine ⟨list as ++ ([key], g) :: below [key] before, below [key] after ++ list bs, ?_⟩
        rw [list_append, list_cons, block, hbelow]
        simp [below]

/-- A listed path that goes on behind the path of a field is a path below that field. -/
theorem mem_below_of_mem_list (h : Distinct fields) {rest : KeyPath} {g : Field}
    (hf : find? fields path = some f) (hg : (path ++ rest, g) ∈ list fields) :
    (path ++ rest, g) ∈ (path, f) :: below path (list f.subfields) := by
  rw [mem_list_iff h] at hg
  by_cases hnil : rest = []
  · subst hnil
    rw [List.append_nil, hf] at hg
    rw [List.append_nil, Option.some.inj hg]
    exact List.mem_cons_self
  · rw [find?_append path hnil, levelAt_of_find? path hf] at hg
    exact List.mem_cons_of_mem _
      (mem_below_iff.mpr ⟨rest, (mem_list_iff (h.subfields_of_find? path hf)).mpr hg, rfl⟩)

/-- Nothing else in the list is below the field. -/
theorem not_isPrefix_of_split (h : Distinct fields) {before after : List (KeyPath × Field)}
    (hf : find? fields path = some f)
    (split : list fields = before ++ (path, f) :: below path (list f.subfields) ++ after) :
    ∀ x ∈ before ++ after, ¬ path <+: x.1 := by
  rintro ⟨q, g⟩ hx ⟨rest, rfl⟩
  have distinct := nodup_paths_list h
  have hlisted : (path ++ rest, g) ∈ list fields := by
    rw [split, List.append_assoc, List.mem_append, List.mem_append]
    exact (List.mem_append.mp hx).imp_right .inr
  have moved :=
    List.perm_append_comm_assoc before ((path, f) :: below path (list f.subfields)) after
  rw [split, List.append_assoc, (moved.map Prod.fst).nodup_iff, List.map_append] at distinct
  exact List.disjoint_of_nodup_append distinct
    (List.mem_map_of_mem (mem_below_of_mem_list h hf hlisted)) (List.mem_map_of_mem hx)

/-- Of a field and what is below it, the field alone stands in the level of the field. -/
theorem filter_block_nil (e : String × Field) :
    (block e).filter (fun x => x.1.dropLast = []) = [([e.1], e.2)] := by
  rw [block, List.filter_cons_of_pos (by simp), List.filter_eq_nil_iff.mpr]
  intro x hx
  obtain ⟨y, hy, rfl⟩ := List.mem_map.mp hx
  simp [List.dropLast_cons_of_ne_nil (ne_nil_of_mem_list hy)]

/-- Below a field stand the fields of the levels below it. -/
theorem filter_block_self (key : String) (f : Field) (parent : KeyPath) :
    (block (key, f)).filter (fun x => x.1.dropLast = key :: parent) =
      below [key] ((list f.subfields).filter fun x => x.1.dropLast = parent) := by
  rw [block, List.filter_cons_of_neg (by simp), below, below, List.filter_map]
  refine congrArg _ (List.filter_congr fun x hx => ?_)
  simp [List.dropLast_cons_of_ne_nil (ne_nil_of_mem_list hx)]

theorem filter_block_of_ne {e : String × Field} {key : String} (hkey : e.1 ≠ key)
    (parent : KeyPath) : (block e).filter (fun x => x.1.dropLast = key :: parent) = [] := by
  rw [block, List.filter_cons_of_neg (by simp), List.filter_eq_nil_iff]
  intro x hx
  obtain ⟨y, hy, rfl⟩ := List.mem_map.mp hx
  simp [List.dropLast_cons_of_ne_nil (ne_nil_of_mem_list hy), hkey]

/-- Under a key that a level does not have nothing is listed. -/
theorem filter_list_of_not_mem (hkey : key ∉ Entries.keys fields) (parent : KeyPath) :
    (list fields).filter (fun x => x.1.dropLast = key :: parent) = [] := by
  rw [list_eq, List.filter_flatMap, List.flatMap_eq_nil_iff]
  exact fun e he => filter_block_of_ne (ne_of_mem_of_not_mem (List.mem_map_of_mem he) hkey) parent

/-- **The fields of a level keep their order.** -/
theorem filter_list (h : Distinct fields) : ∀ {parent : KeyPath} {level : Fields},
    levelAt fields parent = some level →
      (list fields).filter (fun x => x.1.dropLast = parent) =
        level.map fun e => (parent ++ [e.1], e.2) := by
  induction h with
  | @mk fields keys _ ih =>
    intro parent level hl
    cases parent with
    | nil =>
      obtain rfl : fields = level := Option.some.inj hl
      rw [list_eq, List.filter_flatMap, List.map_eq_flatMap]
      exact List.flatMap_congr fun e _ => filter_block_nil e
    | cons key parent =>
      rw [levelAt_cons] at hl
      obtain ⟨f, hf, hl⟩ := Option.bind_eq_some_iff.mp hl
      have hsub := ih key f (Entries.mem_of_get? hf) hl
      obtain ⟨before, after, rfl, hbefore, hafter⟩ := Entries.exists_split keys hf
      rw [list_append, list_cons, List.filter_append, List.filter_append,
        filter_list_of_not_mem hbefore, filter_list_of_not_mem hafter, filter_block_self, hsub]
      simp [below]

/-- **A tree is listed in its order.**  The list of a tree of mappings has each path at which a
field is found, with that field, and has it once.

* A field stands directly before the list of the fields below it, which is the list of the tree
  below it; nothing else in the list is below it.
* The fields of each level stand in the order of the level. -/
theorem tree_listed_in_order (h : Distinct fields) :
    (∀ path f, (path, f) ∈ list fields ↔ path ≠ [] ∧ find? fields path = some f) ∧
    ((list fields).map Prod.fst).Nodup ∧
    (∀ path f, find? fields path = some f → ∃ before after,
      list fields = before ++ (path, f) :: below path (list f.subfields) ++ after ∧
        ∀ x ∈ before ++ after, ¬ path <+: x.1) ∧
    ∀ parent level, levelAt fields parent = some level →
      (list fields).filter (fun x => x.1.dropLast = parent) =
        level.map fun e => (parent ++ [e.1], e.2) := by
  refine ⟨fun path f => ?_, nodup_paths_list h, fun path f hf => ?_, fun _ _ => filter_list h⟩
  · rw [mem_list_iff h, iff_and_self]
    rintro hf rfl
    nomatch hf
  · obtain ⟨before, after, split⟩ := exists_list_split h hf
    exact ⟨before, after, split, not_isPrefix_of_split h hf split⟩

/-- The fields of the person stand right behind the owner of the order, and in their order. -/
theorem tree_listed_in_order_orderFields :
    Distinct orderFields ∧
    (["owner", "email"], { name := "email" }) ∈ list orderFields ∧
    (∃ before after, list orderFields = before ++
      (["owner"], { name := "owner", type := "object", children := some personFields }) ::
        below ["owner"] (list personFields) ++ after ∧
      ∀ x ∈ before ++ after, ¬ ["owner"] <+: x.1) ∧
    (list orderFields).filter (fun x => x.1.dropLast = ["owner"]) =
      [(["owner", "name"], { name := "name", required := true }),
        (["owner", "email"], { name := "email" }), (["owner", "phone"], { name := "phone" })] := by
  have keyed : Keyed orderFields := by decide
  obtain ⟨listed, -, split, ordered⟩ := tree_listed_in_order keyed.toDistinct
  exact ⟨keyed.toDistinct, (listed _ _).mpr (by decide), split ["owner"] _ rfl,
    ordered ["owner"] personFields rfl⟩

end AdminConsole.Fields
