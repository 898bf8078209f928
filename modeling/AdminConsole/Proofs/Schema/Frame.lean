import AdminConsole.Proofs.Schema.Path

/-!
# Proofs/Schema/Frame — an edit touches only what it addresses

An edit of the field at a path addresses that path and, if it puts a field under another name, the
path of that name.  Its level is changed at those two keys alone (`Replaced`); everything that is
neither addressed nor on the way there is found as before, in the same order (`Framed`).  An edit at
a path where nothing is found leaves the tree as it is.
-/

namespace AdminConsole.Fields

/-- An edit of the field at a path. -/
inductive Edit where
  | update (p : Patch)
  | rename (f : Field) (toFront : Bool)
  | delete

namespace Edit

/-- The tree after an edit. -/
def run (path : KeyPath) : Edit → Fields → Fields
  | .update p => Fields.update path p
  | .rename f toFront => Fields.rename path f toFront
  | .delete => Fields.delete path

/-- The field that an edit puts in place of `f`; a deletion puts none. -/
def result (f : Field) : Edit → Option Field
  | .update p => some (p.apply f)
  | .rename g _ => some g
  | .delete => none

/-- Whether the field that replaces `f` has the same name and is not moved. -/
def Stays (f : Field) : Edit → Prop
  | .update p => (p.apply f).name = f.name
  | .rename g toFront => g.name = f.name ∧ toFront = false
  | .delete => False

/-- The paths that an edit of `f` addresses: its own, and that of the new name. -/
def targets (path : KeyPath) (f : Field) (e : Edit) : List KeyPath :=
  path :: (e.result f).toList.map fun g => path.dropLast ++ [g.name]

/-- A path at or below one that an edit addresses. -/
def Addresses (path : KeyPath) (f : Field) (e : Edit) (q : KeyPath) : Prop :=
  ∃ a ∈ e.targets path f, a <+: q

instance (path : KeyPath) (f : Field) (e : Edit) (q : KeyPath) :
    Decidable (e.Addresses path f q) :=
  inferInstanceAs (Decidable (∃ a ∈ e.targets path f, a <+: q))

end Edit

/-- **What an edit of the field `f` at a path leaves as it was**, from the tree `t` to `t'`. -/
structure Framed (path : KeyPath) (f : Field) (e : Edit) (t t' : Fields) : Prop where
  /-- What is neither addressed nor on the way there is found as before, or is still missing. -/
  elsewhere : ∀ q, ¬ e.Addresses path f q → ¬ q <+: path → find? t' q = find? t q
  /-- A field on the way keeps its name, its type, its mark and its place. -/
  ancestor : ∀ a, a <+: path → a ≠ path → a ≠ [] →
    siblings t' a.dropLast = siblings t a.dropLast ∧ ∃ g children, find? t a = some g ∧
      find? t' a = some { g with children := some children }
  /-- The fields that are not addressed keep their order, at every level. -/
  order : ∀ l, ¬ e.Addresses path f l →
    (siblings t' l).map (fun ks => ks.filter fun k => ¬ e.Addresses path f (l ++ [k])) =
      (siblings t l).map fun ks => ks.filter fun k => ¬ e.Addresses path f (l ++ [k])
  /-- A field that stays keeps its place among the others. -/
  stays : e.Stays f → ∀ l, ¬ e.Addresses path f l → siblings t' l = siblings t l
  /-- The new field is under its name. -/
  placed : ∀ g ∈ e.result f, find? t' (path.dropLast ++ [g.name]) = some g
  /-- Nothing is left at or below the path of a field that was deleted or got another name. -/
  vacated : (∀ g ∈ e.result f, path.dropLast ++ [g.name] ≠ path) →
    ∀ q, path <+: q → find? t' q = none

/-- A level in which the field under `key` gave way to `new`, and no third one was touched. -/
structure Replaced (key : String) (new : Option Field) (level level' : Fields) : Prop where
  other : ∀ k, k ≠ key → (∀ g ∈ new, k ≠ g.name) → Entries.get? k level' = Entries.get? k level
  order : (Entries.keys level').filter (fun k => k ≠ key ∧ k ∉ new.map Field.name) =
    (Entries.keys level).filter fun k => k ≠ key ∧ k ∉ new.map Field.name
  placed : ∀ g ∈ new, Entries.get? g.name level' = some g
  vacated : (∀ g ∈ new, g.name ≠ key) → Entries.get? key level' = none

variable {level level' t t' : Fields} {key : String} {f : Field} {path parent : KeyPath} {e : Edit}
  {edit : Fields → Option Fields}

/-! ## Edits of one level -/

theorem replaced_replaceAt (name : f.name = key) (h : key ∈ Entries.keys level) :
    Replaced key (some f) level (replaceAt key f level) where
  other k hk _ := get?_replaceAt_of_ne hk
  order := by rw [keys_replaceAt]
  placed g hg := by
    obtain ⟨old, hold⟩ := Entries.mem_keys_iff.mp h
    obtain rfl := Option.some.inj hg
    rw [name]
    exact get?_replaceAt_self hold f
  vacated hne := absurd name (hne f rfl)

/-- A third key is found as before a rename. -/
theorem get?_renameInPlace_of_ne {k : String} (hk : k ≠ key) (hn : k ≠ f.name) :
    ∀ level : Fields, Entries.get? k (renameInPlace key f level) = Entries.get? k level
  | [] => rfl
  | (l, g) :: rest => by
      have ih := get?_renameInPlace_of_ne hk hn rest
      rw [renameInPlace, Entries.get?_cons]
      by_cases hl : l = key
      · have hlk : l ≠ k := fun h => hk (h.symm.trans hl)
        rw [if_pos hl, if_neg hlk, Entries.get?_cons, if_neg (Ne.symm hn), ih]
      · rw [if_neg hl]
        by_cases hln : l = f.name
        · have hlk : l ≠ k := fun h => hn (h.symm.trans hln)
          rw [if_pos hln, if_neg hlk, ih]
        · rw [if_neg hln, Entries.get?_cons, ih]

/-- The renamed field is found under its name. -/
theorem get?_renameInPlace_self : ∀ {level : Fields}, key ∈ Entries.keys level →
    Entries.get? f.name (renameInPlace key f level) = some f
  | (l, g) :: rest, h => by
      rw [renameInPlace]
      by_cases hl : l = key
      · rw [if_pos hl, Entries.get?_cons, if_pos rfl]
      · have hrest : key ∈ Entries.keys rest := (List.mem_cons.mp h).resolve_left (Ne.symm hl)
        rw [if_neg hl]
        by_cases hln : l = f.name
        · rw [if_pos hln]
          exact get?_renameInPlace_self hrest
        · rw [if_neg hln, Entries.get?_cons, if_neg hln]
          exact get?_renameInPlace_self hrest

theorem filter_keys_renameInPlace (p : String → Bool) (hkey : p key = false)
    (hname : p f.name = false) : ∀ level : Fields,
      (Entries.keys (renameInPlace key f level)).filter p = (Entries.keys level).filter p
  | [] => rfl
  | (l, g) :: rest => by
      have ih := filter_keys_renameInPlace p hkey hname rest
      rw [renameInPlace]
      by_cases hl : l = key
      · subst hl
        simp [hkey, hname, ih]
      · rw [if_neg hl]
        by_cases hln : l = f.name
        · subst hln
          simp [hname, ih]
        · rw [if_neg hln]
          simp [List.filter_cons, ih]

/-- Under its own name a field is put back where it was. -/
theorem keys_renameInPlace_of_name_eq (name : f.name = key) : ∀ level : Fields,
    Entries.keys (renameInPlace key f level) = Entries.keys level
  | [] => rfl
  | (l, g) :: rest => by
      have ih := keys_renameInPlace_of_name_eq name rest
      rw [renameInPlace]
      by_cases hl : l = key
      · rw [if_pos hl, Entries.keys_cons, Entries.keys_cons, ih, name, hl]
      · have hln : l ≠ f.name := fun h => hl (h.trans name)
        rw [if_neg hl, if_neg hln, Entries.keys_cons, Entries.keys_cons, ih]

theorem replaced_renameInPlace (h : key ∈ Entries.keys level) :
    Replaced key (some f) level (renameInPlace key f level) where
  other k hk hn := get?_renameInPlace_of_ne hk (hn f rfl) level
  order := filter_keys_renameInPlace _ (by simp) (by simp) level
  placed g hg := by
    obtain rfl := Option.some.inj hg
    exact get?_renameInPlace_self h
  vacated hne := by
    refine Entries.not_mem_keys_iff.mp fun hm => ?_
    obtain ⟨⟨k, g⟩, hg, rfl⟩ := List.mem_map.mp hm
    rcases mem_renameInPlace hg with ⟨hname, _, _⟩ | ⟨_, hk, _⟩
    · exact hne f rfl hname.symm
    · exact hk rfl

theorem get?_filter_keys {p : String → Bool} {k : String} (hk : p k = true) : ∀ level : Fields,
    Entries.get? k (level.filter fun e => p e.1) = Entries.get? k level
  | [] => rfl
  | (l, g) :: rest => by
      have ih := get?_filter_keys hk rest
      rw [List.filter_cons, Entries.get?_cons]
      by_cases hl : l = k
      · subst hl
        rw [if_pos hk, if_pos rfl, Entries.get?_cons, if_pos rfl]
      · rw [if_neg hl]
        by_cases hp : p l = true
        · rw [if_pos hp, Entries.get?_cons, if_neg hl, ih]
        · rw [if_neg hp, ih]

theorem replaced_renameToFront : Replaced key (some f) level (renameToFront key f level) where
  other k hk hn := by
    have hname : f.name ≠ k := Ne.symm (hn f rfl)
    rw [renameToFront, Entries.get?_cons, if_neg hname]
    exact get?_filter_keys (p := fun k => decide (k ≠ key ∧ k ≠ f.name))
      (decide_eq_true ⟨hk, Ne.symm hname⟩) level
  order := by
    rw [renameToFront, Entries.keys_cons, Entries.keys, Entries.keys, List.filter_cons]
    simp [List.filter_map, Function.comp_def, eq_comm]
  placed g hg := by
    obtain rfl := Option.some.inj hg
    rw [renameToFront, Entries.get?_cons, if_pos rfl]
  vacated hne := by
    refine Entries.not_mem_keys_iff.mp fun hm => ?_
    rcases List.mem_cons.mp hm with hm | hm
    · exact hne f rfl hm.symm
    · obtain ⟨⟨k, g⟩, hg, rfl⟩ := List.mem_map.mp hm
      exact (of_decide_eq_true (List.mem_filter.mp hg).2).1 rfl

theorem replaced_erase : Replaced key none level (Entries.erase key level) where
  other k hk _ := Entries.get?_erase_of_ne hk level
  order := by
    rw [Entries.erase, Entries.keys, Entries.keys]
    simp [List.filter_map, Function.comp_def]
  placed g hg := nomatch hg
  vacated _ := Entries.get?_erase_self key level

/-! ## Edits at a path -/

namespace Edit

/-- What an edit does to the level that holds its field. -/
def inLevel (key : String) : Edit → Fields → Option Fields
  | .update p => fun level =>
    match Entries.get? key level with
    | none => none
    | some f =>
      some (if (p.apply f).name = key then replaceAt key (p.apply f) level
        else renameInPlace key (p.apply f) level)
  | .rename f toFront => fun level =>
    if Entries.has key level then
      some (if toFront then renameToFront key f level else renameInPlace key f level)
    else none
  | .delete => fun level =>
    if Entries.has key level then some (Entries.erase key level) else none

theorem run_nil (e : Edit) (t : Fields) : e.run [] t = t := by
  cases e <;> rfl

theorem run_concat (e : Edit) (parent : KeyPath) (key : String) (t : Fields) :
    e.run (parent ++ [key]) t = (editAt (e.inLevel key) parent t).getD t := by
  cases e <;> exact editEntry_concat _ parent key t

theorem inLevel_of_get?_eq_none (h : Entries.get? key level = none) : e.inLevel key level = none := by
  have hhas : Entries.has key level = false := by rw [Entries.has, h, Option.isSome_none]
  cases e with
  | update p => simp only [Edit.inLevel, h]
  | rename g toFront => simp [Edit.inLevel, hhas]
  | delete => simp [Edit.inLevel, hhas]

/-- **An edit of a field that is there replaces it in its level**; one that stays keeps the keys. -/
theorem exists_inLevel (h : Entries.get? key level = some f) (name : f.name = key) :
    ∃ level', e.inLevel key level = some level' ∧ Replaced key (e.result f) level level' ∧
      (e.Stays f → Entries.keys level' = Entries.keys level) := by
  have hkey : key ∈ Entries.keys level := Entries.mem_keys_iff.mpr ⟨f, h⟩
  have hhas : Entries.has key level = true := Entries.has_iff_mem_keys.mpr hkey
  cases e with
  | update p =>
      by_cases hname : (p.apply f).name = key
      · exact ⟨_, by simp only [inLevel, h, if_pos hname], replaced_replaceAt hname hkey,
          fun _ => keys_replaceAt⟩
      · exact ⟨_, by simp only [inLevel, h, if_neg hname], replaced_renameInPlace hkey,
          fun stays => absurd (stays.trans name) hname⟩
  | rename g toFront =>
      cases toFront with
      | true =>
          exact ⟨_, by simp only [inLevel, hhas, if_true], replaced_renameToFront,
            fun stays => absurd stays.2.symm Bool.false_ne_true⟩
      | false =>
          exact ⟨renameInPlace key g level, by simp [inLevel, hhas], replaced_renameInPlace hkey,
            fun stays => keys_renameInPlace_of_name_eq (stays.1.trans name) level⟩
  | delete =>
      exact ⟨_, by simp only [inLevel, hhas, if_true], replaced_erase, False.elim⟩

end Edit

/-- An edit at a path where nothing is found does nothing. -/
theorem run_of_find?_eq_none (h : find? t path = none) : e.run path t = t := by
  rcases List.eq_nil_or_concat' path with rfl | ⟨parent, key, rfl⟩
  · exact e.run_nil t
  · have hlevel : (levelAt t parent).bind (e.inLevel key) = none := by
      rw [find?_concat] at h
      cases hl : levelAt t parent with
      | none => rfl
      | some level =>
          rw [hl] at h
          exact Edit.inLevel_of_get?_eq_none h
    have hnone : editAt (e.inLevel key) parent t = none := by
      rw [← Option.not_isSome_iff_eq_none, isSome_editAt, hlevel]
      exact Bool.false_ne_true
    rw [e.run_concat, hnone, Option.getD_none]

/-- **An edit of a field that is found** replaces it in the level that holds it, and that level in
the tree. -/
theorem exists_run (keyed : Keyed t) (h : find? t (parent ++ [key]) = some f) :
    ∃ level level', levelAt t parent = some level ∧
      editAt (e.inLevel key) parent t = some (e.run (parent ++ [key]) t) ∧
      levelAt (e.run (parent ++ [key]) t) parent = some level' ∧
      Replaced key (e.result f) level level' ∧
      (e.Stays f → Entries.keys level' = Entries.keys level) := by
  rw [find?_concat] at h
  obtain ⟨level, hl, hf⟩ := Option.bind_eq_some_iff.mp h
  have name : f.name = key := (keyed.levelAt parent hl).name_eq (Entries.mem_of_get? hf)
  obtain ⟨level', hlevel', replaced, stays⟩ := Edit.exists_inLevel (e := e) hf name
  obtain ⟨t', ht', hl'⟩ := exists_editAt hl hlevel'
  have hrun : e.run (parent ++ [key]) t = t' := by rw [e.run_concat, ht', Option.getD_some]
  rw [hrun]
  exact ⟨level, level', hl, ht', hl', replaced, stays⟩

/-! ## What is addressed -/

theorem addresses_iff {q : KeyPath} : e.Addresses (parent ++ [key]) f q ↔
    parent ++ [key] <+: q ∨ ∃ g ∈ e.result f, parent ++ [g.name] <+: q := by
  simp [Edit.Addresses, Edit.targets]

/-- Below the edited level the next key decides. -/
theorem addresses_append_cons {k : String} {rest : KeyPath} :
    e.Addresses (parent ++ [key]) f (parent ++ k :: rest) ↔
      k = key ∨ k ∈ (e.result f).map Field.name := by
  simp [addresses_iff, List.prefix_append_right_inj, List.cons_prefix_cons, @eq_comm _ k,
    Option.map_eq_some_iff]

/-- The fields that are not addressed are those that a replacement leaves. -/
theorem filter_addresses (ks : List String) :
    ks.filter (fun k => ¬ e.Addresses (parent ++ [key]) f (parent ++ [k])) =
      ks.filter fun k => k ≠ key ∧ k ∉ (e.result f).map Field.name := by
  refine List.filter_congr fun k _ => ?_
  rw [decide_eq_decide, addresses_append_cons, not_or]

/-! ## The frame -/

section Frame

variable (hl : levelAt t parent = some level) (he : editAt edit parent t = some t')
  (hl' : levelAt t' parent = some level') (replaced : Replaced key (e.result f) level level')

include hl he hl' replaced

theorem find?_of_not_addresses {q : KeyPath} (hq : ¬ e.Addresses (parent ++ [key]) f q)
    (hq' : ¬ q <+: parent ++ [key]) : find? t' q = find? t q := by
  by_cases hp : parent <+: q
  · obtain ⟨r, rfl⟩ := hp
    cases r with
    | nil => exact absurd (by simp) hq'
    | cons k r =>
        rw [addresses_append_cons, not_or] at hq
        have hr : k :: r ≠ [] := List.cons_ne_nil k r
        rw [find?_append parent hr, find?_append parent hr, hl, hl']
        exact find?_congr (replaced.other k hq.1 fun g hg hk =>
          hq.2 (Option.map_eq_some_iff.mpr ⟨g, hg, hk.symm⟩)) r
  · exact find?_editAt_of_not_prefix parent he hp fun h =>
      hq' (h.trans (List.prefix_append parent [key]))

theorem siblings_of_not_addresses {l : KeyPath} (hlevel : ¬ e.Addresses (parent ++ [key]) f l)
    (hne : l ≠ parent) : siblings t' l = siblings t l := by
  by_cases hp : parent <+: l
  · obtain ⟨r, rfl⟩ := hp
    cases r with
    | nil => exact absurd (List.append_nil parent) hne
    | cons k r =>
        rw [addresses_append_cons, not_or] at hlevel
        have hget : Entries.get? k level' = Entries.get? k level :=
          replaced.other k hlevel.1 fun g hg hk =>
            hlevel.2 (Option.map_eq_some_iff.mpr ⟨g, hg, hk.symm⟩)
        rw [siblings, siblings, levelAt_append, levelAt_append, hl, hl', Option.bind_some,
          Option.bind_some, levelAt_cons, levelAt_cons, hget]
  · exact siblings_editAt parent he hp

end Frame

/-- **An edit touches only what it addresses**: nothing where no field is found, and else the field
and what is called like its successor. -/
theorem edit_framed (keyed : Keyed t) (path : KeyPath) (e : Edit) :
    (find? t path = none → e.run path t = t) ∧
      ∀ f, find? t path = some f → Framed path f e t (e.run path t) := by
  refine ⟨run_of_find?_eq_none, fun f hf => ?_⟩
  rcases List.eq_nil_or_concat' path with rfl | ⟨parent, key, rfl⟩
  · nomatch hf
  obtain ⟨level, level', hl, he, hl', replaced, stays⟩ := exists_run (e := e) keyed hf
  have hparent : siblings t parent = some (Entries.keys level) := by
    rw [siblings, hl, Option.map_some]
  have hparent' : siblings (e.run (parent ++ [key]) t) parent = some (Entries.keys level') := by
    rw [siblings, hl', Option.map_some]
  refine
    { elsewhere := fun q hq hq' => find?_of_not_addresses hl he hl' replaced hq hq'
      ancestor := fun a ha hne hnil => ?_
      order := fun l hlevel => ?_
      stays := fun he' l hlevel => ?_
      placed := fun g hg => ?_
      vacated := fun hmoved q hq => ?_ }
  · have hap : a <+: parent := (List.prefix_concat_iff.mp ha).resolve_left hne
    obtain ⟨g, children, hg, hg'⟩ := find?_editAt_of_prefix parent he hap hnil
    refine ⟨siblings_editAt parent he fun h => ?_, g, children, hg, hg'⟩
    have hlt : a.dropLast.length < a.length := by
      rw [List.length_dropLast]
      exact Nat.sub_lt (List.length_pos_iff.mpr hnil) Nat.one_pos
    exact absurd (Nat.lt_of_le_of_lt h.length_le hlt) (Nat.not_lt.mpr hap.length_le)
  · by_cases hne : l = parent
    · subst hne
      rw [hparent, hparent', Option.map_some, Option.map_some, filter_addresses, filter_addresses,
        replaced.order]
    · rw [siblings_of_not_addresses hl he hl' replaced hlevel hne]
  · by_cases hne : l = parent
    · subst hne
      rw [hparent, hparent', stays he']
    · exact siblings_of_not_addresses hl he hl' replaced hlevel hne
  · rw [List.dropLast_concat, find?_concat, hl']
    exact replaced.placed g hg
  · obtain ⟨r, rfl⟩ := hq
    have hgone : Entries.get? key level' = none :=
      replaced.vacated fun g hg hname => hmoved g hg (by rw [List.dropLast_concat, hname])
    rw [List.append_assoc, List.singleton_append, find?_append parent (List.cons_ne_nil key r), hl',
      Option.bind_some]
    cases r with
    | nil => exact hgone
    | cons next r => rw [find?_cons_cons, hgone, Option.bind_none]

/-- The fields of a person. -/
def personFields : Fields :=
  [("name", { name := "name", required := true }), ("email", { name := "email" }),
    ("phone", { name := "phone" })]

/-- An order with the person who placed it. -/
def orderFields : Fields :=
  [("id", { name := "id" }),
    ("owner", { name := "owner", type := "object", children := some personFields }),
    ("total", { name := "total", type := "number" })]

/-- The name of the owner takes the key of the phone: that one goes, and `email` moves up. A path
through a leaf changes nothing. -/
theorem edit_framed_orderFields :
    Keyed orderFields ∧
      find? orderFields ["owner", "name"] = some { name := "name", required := true } ∧
      siblings (Edit.run ["owner", "name"] (.update { name := some "phone" }) orderFields)
        ["owner"] = some ["phone", "email"] ∧
      Framed ["owner", "name"] { name := "name", required := true }
        (.update { name := some "phone" }) orderFields
        (Edit.run ["owner", "name"] (.update { name := some "phone" }) orderFields) ∧
      Edit.run ["id", "name"] .delete orderFields = orderFields := by
  have leaf (name type : String) (required : Bool) :
      Sound (fun _ => True) { name := name, type := type, required := required } :=
    ⟨trivial, fun _ h => nomatch h⟩
  have person : Keyed personFields :=
    ((WellFormed.nil.cons (leaf "phone" "string" false) (by decide)).cons
      (leaf "email" "string" false) (by decide)).cons (leaf "name" "string" true) (by decide)
  have owner : Sound (fun _ => True)
      { name := "owner", type := "object", children := some personFields } :=
    ⟨trivial, fun _ h => Option.some.inj h ▸ person⟩
  have keyed : Keyed orderFields :=
    ((WellFormed.nil.cons (leaf "total" "number" false) (by decide)).cons owner (by decide)).cons
      (leaf "id" "string" false) (by decide)
  exact ⟨keyed, by decide, by decide,
    (edit_framed keyed ["owner", "name"] (.update { name := some "phone" })).2 _ (by decide),
    (edit_framed keyed ["id", "name"] .delete).1 (by decide)⟩

end AdminConsole.Fields
