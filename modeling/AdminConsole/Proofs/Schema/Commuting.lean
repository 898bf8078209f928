import AdminConsole.Proofs.Schema.Frame

/-!
# Proofs/Schema/Commuting — edits of single fields in either order

A deletion, and an update that brings neither a name nor children, change one field and leave the
rest of its level as it is.  Such an edit is a `changeAt` (`run_eq_changeAt`): along the path the
entry under the next key is changed, and every other entry stays.

What is changed at one place never depends on what is changed at another, not even where one place
is below the other: the fields on the way to a change keep everything but their children, and the
change itself looks at everything but the children (`Shallow`).  So two such edits give the same
tree in either order, wherever they are made (`changeAt_comm`, `edits_commute`).
-/

namespace AdminConsole.Fields

/-! ## Changing one field -/

/-- A level with the field under `key` changed, or without it if the change gives none. -/
def changeKey (key : String) (change : Field → Option Field) (fields : Fields) : Fields :=
  fields.filterMap fun (k, f) => if k = key then (change f).map (k, ·) else some (k, f)

/-- What a change of the field at a path below `f` makes of `f`. -/
def changeBelow (change : Field → Option Field) : KeyPath → Field → Option Field
  | [], f => change f
  | key :: rest, f =>
    some { f with children := f.children.map (changeKey key (changeBelow change rest)) }

/-- **A tree with the field at a path changed**; where no field is found everything stays. -/
def changeAt (change : Field → Option Field) : KeyPath → Fields → Fields
  | [], fields => fields
  | key :: rest, fields => changeKey key (changeBelow change rest) fields

variable {fields t : Fields} {key : String} {f g : Field} {c d : Field → Option Field}

theorem changeBelow_of_ne_nil {path : KeyPath} (h : path ≠ []) (f : Field) :
    changeBelow c path f =
      some { f with children := f.children.map (changeAt c path) } := by
  cases path with
  | nil => exact absurd rfl h
  | cons key rest => rfl

theorem changeKey_of_not_mem (h : key ∉ Entries.keys fields) :
    changeKey key c fields = fields := by
  refine (List.filterMap_congr ?_).trans List.filterMap_some
  rintro ⟨k, f⟩ hf
  have hk : k ≠ key := fun hk => h (hk ▸ Entries.mem_keys_of_mem hf)
  exact if_neg hk

theorem changeKey_none : changeKey key (fun _ => none) fields = Entries.erase key fields := by
  rw [changeKey, Entries.erase, ← List.filterMap_eq_filter]
  refine List.filterMap_congr ?_
  rintro ⟨k, f⟩ -
  by_cases hk : k = key
  · simp [hk, Option.guard]
  · simp [hk, Option.guard]

/-- Over distinct keys a change concerns the field that a look-up finds. -/
theorem changeKey_of_some (distinct : (Entries.keys fields).Nodup)
    (hf : Entries.get? key fields = some f) (hg : c f = some g) :
    changeKey key c fields = replaceAt key g fields := by
  rw [changeKey, replaceAt, ← List.filterMap_eq_map]
  refine List.filterMap_congr ?_
  rintro ⟨k, f'⟩ hf'
  by_cases hk : k = key
  · subst hk
    obtain rfl := Option.some.inj ((Entries.get?_of_mem distinct hf').symm.trans hf)
    simp [hg]
  · simp [hk]

/-! ## Two changes -/

/-- Two changes of a field that come to the same in either order. -/
def Interchange (c d : Field → Option Field) : Prop := ∀ f, (c f).bind d = (d f).bind c

/-- A change that neither looks at the children of a field nor touches them. -/
def Shallow (c : Field → Option Field) : Prop :=
  ∀ f children, c { f with children := children } =
    (c f).map fun g => { g with children := children }

theorem Interchange.symm (h : Interchange c d) : Interchange d c := fun f => (h f).symm

theorem Shallow.children_eq (h : Shallow c) (hg : c f = some g) : g.children = f.children := by
  have same := h f f.children
  rw [with_own_children, hg, Option.map_some] at same
  have hchildren := congrArg (Option.map Field.children) same
  exact Option.some.inj hchildren

/-- What happens to the children of a field does not matter to a shallow change of it. -/
theorem Shallow.interchange_changeBelow (h : Shallow d) (c : Field → Option Field) (key : String)
    (rest : KeyPath) : Interchange (changeBelow c (key :: rest)) d := by
  intro f
  rw [changeBelow, Option.bind_some, h]
  cases hg : d f with
  | none => rfl
  | some g => rw [Option.map_some, Option.bind_some, changeBelow, h.children_eq hg]

theorem changeKey_changeKey (fields : Fields) :
    changeKey key d (changeKey key c fields) = changeKey key (fun f => (c f).bind d) fields := by
  rw [changeKey, changeKey, changeKey, List.filterMap_filterMap]
  refine List.filterMap_congr ?_
  rintro ⟨k, f⟩ -
  by_cases hk : k = key
  · subst hk
    cases hc : c f <;> simp [hc]
  · simp [hk]

theorem changeKey_comm_of_ne {l : String} (h : key ≠ l) (fields : Fields) :
    changeKey key c (changeKey l d fields) = changeKey l d (changeKey key c fields) := by
  rw [changeKey, changeKey, changeKey, changeKey, List.filterMap_filterMap,
    List.filterMap_filterMap]
  refine List.filterMap_congr ?_
  rintro ⟨k, f⟩ -
  by_cases hk : k = key
  · subst hk
    cases hc : c f <;> simp [hc, h]
  · by_cases hl : k = l
    · subst hl
      cases hd : d f <;> simp [hd, hk]
    · simp [hk, hl]

theorem changeKey_comm (h : Interchange c d) (fields : Fields) :
    changeKey key c (changeKey key d fields) = changeKey key d (changeKey key c fields) := by
  rw [changeKey_changeKey, changeKey_changeKey]
  exact congrArg (changeKey key · fields) (funext fun f => (h f).symm)

/-- **Changes at two paths below a field interchange**, by recursion on both paths: they part, one
ends on the way of the other, or they are the same. -/
theorem interchange_changeBelow (hc : Shallow c) (hd : Shallow d) :
    ∀ p q : KeyPath, (p = q → Interchange c d) →
      Interchange (changeBelow c p) (changeBelow d q)
  | [], [], h => h rfl
  | key :: rest, [], _ => hd.interchange_changeBelow c key rest
  | [], key :: rest, _ => (hc.interchange_changeBelow d key rest).symm
  | k :: p, l :: q, h => by
      have below (fields : Fields) :
          changeKey l (changeBelow d q) (changeKey k (changeBelow c p) fields) =
            changeKey k (changeBelow c p) (changeKey l (changeBelow d q) fields) := by
        by_cases hkl : k = l
        · subst hkl
          refine changeKey_comm (Interchange.symm ?_) fields
          exact interchange_changeBelow hc hd p q fun hpq => h (congrArg (k :: ·) hpq)
        · exact changeKey_comm_of_ne (Ne.symm hkl) fields
      intro f
      simp only [changeBelow, Option.bind_some, Option.map_map]
      exact congrArg (fun m => some { f with children := f.children.map m }) (funext below)

/-- **Changes at two paths give the same tree in either order.** -/
theorem changeAt_comm (hc : Shallow c) (hd : Shallow d) {p q : KeyPath}
    (h : p = q → Interchange c d) (t : Fields) :
    changeAt c p (changeAt d q t) = changeAt d q (changeAt c p t) := by
  match p, q with
  | [], _ => rfl
  | _, [] => rfl
  | k :: p, l :: q =>
      by_cases hkl : k = l
      · subst hkl
        refine changeKey_comm (interchange_changeBelow hc hd p q fun hpq => ?_) t
        exact h (congrArg (k :: ·) hpq)
      · exact changeKey_comm_of_ne hkl t

/-! ## Edits as changes -/

/-- An edit that changes a field where it is, or deletes it, whatever is below it. -/
def Edit.InPlace : Edit → Prop
  | .update p => p.name = none ∧ p.children = none
  | .rename _ _ => False
  | .delete => True

theorem Edit.InPlace.shallow : ∀ {e : Edit}, e.InPlace → Shallow fun f => e.result f
  | .update p, h => fun f children => by
      simp only [Edit.result, Patch.apply, h.2, Option.map_some, Option.getD_none]
  | .delete, _ => fun _ _ => rfl

/-- In its level such an edit changes the field under the key. -/
theorem Edit.InPlace.getD_inLevel {e : Edit} (h : e.InPlace) (keyed : Keyed fields) :
    (e.inLevel key fields).getD fields = changeKey key (fun f => e.result f) fields := by
  cases hf : Entries.get? key fields with
  | none =>
      rw [Edit.inLevel_of_get?_eq_none hf, Option.getD_none,
        changeKey_of_not_mem (Entries.not_mem_keys_iff.mpr hf)]
  | some f =>
      have hkey : Entries.has key fields = true := by rw [Entries.has, hf, Option.isSome_some]
      cases e with
      | update p =>
          obtain ⟨name, -⟩ := h
          have hold : f.name = key := keyed.name_eq (Entries.mem_of_get? hf)
          have hname : (p.apply f).name = key := by rw [Patch.apply, name]; exact hold
          have hresult : Edit.result f (.update p) = some (p.apply f) := rfl
          simp only [Edit.inLevel, hf, if_pos hname, Option.getD_some]
          exact (changeKey_of_some keyed.distinct hf hresult).symm
      | rename g toFront => exact h.elim
      | delete =>
          simp only [Edit.inLevel, hkey, if_true, Option.getD_some]
          exact changeKey_none.symm

theorem editAt_level_nil {edit : Fields → Option Fields} (empty : edit [] = none)
    (path : KeyPath) : editAt edit path [] = none := by
  cases path with
  | nil => exact empty
  | cons key rest => rfl

/-- **An edit at the end of a path is a change along it.** -/
theorem getD_editAt {edit : Fields → Option Fields} (empty : edit [] = none)
    (level : ∀ {fields}, Keyed fields → (edit fields).getD fields = changeKey key c fields)
    (parent : KeyPath) : ∀ {fields}, Keyed fields →
      (editAt edit parent fields).getD fields = changeAt c (parent ++ [key]) fields := by
  induction parent with
  | nil => exact level
  | cons k rest ih =>
      intro fields keyed
      rw [List.cons_append, changeAt, editAt_cons]
      cases hf : Entries.get? k fields with
      | none => exact (changeKey_of_not_mem (Entries.not_mem_keys_iff.mpr hf)).symm
      | some f =>
          rw [Option.bind_some]
          have below := ih (keyed.sound (Entries.mem_of_get? hf)).subfields
          have changed := changeBelow_of_ne_nil (c := c)
            (List.append_ne_nil_of_right_ne_nil rest (List.cons_ne_nil key [])) f
          rw [changeKey_of_some keyed.distinct hf changed]
          -- the children of `f` are there if anything below it is edited
          cases hc : editAt edit rest f.subfields with
          | none =>
              rw [hc, Option.getD_none] at below
              have same : f.children.map (changeAt c (rest ++ [key])) = f.children := by
                cases hs : f.children with
                | none => rfl
                | some children =>
                    rw [Field.subfields, hs, Option.getD_some] at below
                    exact congrArg some below.symm
              rw [same, with_own_children, replaceAt_self keyed.distinct hf]
              rfl
          | some children =>
              rw [hc, Option.getD_some] at below
              have same : f.children.map (changeAt c (rest ++ [key])) = some children := by
                cases hs : f.children with
                | none =>
                    rw [Field.subfields, hs, Option.getD_none, editAt_level_nil empty] at hc
                    cases hc
                | some old =>
                    rw [Field.subfields, hs, Option.getD_some] at below
                    exact congrArg some below.symm
              rw [same]
              rfl

theorem run_eq_changeAt {e : Edit} (h : e.InPlace) (keyed : Keyed t) (path : KeyPath) :
    e.run path t = changeAt (fun f => e.result f) path t := by
  rcases List.eq_nil_or_concat' path with rfl | ⟨parent, key, rfl⟩
  · exact e.run_nil t
  · rw [e.run_concat]
    exact getD_editAt (Edit.inLevel_of_get?_eq_none rfl) h.getD_inLevel parent keyed

theorem Edit.InPlace.keyed : ∀ {e : Edit}, e.InPlace → Keyed t → ∀ path, Keyed (e.run path t)
  | .update _, h, keyed, path =>
      keyed.update (fun _ _ => trivial) path fun _ hc => nomatch h.2.symm.trans hc
  | .delete, _, keyed, path => keyed.delete path

/-! ## Edits in either order -/

/-- Two edits in place give the same tree in either order, if they do so on one field. -/
theorem run_comm (keyed : Keyed t) {p q : KeyPath} {d e : Edit} (hd : d.InPlace) (he : e.InPlace)
    (same : p = q → Interchange (fun f => d.result f) fun f => e.result f) :
    d.run p (e.run q t) = e.run q (d.run p t) := by
  rw [run_eq_changeAt hd (he.keyed keyed q), run_eq_changeAt he keyed,
    run_eq_changeAt he (hd.keyed keyed p), run_eq_changeAt hd keyed]
  exact changeAt_comm hd.shallow he.shallow same t

/-- **The order of edits of single fields does not show**, wherever their paths lead: two deletions,
a deletion and an update, and two updates at different paths give the same tree in either order,
when the updates bring neither a name nor children. -/
theorem edits_commute (keyed : Keyed t) (p q : KeyPath) :
    delete p (delete q t) = delete q (delete p t) ∧
    (∀ patch : Patch, patch.name = none → patch.children = none →
      delete p (update q patch t) = update q patch (delete p t)) ∧
    (p ≠ q → ∀ patch patch' : Patch, patch.name = none → patch.children = none →
      patch'.name = none → patch'.children = none →
        update p patch (update q patch' t) = update q patch' (update p patch t)) := by
  refine ⟨?_, fun patch name children => ?_,
    fun hne patch patch' name children name' children' => ?_⟩
  · exact run_comm keyed (d := .delete) (e := .delete) trivial trivial fun _ _ => rfl
  · exact run_comm keyed (d := .delete) (e := .update patch) trivial ⟨name, children⟩ fun _ _ => rfl
  · exact run_comm keyed (d := .update patch) (e := .update patch') ⟨name, children⟩
      ⟨name', children'⟩ fun hpq => absurd hpq hne

/-- An owner without a phone, in place of one with a phone, is an array: either edit may come first,
although one is made below the other. -/
theorem edits_commute_orderFields :
    Keyed orderFields ∧ ["owner", "phone"] ≠ ["owner"] ∧
      delete ["owner", "phone"] (delete ["owner"] orderFields) =
        delete ["owner"] (delete ["owner", "phone"] orderFields) ∧
      delete ["owner", "phone"] (update ["owner"] { type := some "array" } orderFields) =
        update ["owner"] { type := some "array" } (delete ["owner", "phone"] orderFields) ∧
      update ["owner", "phone"] { required := some true }
          (update ["owner"] { type := some "array" } orderFields) =
        update ["owner"] { type := some "array" }
          (update ["owner", "phone"] { required := some true } orderFields) := by
  have keyed : Keyed orderFields := by decide
  have hne : ["owner", "phone"] ≠ ["owner"] := by decide
  obtain ⟨deleted, mixed, updated⟩ := edits_commute keyed ["owner", "phone"] ["owner"]
  exact ⟨keyed, hne, deleted, mixed _ rfl rfl, updated hne _ _ rfl rfl rfl rfl⟩

end AdminConsole.Fields
