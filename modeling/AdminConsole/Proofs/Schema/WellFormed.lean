import AdminConsole.Proofs.Entries
import AdminConsole.Schema.Edit

/-!
# Proofs/Schema/WellFormed — edits keep a tree of fields well-formed

A level is **well-formed** when its keys are distinct, each key is the name of its field, each type
satisfies `T`, and all of this holds again below every field.  An edit at a path rebuilds the spine
above the level that it changes, so `Hereditary.editAt` needs the edited level alone; the levels
after an update, a rename, a deletion and an addition follow from it.
-/

namespace AdminConsole.Fields

/-- **A well-formed tree**, with `T` the types that may occur. -/
inductive WellFormed (T : String → Prop) : Fields → Prop
  | mk {fields : Fields}
      (distinct : (Entries.keys fields).Nodup)
      (name_eq : ∀ key f, (key, f) ∈ fields → f.name = key)
      (type : ∀ key f, (key, f) ∈ fields → T f.type)
      (below : ∀ key f children, (key, f) ∈ fields → f.children = some children →
        WellFormed T children) :
      WellFormed T fields

/-- A field whose type may occur and whose children are well-formed. -/
structure Sound (T : String → Prop) (f : Field) : Prop where
  type : T f.type
  below : ∀ children, f.children = some children → WellFormed T children

variable {T U : String → Prop} {fields : Fields} {key : String} {f : Field}

/-! ## Levels and their fields -/

theorem WellFormed.nil : WellFormed T [] :=
  .mk Entries.nodup_keys_nil (by simp) (by simp) (by simp)

theorem WellFormed.of_fields (distinct : (Entries.keys fields).Nodup)
    (sound : ∀ key f, (key, f) ∈ fields → f.name = key ∧ Sound T f) : WellFormed T fields :=
  .mk distinct (fun key f hf => (sound key f hf).1) (fun key f hf => (sound key f hf).2.type)
    (fun key f children hf => (sound key f hf).2.below children)

theorem WellFormed.distinct (h : WellFormed T fields) : (Entries.keys fields).Nodup := by
  cases h with
  | mk distinct _ _ _ => exact distinct

theorem WellFormed.name_eq (h : WellFormed T fields) (hf : (key, f) ∈ fields) : f.name = key := by
  cases h with
  | mk _ name_eq _ _ => exact name_eq key f hf

theorem WellFormed.sound (h : WellFormed T fields) (hf : (key, f) ∈ fields) : Sound T f := by
  cases h with
  | mk _ _ type below => exact ⟨type key f hf, fun children => below key f children hf⟩

/-- More types may occur. -/
theorem WellFormed.mono (hT : ∀ t, T t → U t) (h : WellFormed T fields) : WellFormed U fields := by
  induction h with
  | mk distinct name_eq type _ ih =>
      exact .mk distinct name_eq (fun key f hf => hT _ (type key f hf)) ih

theorem Sound.subfields (h : Sound T f) : WellFormed T f.subfields := by
  rw [Field.subfields]
  cases hc : f.children with
  | none => exact .nil
  | some children => exact h.below children hc

/-- **Induction over the levels of a tree**, a leaf having an empty level below it. -/
theorem WellFormed.induction_subfields {motive : ∀ fields : Fields, WellFormed T fields → Prop}
    (level : ∀ {fields : Fields} (h : WellFormed T fields),
      (∀ key f (hf : (key, f) ∈ fields), motive f.subfields (h.sound hf).subfields) →
        motive fields h)
    (h : WellFormed T fields) : motive fields h := by
  induction h with
  | mk distinct name_eq type below ih =>
      refine level _ fun key f hf => ?_
      cases hc : f.children with
      | none =>
          have hnil : f.subfields = [] := by rw [Field.subfields, hc]; rfl
          simp only [hnil]
          exact level .nil fun _ _ h => absurd h List.not_mem_nil
      | some children =>
          have hsub : f.subfields = children := by rw [Field.subfields, hc]; rfl
          simp only [hsub]
          exact ih key f children hf hc

/-- The field that a look-up finds is sound. -/
theorem WellFormed.sound_of_findFrom (rest : KeyPath) : ∀ {fields : Fields} {key : String},
    WellFormed T fields → findFrom fields key rest = some f → Sound T f := by
  induction rest with
  | nil => exact fun h hf => h.sound (Entries.mem_of_get? hf)
  | cons next rest ih =>
      intro fields key h hf
      rw [findFrom] at hf
      cases hg : Entries.get? key fields with
      | none =>
          rw [hg] at hf
          nomatch hf
      | some g =>
          rw [hg] at hf
          exact ih (h.sound (Entries.mem_of_get? hg)).subfields hf

theorem WellFormed.sound_of_find? {path : KeyPath} (h : WellFormed T fields)
    (hf : find? fields path = some f) : Sound T f := by
  cases path with
  | nil => nomatch hf
  | cons key rest => exact h.sound_of_findFrom rest hf

/-! ## Edits of one level -/

theorem keys_replaceAt : Entries.keys (replaceAt key f fields) = Entries.keys fields := by
  rw [replaceAt, Entries.keys, Entries.keys, List.map_map]
  rfl

theorem mem_replaceAt {k : String} {g : Field} (h : (k, g) ∈ replaceAt key f fields) :
    (k = key ∧ g = f) ∨ (k, g) ∈ fields := by
  obtain ⟨⟨l, g'⟩, hmem, heq⟩ := List.mem_map.mp h
  obtain ⟨rfl, hg⟩ := Prod.mk.inj heq
  by_cases hl : l = key
  · rw [if_pos hl] at hg
    exact .inl ⟨hl, hg.symm⟩
  · rw [if_neg hl] at hg
    exact .inr (hg ▸ hmem)

theorem WellFormed.replaceAt (h : WellFormed T fields) (name : f.name = key) (hf : Sound T f) :
    WellFormed T (replaceAt key f fields) := by
  refine .of_fields ?_ fun k g hg => ?_
  · rw [keys_replaceAt]
    exact h.distinct
  · rcases mem_replaceAt hg with ⟨rfl, rfl⟩ | hg
    · exact ⟨name, hf⟩
    · exact ⟨h.name_eq hg, h.sound hg⟩

/-- An entry after a rename is the renamed field or an entry under a third key. -/
theorem mem_renameInPlace {k : String} {g : Field} (h : (k, g) ∈ renameInPlace key f fields) :
    (k = f.name ∧ g = f ∧ key ∈ Entries.keys fields) ∨
      ((k, g) ∈ fields ∧ k ≠ key ∧ k ≠ f.name) := by
  induction fields with
  | nil => nomatch h
  | cons e rest ih =>
      obtain ⟨l, g'⟩ := e
      have tail (hm : (k, g) ∈ renameInPlace key f rest) :
          (k = f.name ∧ g = f ∧ key ∈ Entries.keys ((l, g') :: rest)) ∨
            ((k, g) ∈ (l, g') :: rest ∧ k ≠ key ∧ k ≠ f.name) :=
        (ih hm).imp (fun h => ⟨h.1, h.2.1, List.mem_cons_of_mem _ h.2.2⟩)
          (fun h => ⟨List.mem_cons_of_mem _ h.1, h.2⟩)
      rw [renameInPlace] at h
      by_cases hl : l = key
      · rw [if_pos hl] at h
        rcases List.mem_cons.mp h with h | h
        · obtain ⟨rfl, rfl⟩ := Prod.mk.inj h
          exact .inl ⟨rfl, rfl, hl ▸ List.mem_cons_self⟩
        · exact tail h
      · rw [if_neg hl] at h
        by_cases hn : l = f.name
        · rw [if_pos hn] at h
          exact tail h
        · rw [if_neg hn] at h
          rcases List.mem_cons.mp h with h | h
          · obtain ⟨rfl, rfl⟩ := Prod.mk.inj h
            exact .inr ⟨List.mem_cons_self, hl, hn⟩
          · exact tail h

/-- **A rename keeps the keys distinct**, whether or not the new name is taken. -/
theorem nodup_keys_renameInPlace : ∀ {fields : Fields}, (Entries.keys fields).Nodup →
    (Entries.keys (renameInPlace key f fields)).Nodup
  | [], _ => Entries.nodup_keys_nil
  | (l, g) :: rest, hn => by
      obtain ⟨hl, hr⟩ := List.nodup_cons.mp hn
      have ih : (Entries.keys (renameInPlace key f rest)).Nodup := nodup_keys_renameInPlace hr
      rw [renameInPlace]
      by_cases hk : l = key
      · rw [if_pos hk]
        refine List.nodup_cons.mpr ⟨fun hm => ?_, ih⟩
        -- `key` is no key of the rest, so nothing there was renamed
        obtain ⟨⟨k, g'⟩, hg', hname⟩ := List.mem_map.mp hm
        rcases mem_renameInPlace hg' with ⟨_, _, hkey⟩ | ⟨_, _, hne⟩
        · exact hl (hk ▸ hkey)
        · exact hne hname
      · rw [if_neg hk]
        by_cases hname : l = f.name
        · rw [if_pos hname]
          exact ih
        · rw [if_neg hname]
          refine List.nodup_cons.mpr ⟨fun hm => ?_, ih⟩
          obtain ⟨⟨k, g'⟩, hg', rfl⟩ := List.mem_map.mp hm
          rcases mem_renameInPlace hg' with ⟨heq, _⟩ | ⟨hmem, _⟩
          · exact hname heq
          · exact hl (Entries.mem_keys_of_mem hmem)

theorem WellFormed.renameInPlace (h : WellFormed T fields) (hf : Sound T f) :
    WellFormed T (renameInPlace key f fields) := by
  refine .of_fields (nodup_keys_renameInPlace h.distinct) fun k g hg => ?_
  rcases mem_renameInPlace hg with ⟨rfl, rfl, _⟩ | ⟨hg, _⟩
  · exact ⟨rfl, hf⟩
  · exact ⟨h.name_eq hg, h.sound hg⟩

/-- A level without some of its entries. -/
theorem WellFormed.filter (h : WellFormed T fields) (keep : String × Field → Bool) :
    WellFormed T (fields.filter keep) := by
  refine .of_fields (h.distinct.sublist (List.filter_sublist.map Prod.fst)) fun k g hg => ?_
  have hmem : (k, g) ∈ fields := (List.mem_filter.mp hg).1
  exact ⟨h.name_eq hmem, h.sound hmem⟩

/-- A field in front of a level that does not have its name. -/
theorem WellFormed.cons (h : WellFormed T fields) (hf : Sound T f)
    (fresh : f.name ∉ Entries.keys fields) : WellFormed T ((f.name, f) :: fields) := by
  refine .of_fields (List.nodup_cons.mpr ⟨fresh, h.distinct⟩) fun k g hg => ?_
  rcases List.mem_cons.mp hg with hg | hg
  · obtain ⟨rfl, rfl⟩ := Prod.mk.inj hg
    exact ⟨rfl, hf⟩
  · exact ⟨h.name_eq hg, h.sound hg⟩

theorem WellFormed.renameToFront (h : WellFormed T fields) (hf : Sound T f) :
    WellFormed T (renameToFront key f fields) := by
  refine (h.filter _).cons hf fun hm => ?_
  obtain ⟨⟨k, g⟩, hg, rfl⟩ := List.mem_map.mp hm
  exact (of_decide_eq_true (List.mem_filter.mp hg).2).2 rfl

theorem WellFormed.erase (h : WellFormed T fields) (key : String) :
    WellFormed T (Entries.erase key fields) := h.filter _

theorem WellFormed.addFront (hT : ∀ t ∈ Field.types, T t) (h : WellFormed T fields)
    (key : String) : WellFormed T (addFront key fields) := by
  have fresh : key ∉ Entries.keys (Entries.erase key fields) :=
    Entries.not_mem_keys_iff.mpr (Entries.get?_erase_self key fields)
  rw [Fields.addFront]
  cases hg : Entries.get? key fields with
  | some f =>
      have hmem := Entries.mem_of_get? hg
      have hname : f.name = key := h.name_eq hmem
      subst hname
      exact (h.erase f.name).cons (h.sound hmem) fresh
  | none =>
      have leaf : Sound T { name := key } :=
        ⟨hT "string" (by decide), fun children hc => nomatch hc⟩
      exact h.cons leaf (Entries.not_mem_keys_iff.mpr hg)

/-! ## Edits at a path -/

/-- **What an edit below a field does**: it edits the children, and puts the field with the new ones
in its old place. -/
theorem exists_of_editAt_cons {edit : Fields → Option Fields} {rest : KeyPath} {fields' : Fields}
    (h : editAt edit (key :: rest) fields = some fields') :
    ∃ f children, Entries.get? key fields = some f ∧ editAt edit rest f.subfields = some children ∧
      fields' = replaceAt key { f with children := some children } fields := by
  rw [editAt] at h
  cases hf : Entries.get? key fields with
  | none =>
      rw [hf] at h
      nomatch h
  | some f =>
      simp only [hf] at h
      cases hc : editAt edit rest f.subfields with
      | none =>
          rw [hc] at h
          nomatch h
      | some children =>
          rw [hc] at h
          exact ⟨f, children, rfl, hc, (Option.some.inj h).symm⟩

/-- A property of levels that passes to the levels below, and that a rebuilt spine keeps. -/
structure Hereditary (P : Fields → Prop) : Prop where
  subfields : ∀ {level : Fields} {key : String} {f : Field}, P level → (key, f) ∈ level →
    P f.subfields
  splice : ∀ {level : Fields} {key : String} {f : Field} {children : Fields}, P level →
    (key, f) ∈ level → P children → P (replaceAt key { f with children := some children } level)

section Hereditary

variable {P : Fields → Prop} (hP : Hereditary P)

include hP

/-- **An edit that keeps a property of its level keeps it for the tree**, at any path. -/
theorem Hereditary.editAt {edit : Fields → Option Fields}
    (hedit : ∀ level level', P level → edit level = some level' → P level') (path : KeyPath) :
    ∀ {fields fields' : Fields}, P fields → editAt edit path fields = some fields' →
      P fields' := by
  induction path with
  | nil => exact fun h he => hedit _ _ h he
  | cons key rest ih =>
      intro fields fields' h he
      obtain ⟨f, children, hf, hc, rfl⟩ := exists_of_editAt_cons he
      have hmem : (key, f) ∈ fields := Entries.mem_of_get? hf
      exact hP.splice h hmem (ih (hP.subfields h hmem) hc)

/-- An edit that has nothing to do leaves the tree. -/
theorem Hereditary.getD_editAt {edit : Fields → Option Fields} (h : P fields)
    (hedit : ∀ level level', P level → edit level = some level' → P level') (path : KeyPath) :
    P ((Fields.editAt edit path fields).getD fields) := by
  cases he : Fields.editAt edit path fields with
  | none => exact h
  | some fields' => exact hP.editAt hedit path h he

theorem Hereditary.editEntry {edit : String → Fields → Option Fields} (h : P fields)
    (hedit : ∀ key level level', P level → edit key level = some level' → P level')
    (path : KeyPath) : P (editEntry edit path fields) := by
  rw [Fields.editEntry]
  cases splitLast path with
  | none => exact h
  | some p => exact hP.getD_editAt h (hedit p.2) p.1

end Hereditary

theorem hereditary_wellFormed (T : String → Prop) : Hereditary (WellFormed T) where
  subfields h hf := (h.sound hf).subfields
  splice {_ key f children} h hf hchildren := by
    have hname : f.name = key := h.name_eq hf
    refine h.replaceAt hname ⟨(h.sound hf).type, fun children' hc => ?_⟩
    obtain rfl := Option.some.inj hc
    exact hchildren

theorem WellFormed.rename (h : WellFormed T fields) (path : KeyPath) (hf : Sound T f)
    (toFront : Bool) : WellFormed T (rename path f toFront fields) := by
  refine (hereditary_wellFormed T).editEntry h (fun key level level' hlevel he => ?_) path
  by_cases hkey : Entries.has key level
  · rw [if_pos hkey] at he
    obtain rfl := Option.some.inj he
    cases toFront with
    | true => exact hlevel.renameToFront hf
    | false => exact hlevel.renameInPlace hf
  · rw [if_neg hkey] at he
    nomatch he

/-- A patched field is sound: an unknown type is not taken, and the children it may get are
well-formed. -/
theorem Sound.apply (hT : ∀ t ∈ Field.types, T t) (hf : Sound T f) {p : Patch}
    (hp : ∀ children, p.children = some (some children) → WellFormed T children) :
    Sound T (p.apply f) where
  type := by
    rw [Patch.apply]
    cases p.type with
    | none => exact hf.type
    | some t =>
        change T (if Field.types.contains t then t else f.type)
        by_cases ht : Field.types.contains t
        · rw [if_pos ht]
          exact hT t (List.contains_iff_mem.mp ht)
        · rw [if_neg ht]
          exact hf.type
  below children hc := by
    rw [Patch.apply] at hc
    cases hpc : p.children with
    | none =>
        rw [hpc] at hc
        exact hf.below children hc
    | some own =>
        rw [hpc] at hc
        exact hp children (hpc.trans (congrArg some hc))

theorem WellFormed.update (hT : ∀ t ∈ Field.types, T t) (h : WellFormed T fields) (path : KeyPath)
    {p : Patch} (hp : ∀ children, p.children = some (some children) → WellFormed T children) :
    WellFormed T (update path p fields) := by
  refine (hereditary_wellFormed T).editEntry h (fun key level level' hlevel he => ?_) path
  cases hf : Entries.get? key level with
  | none =>
      rw [hf] at he
      nomatch he
  | some f =>
      rw [hf] at he
      have hsound : Sound T (p.apply f) := (hlevel.sound (Entries.mem_of_get? hf)).apply hT hp
      obtain rfl := Option.some.inj he
      by_cases hname : (p.apply f).name = key
      · rw [if_pos hname]
        exact hlevel.replaceAt hname hsound
      · rw [if_neg hname]
        exact hlevel.renameInPlace hsound

theorem WellFormed.delete (h : WellFormed T fields) (path : KeyPath) :
    WellFormed T (delete path fields) := by
  refine (hereditary_wellFormed T).editEntry h (fun key level level' hlevel he => ?_) path
  by_cases hkey : Entries.has key level
  · rw [if_pos hkey] at he
    exact Option.some.inj he ▸ hlevel.erase key
  · rw [if_neg hkey] at he
    nomatch he

theorem WellFormed.addChild (hT : ∀ t ∈ Field.types, T t) (h : WellFormed T fields)
    (names : Nat → String) (parent : KeyPath) : WellFormed T (addChild names parent fields).1 := by
  rw [Fields.addChild]
  cases levelAt fields parent with
  | none => exact h
  | some level =>
      exact (hereditary_wellFormed T).getD_editAt h (fun level level' hlevel he =>
        Option.some.inj he ▸ hlevel.addFront hT _) parent

end AdminConsole.Fields
