import AdminConsole.Proofs.Schema.WellFormed

/-!
# Proofs/Schema/Distinct — edits keep the keys of a tree distinct

A tree stands for nested mappings when no key occurs twice at any level, whatever the fields are
called: that is what `Distinct` says.  Every edit keeps it, for the fields that a patch brings along
need no more than to be mappings themselves.
-/

namespace AdminConsole.Fields

/-- **A tree of mappings**: no key occurs twice at any level. -/
inductive Distinct : Fields → Prop
  | mk {fields : Fields} (keys : (Entries.keys fields).Nodup)
      (below : ∀ key f, (key, f) ∈ fields → Distinct f.subfields) :
      Distinct fields

variable {fields : Fields} {key : String} {f : Field}

/-! ## Levels and their fields -/

theorem Distinct.nil : Distinct [] :=
  .mk Entries.nodup_keys_nil fun _ _ h => nomatch h

theorem Distinct.keys (h : Distinct fields) : (Entries.keys fields).Nodup := by
  cases h with
  | mk keys _ => exact keys

theorem Distinct.subfields (h : Distinct fields) (hf : (key, f) ∈ fields) :
    Distinct f.subfields := by
  cases h with
  | mk _ below => exact below key f hf

theorem WellFormed.toDistinct {T : String → Prop} (h : WellFormed T fields) : Distinct fields := by
  induction h using WellFormed.induction_subfields with
  | level h ih => exact .mk h.distinct ih

/-- The field that a look-up finds has a tree of mappings below it. -/
theorem Distinct.subfields_of_find? (path : KeyPath) : ∀ {fields : Fields} {f : Field},
    Distinct fields → find? fields path = some f → Distinct f.subfields := by
  induction path with
  | nil =>
      intro _ _ _ hf
      cases hf
  | cons key rest ih =>
      intro fields f h hf
      cases rest with
      | nil => exact h.subfields (Entries.mem_of_get? hf)
      | cons next rest =>
          rw [find?, findFrom] at hf
          cases hg : Entries.get? key fields with
          | none =>
              rw [hg] at hf
              cases hf
          | some g =>
              rw [hg] at hf
              exact ih (h.subfields (Entries.mem_of_get? hg)) hf

/-! ## Edits of one level -/

theorem Distinct.replaceAt (h : Distinct fields) (hf : Distinct f.subfields) :
    Distinct (replaceAt key f fields) := by
  refine .mk ?_ fun k g hg => ?_
  · rw [keys_replaceAt]
    exact h.keys
  · rcases mem_replaceAt hg with ⟨-, rfl⟩ | hg
    · exact hf
    · exact h.subfields hg

theorem Distinct.renameInPlace (h : Distinct fields) (hf : Distinct f.subfields) :
    Distinct (renameInPlace key f fields) := by
  refine .mk (nodup_keys_renameInPlace h.keys) fun k g hg => ?_
  rcases mem_renameInPlace hg with ⟨-, rfl, -⟩ | ⟨hg, -⟩
  · exact hf
  · exact h.subfields hg

theorem Distinct.filter (h : Distinct fields) (keep : String × Field → Bool) :
    Distinct (fields.filter keep) :=
  .mk (h.keys.sublist (List.filter_sublist.map Prod.fst)) fun _ _ hg =>
    h.subfields (List.mem_filter.mp hg).1

/-- A field in front of a level that does not have its key. -/
theorem Distinct.cons (h : Distinct fields) (hf : Distinct f.subfields)
    (fresh : key ∉ Entries.keys fields) : Distinct ((key, f) :: fields) := by
  refine .mk (List.nodup_cons.mpr ⟨fresh, h.keys⟩) fun k g hg => ?_
  rcases List.mem_cons.mp hg with hg | hg
  · obtain ⟨rfl, rfl⟩ := Prod.mk.inj hg
    exact hf
  · exact h.subfields hg

theorem Distinct.renameToFront (h : Distinct fields) (hf : Distinct f.subfields) :
    Distinct (renameToFront key f fields) := by
  refine (h.filter _).cons hf fun hm => ?_
  obtain ⟨⟨k, g⟩, hg, rfl⟩ := List.mem_map.mp hm
  exact (of_decide_eq_true (List.mem_filter.mp hg).2).2 rfl

theorem Distinct.addFront (h : Distinct fields) (key : String) :
    Distinct (addFront key fields) := by
  have fresh : key ∉ Entries.keys (Entries.erase key fields) :=
    Entries.not_mem_keys_iff.mpr (Entries.get?_erase_self key fields)
  rw [Fields.addFront]
  cases hg : Entries.get? key fields with
  | some f => exact (h.filter _).cons (h.subfields (Entries.mem_of_get? hg)) fresh
  | none => exact h.cons .nil (Entries.not_mem_keys_iff.mpr hg)

/-! ## Edits at a path -/

theorem hereditary_distinct : Hereditary Distinct where
  subfields := Distinct.subfields
  splice h _ hchildren := h.replaceAt hchildren

theorem Distinct.rename (h : Distinct fields) (path : KeyPath) (hf : Distinct f.subfields)
    (toFront : Bool) : Distinct (rename path f toFront fields) := by
  refine hereditary_distinct.editEntry h (fun key level level' hlevel he => ?_) path
  by_cases hkey : Entries.has key level
  · rw [if_pos hkey] at he
    obtain rfl := Option.some.inj he
    cases toFront with
    | true => exact hlevel.renameToFront hf
    | false => exact hlevel.renameInPlace hf
  · rw [if_neg hkey] at he
    nomatch he

/-- What is below a patched field are the children that the patch gives, or the old ones. -/
theorem distinct_subfields_apply (hf : Distinct f.subfields) {p : Patch}
    (hp : ∀ children, p.children = some (some children) → Distinct children) :
    Distinct (p.apply f).subfields := by
  rw [Field.subfields, Patch.apply]
  cases hpc : p.children with
  | none => exact hf
  | some own =>
      cases own with
      | none => exact .nil
      | some children => exact hp children hpc

theorem Distinct.update (h : Distinct fields) (path : KeyPath) {p : Patch}
    (hp : ∀ children, p.children = some (some children) → Distinct children) :
    Distinct (update path p fields) := by
  refine hereditary_distinct.editEntry h (fun key level level' hlevel he => ?_) path
  cases hf : Entries.get? key level with
  | none =>
      rw [hf] at he
      nomatch he
  | some f =>
      rw [hf] at he
      have hsub : Distinct (p.apply f).subfields :=
        distinct_subfields_apply (hlevel.subfields (Entries.mem_of_get? hf)) hp
      obtain rfl := Option.some.inj he
      by_cases hname : (p.apply f).name = key
      · rw [if_pos hname]
        exact hlevel.replaceAt hsub
      · rw [if_neg hname]
        exact hlevel.renameInPlace hsub

theorem Distinct.delete (h : Distinct fields) (path : KeyPath) : Distinct (delete path fields) := by
  refine hereditary_distinct.editEntry h (fun key level level' hlevel he => ?_) path
  by_cases hkey : Entries.has key level
  · rw [if_pos hkey] at he
    exact Option.some.inj he ▸ hlevel.filter _
  · rw [if_neg hkey] at he
    nomatch he

theorem Distinct.addChild (h : Distinct fields) (names : Nat → String) (parent : KeyPath) :
    Distinct (addChild names parent fields).1 := by
  rw [Fields.addChild]
  cases levelAt fields parent with
  | none => exact h
  | some level =>
      exact hereditary_distinct.getD_editAt h (fun level level' hlevel he =>
        Option.some.inj he ▸ hlevel.addFront _) parent

end AdminConsole.Fields
