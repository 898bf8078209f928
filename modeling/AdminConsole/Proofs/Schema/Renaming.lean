import AdminConsole.Proofs.Schema.Frame

/-!
# Proofs/Schema/Renaming — what a rename does to the siblings of a field

A level is what stands before a field, the field, and what stands after it.  A rename puts the new
field in the middle, or in front of everything, and takes an entry away that has the new name already
(`renameInPlace_split`, `renameToFront_split`).

So a rename in place to a free name loses nothing, and the rename back restores the level.  Two edits
at one path are one edit of the level there (`editAt_bind`), and an edit that gives back its level
gives back the tree (`editAt_eq_self`): with the level the tree is restored (`rename_back`).  An
update is the rename in place to the patched field (`update_eq_rename`).
-/

namespace AdminConsole.Fields

variable {level before after t : Fields} {key : String} {f g : Field} {parent : KeyPath}

/-! ## Renames of a level -/

theorem renameInPlace_append (before after : Fields) :
    renameInPlace key g (before ++ after) =
      renameInPlace key g before ++ renameInPlace key g after := by
  induction before with
  | nil => rfl
  | cons e rest ih =>
      rw [List.cons_append, renameInPlace, renameInPlace, ih]
      split
      · rfl
      · split
        · rfl
        · rfl

/-- Where there is nothing to rename, only the entry under the new name goes. -/
theorem renameInPlace_of_not_mem (h : key ∉ Entries.keys level) :
    renameInPlace key g level = Entries.erase g.name level := by
  induction level with
  | nil => rfl
  | cons e rest ih =>
      obtain ⟨hkey, hrest⟩ := not_or.mp (mt List.mem_cons.mpr h)
      rw [renameInPlace, if_neg (Ne.symm hkey), ih hrest]
      by_cases hname : e.1 = g.name
      · simp [Entries.erase, hname]
      · simp [Entries.erase, hname]

/-- **A rename in place** puts the new field where the old one was. -/
theorem renameInPlace_split (hbefore : key ∉ Entries.keys before)
    (hafter : key ∉ Entries.keys after) :
    renameInPlace key g (before ++ (key, f) :: after) =
      Entries.erase g.name before ++ (g.name, g) :: Entries.erase g.name after := by
  rw [renameInPlace_append, renameInPlace, if_pos rfl, renameInPlace_of_not_mem hbefore,
    renameInPlace_of_not_mem hafter]

/-- **A rename to the front** puts the new field before all others. -/
theorem renameToFront_split (hbefore : key ∉ Entries.keys before)
    (hafter : key ∉ Entries.keys after) :
    renameToFront key g (before ++ (key, f) :: after) =
      (g.name, g) :: Entries.erase g.name (before ++ after) := by
  rw [← Entries.erase_split hbefore hafter, Entries.erase, Entries.erase, List.filter_filter,
    renameToFront]
  congr 2
  funext e
  simp [Bool.and_comm]

/-- Under its own name a field is put where it was. -/
theorem renameInPlace_eq_replaceAt (name : g.name = key) : ∀ level : Fields,
    renameInPlace key g level = replaceAt key g level
  | [] => rfl
  | (k, f) :: rest => by
      have ih := renameInPlace_eq_replaceAt name rest
      rw [replaceAt] at ih
      by_cases hk : k = key
      · simp [renameInPlace, replaceAt, ih, hk, name]
      · simp [renameInPlace, replaceAt, ih, hk, name]

/-! ## Renames at a path -/

theorem rename_concat (toFront : Bool) (t : Fields) :
    rename (parent ++ [key]) g toFront t =
      (editAt ((Edit.rename g toFront).inLevel key) parent t).getD t :=
  (Edit.rename g toFront).run_concat parent key t

theorem inLevel_rename (hf : Entries.get? key level = some f) (toFront : Bool) :
    (Edit.rename g toFront).inLevel key level =
      some (if toFront then renameToFront key g level else renameInPlace key g level) := by
  have hkey : Entries.has key level = true := by rw [Entries.has, hf, Option.isSome_some]
  exact if_pos hkey

/-- **An update is a rename in place** to the patched field. -/
theorem update_eq_rename (found : find? t (parent ++ [key]) = some f) (p : Patch) :
    update (parent ++ [key]) p t = rename (parent ++ [key]) (p.apply f) false t := by
  rw [find?_concat] at found
  obtain ⟨level, hl, hf⟩ := Option.bind_eq_some_iff.mp found
  have inLevel : (Edit.update p).inLevel key level =
      (Edit.rename (p.apply f) false).inLevel key level := by
    rw [inLevel_rename hf]
    simp only [Edit.inLevel, hf]
    by_cases hname : (p.apply f).name = key
    · simp [hname, renameInPlace_eq_replaceAt hname]
    · simp [hname]
  have edits : editAt ((Edit.update p).inLevel key) parent t =
      editAt ((Edit.rename (p.apply f) false).inLevel key) parent t :=
    editAt_congr parent (by rw [hl]; exact inLevel)
  rw [rename_concat, ← edits]
  exact (Edit.update p).run_concat parent key t

/-- **A rename in place is undone by the rename back.** -/
theorem rename_back (keyed : Keyed t) (found : find? t (parent ++ [key]) = some f)
    (free : g.name = key ∨ find? t (parent ++ [g.name]) = none) :
    rename (parent ++ [g.name]) f false (rename (parent ++ [key]) g false t) = t := by
  rw [find?_concat] at found free
  obtain ⟨level, hl, hf⟩ := Option.bind_eq_some_iff.mp found
  have hlevel := keyed.levelAt parent hl
  have name : f.name = key := hlevel.name_eq (Entries.mem_of_get? hf)
  obtain ⟨before, after, rfl, hbefore, hafter⟩ := Entries.exists_split hlevel.distinct hf
  -- the new name is free on both sides of the field
  have fresh : g.name ∉ Entries.keys before ∧ g.name ∉ Entries.keys after := by
    rcases free with hname | hnone
    · rw [hname]
      exact ⟨hbefore, hafter⟩
    · rw [hl, Option.bind_some, ← Entries.not_mem_keys_iff, Entries.keys, List.map_append,
        List.mem_append, not_or, List.map_cons, List.mem_cons, not_or] at hnone
      exact ⟨hnone.1, hnone.2.2⟩
  have there : (Edit.rename g false).inLevel key (before ++ (key, f) :: after) =
      some (before ++ (g.name, g) :: after) := by
    rw [inLevel_rename hf, if_neg Bool.false_ne_true, renameInPlace_split hbefore hafter,
      Entries.erase_of_not_mem fresh.1, Entries.erase_of_not_mem fresh.2]
  have back : (Edit.rename f false).inLevel g.name (before ++ (g.name, g) :: after) =
      some (before ++ (key, f) :: after) := by
    rw [inLevel_rename (Entries.get?_split fresh.1), if_neg Bool.false_ne_true,
      renameInPlace_split fresh.1 fresh.2, name, Entries.erase_of_not_mem hbefore, Entries.erase_of_not_mem hafter]
  obtain ⟨t', ht', -⟩ := exists_editAt hl there
  have composed := editAt_bind ((Edit.rename g false).inLevel key)
    ((Edit.rename f false).inLevel g.name) parent t
  rw [ht', Option.bind_some, editAt_eq_self (by simp) (by rw [there]; exact back) parent keyed hl]
    at composed
  rw [rename_concat, rename_concat, ht', Option.getD_some, composed, Option.getD_some]

/-- The level of the renamed field, for both placements. -/
theorem levelAt_rename (keyed : Keyed t) (found : find? t (parent ++ [key]) = some f)
    (g : Field) : ∃ before after,
      levelAt t parent = some (before ++ (key, f) :: after) ∧
      levelAt (rename (parent ++ [key]) g false t) parent =
        some (Entries.erase g.name before ++ (g.name, g) :: Entries.erase g.name after) ∧
      levelAt (rename (parent ++ [key]) g true t) parent =
        some ((g.name, g) :: Entries.erase g.name (before ++ after)) := by
  rw [find?_concat] at found
  obtain ⟨level, hl, hf⟩ := Option.bind_eq_some_iff.mp found
  obtain ⟨before, after, rfl, hbefore, hafter⟩ :=
    Entries.exists_split (keyed.levelAt parent hl).distinct hf
  have renamed (toFront : Bool) : levelAt (rename (parent ++ [key]) g toFront t) parent =
      some (if toFront then renameToFront key g (before ++ (key, f) :: after)
        else renameInPlace key g (before ++ (key, f) :: after)) := by
    obtain ⟨t', ht', hlevel⟩ := exists_editAt hl (inLevel_rename hf toFront)
    rw [rename_concat, ht', Option.getD_some, hlevel]
  refine ⟨before, after, hl, ?_, ?_⟩
  · rw [renamed, if_neg Bool.false_ne_true, renameInPlace_split hbefore hafter]
  · rw [renamed, if_pos rfl, renameToFront_split hbefore hafter]

/-- **What a rename does to the siblings of a field.** The new field takes its place, or goes to the
front, and the one that had the new name goes; if none had it, the rename back restores the tree. An
update is the rename in place to the patched field. -/
theorem renamed_in_place_and_back (keyed : Keyed t) (found : find? t (parent ++ [key]) = some f)
    (g : Field) :
    (∃ before after,
      levelAt t parent = some (before ++ (key, f) :: after) ∧
      levelAt (rename (parent ++ [key]) g false t) parent =
        some (Entries.erase g.name before ++ (g.name, g) :: Entries.erase g.name after) ∧
      levelAt (rename (parent ++ [key]) g true t) parent =
        some ((g.name, g) :: Entries.erase g.name (before ++ after))) ∧
    ((g.name = key ∨ find? t (parent ++ [g.name]) = none) →
      rename (parent ++ [g.name]) f false (rename (parent ++ [key]) g false t) = t) ∧
    ∀ p : Patch, update (parent ++ [key]) p t = rename (parent ++ [key]) (p.apply f) false t :=
  ⟨levelAt_rename keyed found g, rename_back keyed found, update_eq_rename found⟩

/-- The name of the owner takes the key of the phone in place; under a key that is free it comes
back to where it was. -/
theorem renamed_in_place_and_back_orderFields :
    Keyed orderFields ∧
      find? orderFields ["owner", "name"] = some { name := "name", required := true } ∧
      (levelAt (rename ["owner", "name"] { name := "phone" } false orderFields) ["owner"]).map
        Entries.keys = some ["phone", "email"] ∧
      find? orderFields ["owner", "alias"] = none ∧
      rename ["owner", "alias"] { name := "name", required := true } false
        (rename ["owner", "name"] { name := "alias" } false orderFields) = orderFields :=
  have keyed : Keyed orderFields := by decide
  have found : find? orderFields (["owner"] ++ ["name"]) =
      some { name := "name", required := true } := by decide
  have free : find? orderFields ["owner", "alias"] = none := by decide
  ⟨keyed, found, by decide, free,
    (renamed_in_place_and_back keyed found { name := "alias" }).2.1 (.inr free)⟩

end AdminConsole.Fields
