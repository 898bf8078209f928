import AdminConsole.Proofs.Schema.Frame

/-!
# Proofs/Schema/Adding — what adding a field does to its level

Names are drawn until one is free, but not more than a hundred; after that the last one is made
longer, and nobody looks whether the longer name is free (`newName_cases`).

* Under a name that is free, a text leaf is put in front of the level and nothing else changes
  (`inserted_of_fresh`).
* Under one that is taken nothing is added: the sibling that has it is put in front.

So a field is added exactly if one of the drawn names is free, or else the longer one is
(`addChild_inserts_iff`), and there are levels that get none although a key is returned
(`nothing_added`).
-/

namespace AdminConsole.Fields

/-- The name that is taken when all that were drawn are in use: the last one, made longer by the
size of the level. -/
def longerName (names : Nat → String) (level : Fields) : String :=
  names (maxAttempts - 1) ++ "_" ++ Decimal.intText level.length

/-- **A text leaf under a new key stands in front of a level**, and all else is as it was, from the
tree `t` to `t'`. -/
structure Inserted (parent : KeyPath) (key : String) (level t t' : Fields) : Prop where
  fresh : key ∉ Entries.keys level
  /-- The leaf is followed by the fields that were there, in their order. -/
  front : levelAt t' parent =
    some ((key, { name := key, type := "string", required := false, children := none }) :: level)
  /-- What is neither in the level nor on the way there is found as before, or is still missing. -/
  elsewhere : ∀ q, ¬ parent <+: q → ¬ q <+: parent → find? t' q = find? t q
  /-- A field on the way keeps everything but its children. -/
  ancestor : ∀ a, a <+: parent → a ≠ [] → ∃ f children, find? t a = some f ∧
    find? t' a = some { f with children := some children }
  /-- Every level that is not at or below the path keeps its keys in their order. -/
  siblings : ∀ l, ¬ parent <+: l → siblings t' l = siblings t l

variable {names : Nat → String} {level t : Fields} {key : String} {parent : KeyPath}

/-! ## Drawing a name -/

/-- **Names are drawn until one is free.**  If none of them is, the last one is made longer. -/
theorem freeName_cases (names : Nat → String) (level : Fields) (left : Nat) : ∀ attempt : Nat,
    (∃ i, i < attempt + left + 1 ∧ names i ∉ Entries.keys level ∧
      (∀ j, attempt ≤ j → j < i → names j ∈ Entries.keys level) ∧
      freeName names level attempt left = (names i, i + 1)) ∨
    (∀ i, attempt ≤ i → i < attempt + left + 1 → names i ∈ Entries.keys level) ∧
      freeName names level attempt left =
        (names (attempt + left) ++ "_" ++ Decimal.intText level.length, attempt + left + 1) := by
  induction left with
  | zero =>
      intro attempt
      by_cases htaken : names attempt ∈ Entries.keys level
      · refine .inr ⟨fun i hi hlt => ?_, ?_⟩
        · obtain rfl : attempt = i := by omega
          exact htaken
        · rw [freeName, if_pos (Entries.has_iff_mem_keys.mpr htaken)]
          rfl
      · refine .inl ⟨attempt, Nat.lt_succ_self attempt, htaken, fun j hj hlt => ?_, ?_⟩
        · exact absurd hlt (Nat.not_lt.mpr hj)
        · rw [freeName, if_neg (mt Entries.has_iff_mem_keys.mp htaken)]
  | succ left ih =>
      intro attempt
      by_cases htaken : names attempt ∈ Entries.keys level
      · -- the search goes on behind the name that is taken
        have hnext : freeName names level attempt (left + 1) =
            freeName names level (attempt + 1) left := by
          rw [freeName, if_pos (Entries.has_iff_mem_keys.mpr htaken)]
        have hextend {n : Nat} (h : ∀ j, attempt + 1 ≤ j → j < n → names j ∈ Entries.keys level) :
            ∀ j, attempt ≤ j → j < n → names j ∈ Entries.keys level := fun j hj hlt =>
          (Nat.eq_or_lt_of_le hj).elim (fun heq => heq ▸ htaken) fun hgt => h j hgt hlt
        have hbound : attempt + 1 + left = attempt + (left + 1) := by omega
        have hrest := ih (attempt + 1)
        rw [← hnext, hbound] at hrest
        rcases hrest with ⟨i, hi, hfree, hbefore, heq⟩ | ⟨hall, heq⟩
        · exact .inl ⟨i, hi, hfree, hextend hbefore, heq⟩
        · exact .inr ⟨hextend hall, heq⟩
      · refine .inl ⟨attempt, by omega, htaken, fun j hj hlt => ?_, ?_⟩
        · exact absurd hlt (Nat.not_lt.mpr hj)
        · rw [freeName, if_neg (mt Entries.has_iff_mem_keys.mp htaken)]

/-- **The name for a new field** is the first one drawn that is free, or the longer name. -/
theorem newName_cases (names : Nat → String) (level : Fields) :
    (∃ i < maxAttempts, names i ∉ Entries.keys level ∧ (∀ j < i, names j ∈ Entries.keys level) ∧
      newName names level = (names i, i + 1)) ∨
    (∀ i < maxAttempts, names i ∈ Entries.keys level) ∧
      newName names level = (longerName names level, maxAttempts) := by
  have hcases := freeName_cases names level (maxAttempts - 1) 0
  have hbound : 0 + (maxAttempts - 1) + 1 = maxAttempts := rfl
  rw [hbound] at hcases
  rcases hcases with ⟨i, hi, hfree, hbefore, heq⟩ | ⟨hall, heq⟩
  · exact .inl ⟨i, hi, hfree, fun j => hbefore j (Nat.zero_le j), heq⟩
  · refine .inr ⟨fun i => hall i (Nat.zero_le i), ?_⟩
    rw [Nat.zero_add] at heq
    exact heq

/-- The new name is free exactly if a name that may be drawn is, or else the longer one. -/
theorem newName_fresh_iff : (newName names level).1 ∉ Entries.keys level ↔
    (∃ i < maxAttempts, names i ∉ Entries.keys level) ∨
      longerName names level ∉ Entries.keys level := by
  rcases newName_cases names level with ⟨i, hi, hfree, -, heq⟩ | ⟨htaken, heq⟩
  · rw [heq]
    exact iff_of_true hfree (.inl ⟨i, hi, hfree⟩)
  · rw [heq]
    exact ⟨.inr, fun h => h.resolve_left fun ⟨i, hi, hfree⟩ => hfree (htaken i hi)⟩

/-! ## The level with the new field -/

theorem addFront_of_fresh (fresh : key ∉ Entries.keys level) :
    addFront key level = (key, { name := key }) :: level := by
  rw [addFront, Entries.not_mem_keys_iff.mp fresh]

theorem addFront_of_get? {f : Field} (taken : Entries.get? key level = some f) :
    addFront key level = (key, f) :: Entries.erase key level := by
  rw [addFront, taken]

/-- Adding a field edits the level at the path, if that is there. -/
theorem exists_addChild (names : Nat → String) (hl : levelAt t parent = some level) : ∃ t',
    editAt (fun level' => some (addFront (newName names level).1 level')) parent t = some t' ∧
      levelAt t' parent = some (addFront (newName names level).1 level) ∧
      addChild names parent t = (t', some (newName names level).1, (newName names level).2) := by
  obtain ⟨t', ht', hlevel⟩ : ∃ t',
      editAt (fun level' => some (addFront (newName names level).1 level')) parent t = some t' ∧
        levelAt t' parent = some (addFront (newName names level).1 level) := exists_editAt hl rfl
  refine ⟨t', ht', hlevel, ?_⟩
  simp only [addChild, hl, ht', Option.getD_some]

/-- **Under a free key a text leaf is added and nothing else changes.** -/
theorem inserted_of_fresh {t' : Fields} (fresh : key ∉ Entries.keys level)
    (edited : editAt (fun level' => some (addFront key level')) parent t = some t')
    (front : levelAt t' parent = some (addFront key level)) : Inserted parent key level t t' where
  fresh := fresh
  front := front.trans (congrArg some (addFront_of_fresh fresh))
  elsewhere _ hq hq' := find?_editAt_of_not_prefix parent edited hq hq'
  ancestor _ ha hne := find?_editAt_of_prefix parent edited ha hne
  siblings _ hl := siblings_editAt parent edited hl

/-! ## Adding a field -/

/-- **A field is added exactly if a name for it is free**: one of those that are drawn, or else the
longer one.  Take any tree, any path and any names.

* If the path is there, adding returns a key: the first of the drawn names that is free, or else the
  longer name.
* Under a key that is free, a text leaf that is not required is put in front of the level, and
  nothing else changes.
* Under a key that is taken nothing is added: the field that has it is put in front of its siblings.
* If the path is not there, the tree is returned as it was, and no key. -/
theorem addChild_inserts_iff (names : Nat → String) (parent : KeyPath) (t : Fields) :
    ((parent = [] ∨ (find? t parent).isSome = true) → ∃ level key drawn t',
      levelAt t parent = some level ∧ addChild names parent t = (t', some key, drawn) ∧
      ((∃ i < maxAttempts, names i ∉ Entries.keys level ∧
          (∀ j < i, names j ∈ Entries.keys level) ∧ key = names i) ∨
        (∀ i < maxAttempts, names i ∈ Entries.keys level) ∧ key = longerName names level) ∧
      (Inserted parent key level t t' ↔
        (∃ i < maxAttempts, names i ∉ Entries.keys level) ∨
          longerName names level ∉ Entries.keys level) ∧
      ∀ f, Entries.get? key level = some f →
        levelAt t' parent = some ((key, f) :: Entries.erase key level)) ∧
    (parent ≠ [] → find? t parent = none → addChild names parent t = (t, none, 0)) := by
  refine ⟨fun there => ?_, fun hne hnone => ?_⟩
  · obtain ⟨level, hl⟩ := Option.isSome_iff_exists.mp ((isSome_levelAt_iff parent t).mpr there)
    obtain ⟨t', edited, front, hadd⟩ := exists_addChild names hl
    refine ⟨level, _, _, t', hl, hadd, ?_, ?_, fun f hf => ?_⟩
    · rcases newName_cases names level with ⟨i, hi, hfree, hbefore, heq⟩ | ⟨hall, heq⟩
      · exact .inl ⟨i, hi, hfree, hbefore, congrArg Prod.fst heq⟩
      · exact .inr ⟨hall, congrArg Prod.fst heq⟩
    · rw [← newName_fresh_iff]
      exact ⟨Inserted.fresh, fun fresh => inserted_of_fresh fresh edited front⟩
    · rw [front, addFront_of_get? hf]
  · have hlevel : levelAt t parent = none := by
      rw [← Option.not_isSome_iff_eq_none, isSome_levelAt_iff, hnone]
      simp [hne]
    simp only [addChild, hlevel]

/-- Names for a new field, two of which the owner of an order has already. -/
def ownerNames (i : Nat) : String := ["name", "phone"].getD i "city"

/-- The third name that is drawn for a field of the owner is free. -/
theorem addChild_inserts_iff_orderFields :
    (find? orderFields ["owner"]).isSome = true ∧
      ∃ t', addChild ownerNames ["owner"] orderFields = (t', some "city", 3) ∧
        Inserted ["owner"] "city" personFields orderFields t' := by
  have found : (find? orderFields ["owner"]).isSome = true := by decide
  have drawn : (addChild ownerNames ["owner"] orderFields).2 = (some "city", 3) := by decide
  obtain ⟨level, key, n, t', hl, hadd, -, hiff, -⟩ :=
    (addChild_inserts_iff ownerNames ["owner"] orderFields).1 (.inr found)
  obtain rfl : personFields = level := Option.some.inj hl
  rw [hadd, Prod.mk.injEq, Option.some.injEq] at drawn
  obtain ⟨rfl, rfl⟩ := drawn
  exact ⟨found, t', hadd, hiff.mpr (.inl ⟨2, by decide, by decide⟩)⟩

/-- Two fields, the second under the name that the first leads to. -/
def numberedFields : Fields :=
  [("name", { name := "name" }), ("name_2", { name := "name_2", required := true })]

/-- **A key is returned, but no field is added**: every name that is drawn is taken, and so is the
longer one. The fields have changed places. -/
theorem nothing_added :
    addChild (fun _ => "name") [] numberedFields = (numberedFields.reverse, some "name_2", 100) ∧
      ¬ Inserted [] "name_2" numberedFields numberedFields numberedFields.reverse :=
  ⟨by decide, fun h => h.fresh (by decide)⟩

end AdminConsole.Fields
