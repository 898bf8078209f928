import AdminConsole.Proofs.Schema.WellFormed

/-!
# Proofs/Schema/Path — look-ups and edits along key paths

A path leads through levels: what is found at `a ++ b` is what is found at `b` in the level at `a`
(`find?_append`).  An edit at a path changes the level there (`levelAt_editAt`) and, on the way to
it, the children of the fields that it passes (`find?_editAt_of_prefix`); a path that leaves this
way is looked up as before (`find?_editAt_of_not_prefix`).  Two edits at the same path are one edit
of the level there (`editAt_bind`).
-/

namespace AdminConsole.Fields

/-- A tree in which every key is the name of its field, whatever the types are. -/
abbrev Keyed : Fields → Prop := WellFormed fun _ => True

/-- The keys of the level at a path, in order. -/
def siblings (fields : Fields) (path : KeyPath) : Option (List String) :=
  (levelAt fields path).map Entries.keys

variable {fields fields' : Fields} {key : String} {f : Field} {edit : Fields → Option Fields}

/-! ## Keyed trees -/

theorem keyed_cons_iff : Keyed ((key, f) :: fields) ↔
    f.name = key ∧ key ∉ Entries.keys fields ∧ Keyed f.subfields ∧ Keyed fields := by
  constructor
  · intro h
    obtain ⟨hkey, hrest⟩ := List.nodup_cons.mp h.distinct
    refine ⟨h.name_eq List.mem_cons_self, hkey, (h.sound List.mem_cons_self).subfields, ?_⟩
    exact .of_fields hrest fun k g hg =>
      ⟨h.name_eq (List.mem_cons_of_mem _ hg), h.sound (List.mem_cons_of_mem _ hg)⟩
  · rintro ⟨rfl, hkey, hf, hrest⟩
    refine hrest.cons ⟨trivial, fun children hc => ?_⟩ hkey
    rwa [Field.subfields, hc] at hf

mutual

/-- Whether the tree below a field is keyed. -/
def fieldKeyed : Field → Bool
  | ⟨_, _, _, none⟩ => true
  | ⟨_, _, _, some children⟩ => levelKeyed children

/-- Whether a tree is keyed. -/
def levelKeyed : Fields → Bool
  | [] => true
  | (key, f) :: rest =>
    f.name == key && !Entries.has key rest && fieldKeyed f && levelKeyed rest

end

theorem levelKeyed_iff (fields : Fields) : levelKeyed fields = true ↔ Keyed fields := by
  refine levelKeyed.induct (fun f => fieldKeyed f = true ↔ Keyed f.subfields)
    (fun fields => levelKeyed fields = true ↔ Keyed fields) ?leaf ?node ?nil ?cons fields
  case leaf => exact fun name type required => iff_of_true rfl .nil
  case node => exact fun name type required children ih => ih
  case nil => exact iff_of_true rfl .nil
  case cons =>
    intro key f rest hf hrest
    rw [keyed_cons_iff, levelKeyed, ← hf, ← hrest, ← Entries.has_iff_mem_keys]
    simp [and_assoc]

instance (fields : Fields) : Decidable (Keyed fields) :=
  decidable_of_iff _ (levelKeyed_iff fields)

/-! ## Looking up along a path -/

theorem levelAt_cons (fields : Fields) (key : String) (rest : KeyPath) :
    levelAt fields (key :: rest) =
      (Entries.get? key fields).bind fun f => levelAt f.subfields rest := by
  rw [levelAt]
  cases Entries.get? key fields <;> rfl

theorem find?_cons_cons (fields : Fields) (key next : String) (rest : KeyPath) :
    find? fields (key :: next :: rest) =
      (Entries.get? key fields).bind fun f => find? f.subfields (next :: rest) := by
  rw [find?, findFrom]
  cases Entries.get? key fields <;> rfl

/-- Below a field one looks into its children. -/
theorem find?_cons_of_ne_nil {rest : KeyPath} (h : rest ≠ []) (fields : Fields) (key : String) :
    find? fields (key :: rest) =
      (Entries.get? key fields).bind fun f => find? f.subfields rest := by
  cases rest with
  | nil => exact absurd rfl h
  | cons next rest => exact find?_cons_cons fields key next rest

/-- A look-up depends on the field under the first key alone. -/
theorem find?_congr (h : Entries.get? key fields' = Entries.get? key fields) (rest : KeyPath) :
    find? fields' (key :: rest) = find? fields (key :: rest) := by
  cases rest with
  | nil => exact h
  | cons next rest => rw [find?_cons_cons, find?_cons_cons, h]

theorem levelAt_append (a b : KeyPath) : ∀ fields : Fields,
    levelAt fields (a ++ b) = (levelAt fields a).bind fun level => levelAt level b := by
  induction a with
  | nil => exact fun fields => rfl
  | cons key a ih =>
      intro fields
      rw [List.cons_append, levelAt_cons, levelAt_cons]
      cases Entries.get? key fields with
      | none => rfl
      | some f => exact ih f.subfields

/-- **What is at `a ++ b` is what is at `b` in the level at `a`.** -/
theorem find?_append (a : KeyPath) {b : KeyPath} (hb : b ≠ []) : ∀ fields : Fields,
    find? fields (a ++ b) = (levelAt fields a).bind fun level => find? level b := by
  induction a with
  | nil => exact fun fields => rfl
  | cons key a ih =>
      intro fields
      rw [List.cons_append, find?_cons_of_ne_nil (List.append_ne_nil_of_right_ne_nil a hb),
        levelAt_cons]
      cases Entries.get? key fields with
      | none => rfl
      | some f => exact ih f.subfields

theorem find?_concat (fields : Fields) (parent : KeyPath) (key : String) :
    find? fields (parent ++ [key]) = (levelAt fields parent).bind (Entries.get? key) :=
  find?_append parent (List.cons_ne_nil key []) fields

/-- The level at a path is there for the root and for every field. -/
theorem isSome_levelAt_iff (path : KeyPath) (fields : Fields) :
    (levelAt fields path).isSome = true ↔ path = [] ∨ (find? fields path).isSome = true := by
  rcases List.eq_nil_or_concat path with rfl | ⟨parent, key, rfl⟩
  · simp [levelAt]
  · have hone (level : Fields) : levelAt level [key] =
        (Entries.get? key level).map Field.subfields := by
      rw [levelAt_cons]
      cases Entries.get? key level <;> rfl
    rw [List.concat_eq_append, levelAt_append, find?_concat]
    cases levelAt fields parent with
    | none => simp
    | some level => simp [hone]

/-- A field stands in a level. -/
theorem isSome_levelAt_dropLast {path : KeyPath} (h : (find? fields path).isSome = true) :
    (levelAt fields path.dropLast).isSome = true := by
  rcases List.eq_nil_or_concat path with rfl | ⟨parent, key, rfl⟩
  · nomatch h
  · rw [List.concat_eq_append, find?_concat] at h
    rw [List.concat_eq_append, List.dropLast_concat]
    cases hl : levelAt fields parent with
    | none =>
        rw [hl] at h
        nomatch h
    | some level => rfl

/-- The level at the path of a field holds what is below it. -/
theorem levelAt_of_find? (path : KeyPath) : ∀ {fields : Fields} {f : Field},
    find? fields path = some f → levelAt fields path = some f.subfields := by
  induction path with
  | nil => exact fun hf => nomatch hf
  | cons key rest ih =>
    intro fields f hf
    rw [levelAt_cons]
    cases rest with
    | nil => rw [show Entries.get? key fields = some f from hf]; rfl
    | cons next rest =>
      rw [find?_cons_cons] at hf
      obtain ⟨g, hg, hf⟩ := Option.bind_eq_some_iff.mp hf
      rw [hg]
      exact ih hf

/-- The level at a path of a well-formed tree is well-formed. -/
theorem WellFormed.levelAt {T : String → Prop} (path : KeyPath) : ∀ {fields level : Fields},
    WellFormed T fields → levelAt fields path = some level → WellFormed T level := by
  induction path with
  | nil => exact fun h hl => Option.some.inj hl ▸ h
  | cons key rest ih =>
      intro fields level h hl
      rw [levelAt_cons] at hl
      obtain ⟨f, hf, hl⟩ := Option.bind_eq_some_iff.mp hl
      exact ih (h.sound (Entries.mem_of_get? hf)).subfields hl

/-! ## The edited level -/

/-- The entries of a level are replaced where they are. -/
theorem get?_replaceAt (l : String) : ∀ fields : Fields,
    Entries.get? l (replaceAt key f fields) =
      if l = key then (Entries.get? l fields).map fun _ => f else Entries.get? l fields
  | [] => by simp [replaceAt]
  | (k, g) :: rest => by
      have ih := get?_replaceAt l rest
      rw [replaceAt] at ih ⊢
      rw [List.map_cons, Entries.get?_cons, Entries.get?_cons]
      by_cases hkl : k = l
      · subst hkl
        by_cases hk : k = key
        · simp [hk]
        · simp [hk]
      · simpa [hkl] using ih

theorem splitLast_concat (key : String) : ∀ parent : KeyPath,
    splitLast (parent ++ [key]) = some (parent, key)
  | [] => rfl
  | [k] => rfl
  | k :: l :: rest => by
      have ih := splitLast_concat key (l :: rest)
      rw [List.cons_append] at ih
      rw [List.cons_append, List.cons_append, splitLast, ih]
      · rfl
      · simp

theorem editEntry_concat (edit : String → Fields → Option Fields) (parent : KeyPath) (key : String)
    (fields : Fields) : editEntry edit (parent ++ [key]) fields =
      (editAt (edit key) parent fields).getD fields := by
  rw [editEntry, splitLast_concat]

/-- An edit below a field edits its children. -/
theorem editAt_cons (key : String) (rest : KeyPath) (fields : Fields) :
    editAt edit (key :: rest) fields = (Entries.get? key fields).bind fun f =>
      (editAt edit rest f.subfields).map fun children =>
        replaceAt key { f with children := some children } fields := by
  rw [editAt]
  cases Entries.get? key fields with
  | none => rfl
  | some f => cases hc : editAt edit rest f.subfields <;> simp [hc]

/-- **An edit does something where its level is there and the edit of that level does.** -/
theorem isSome_editAt (path : KeyPath) : ∀ fields : Fields,
    (editAt edit path fields).isSome = ((levelAt fields path).bind edit).isSome := by
  induction path with
  | nil => exact fun fields => rfl
  | cons key rest ih =>
      intro fields
      rw [editAt, levelAt_cons]
      cases Entries.get? key fields with
      | none => rfl
      | some f =>
          change _ = ((levelAt f.subfields rest).bind edit).isSome
          rw [← ih f.subfields]
          cases hc : editAt edit rest f.subfields <;> simp [hc]

theorem get?_replaceAt_self (hf : Entries.get? key fields = some f) (g : Field) :
    Entries.get? key (replaceAt key g fields) = some g := by
  rw [get?_replaceAt, if_pos rfl, hf, Option.map_some]

/-- **The level at the path is the edited one.** -/
theorem levelAt_editAt (path : KeyPath) : ∀ {fields fields' : Fields},
    editAt edit path fields = some fields' →
      levelAt fields' path = (levelAt fields path).bind edit := by
  induction path with
  | nil => exact fun h => h.symm
  | cons key rest ih =>
      intro fields fields' h
      obtain ⟨f, children, hf, hc, rfl⟩ := exists_of_editAt_cons h
      rw [levelAt_cons, levelAt_cons, get?_replaceAt_self hf, hf]
      exact ih hc

/-- An edit of a level that is there is made in the tree. -/
theorem exists_editAt {path : KeyPath} {level level' : Fields}
    (hl : levelAt fields path = some level) (he : edit level = some level') :
    ∃ fields', editAt edit path fields = some fields' ∧ levelAt fields' path = some level' := by
  have hbind : (levelAt fields path).bind edit = some level' := by rw [hl]; exact he
  obtain ⟨fields', hfields'⟩ : ∃ fields', editAt edit path fields = some fields' :=
    Option.isSome_iff_exists.mp (by rw [isSome_editAt, hbind]; rfl)
  exact ⟨fields', hfields', (levelAt_editAt path hfields').trans hbind⟩

/-! ## Edits one after another -/

theorem with_own_children (f : Field) : ⟨f.name, f.type, f.required, f.children⟩ = f := by
  cases f
  rfl

theorem replaceAt_self (distinct : (Entries.keys fields).Nodup)
    (hf : Entries.get? key fields = some f) : replaceAt key f fields = fields := by
  refine (List.map_congr_left ?_).trans (List.map_id fields)
  rintro ⟨k, g⟩ hg
  by_cases hk : k = key
  · subst hk
    obtain rfl := Option.some.inj ((Entries.get?_of_mem distinct hg).symm.trans hf)
    simp
  · simp [hk]

theorem replaceAt_replaceAt (f g : Field) (fields : Fields) :
    replaceAt key g (replaceAt key f fields) = replaceAt key g fields := by
  rw [replaceAt, replaceAt, replaceAt, List.map_map]
  refine List.map_congr_left ?_
  rintro ⟨k, h⟩ -
  by_cases hk : k = key
  · simp [hk]
  · simp [hk]

/-- **Two edits at the same path are one edit of the level there.** -/
theorem editAt_bind (edit edit' : Fields → Option Fields) (path : KeyPath) : ∀ fields : Fields,
    (editAt edit path fields).bind (editAt edit' path) =
      editAt (fun level => (edit level).bind edit') path fields := by
  induction path with
  | nil => exact fun fields => rfl
  | cons key rest ih =>
      intro fields
      rw [editAt_cons, editAt_cons]
      cases hf : Entries.get? key fields with
      | none => rfl
      | some f =>
          rw [Option.bind_some, Option.bind_some, ← ih]
          cases editAt edit rest f.subfields with
          | none => rfl
          | some children =>
              rw [Option.map_some, Option.bind_some, Option.bind_some, editAt_cons,
                get?_replaceAt_self hf, Option.bind_some]
              simp only [replaceAt_replaceAt]
              rfl

/-- An edit depends on what it makes of the level at its path. -/
theorem editAt_congr {edit edit' : Fields → Option Fields} (path : KeyPath) :
    ∀ {fields : Fields}, (levelAt fields path).bind edit = (levelAt fields path).bind edit' →
      editAt edit path fields = editAt edit' path fields := by
  induction path with
  | nil => exact fun h => h
  | cons key rest ih =>
      intro fields h
      rw [levelAt_cons] at h
      rw [editAt_cons, editAt_cons]
      cases hf : Entries.get? key fields with
      | none => rfl
      | some f =>
          rw [hf] at h
          rw [Option.bind_some, Option.bind_some, ih h]

theorem eq_nil_of_levelAt_nil {path : KeyPath} {level : Fields}
    (h : levelAt [] path = some level) : level = [] := by
  cases path with
  | nil => exact (Option.some.inj h).symm
  | cons key rest => nomatch h

/-- **An edit that gives back its level gives back the tree**, if there is something in the level:
below a leaf it would leave an empty level. -/
theorem editAt_eq_self {level : Fields} (hne : level ≠ []) (he : edit level = some level)
    (path : KeyPath) : ∀ {fields : Fields}, Keyed fields → levelAt fields path = some level →
      editAt edit path fields = some fields := by
  induction path with
  | nil =>
      intro fields _ hl
      rw [Option.some.inj hl]
      exact he
  | cons key rest ih =>
      intro fields keyed hl
      rw [levelAt_cons] at hl
      obtain ⟨f, hf, hl⟩ := Option.bind_eq_some_iff.mp hl
      have below := ih (keyed.sound (Entries.mem_of_get? hf)).subfields hl
      have hchildren : some f.subfields = f.children := by
        cases hc : f.children with
        | none =>
            rw [Field.subfields, hc] at hl
            exact absurd (eq_nil_of_levelAt_nil hl) hne
        | some children => rw [Field.subfields, hc, Option.getD_some]
      rw [editAt_cons, hf, Option.bind_some, below, Option.map_some, hchildren, with_own_children,
        replaceAt_self keyed.distinct hf]

/-! ## The rest of the tree -/

theorem get?_replaceAt_of_ne {l : String} (h : l ≠ key) :
    Entries.get? l (replaceAt key f fields) = Entries.get? l fields := by
  rw [get?_replaceAt, if_neg h]

/-- **A path that leaves the way to the edited level is looked up as before.** -/
theorem find?_editAt_of_not_prefix (path : KeyPath) : ∀ {fields fields' : Fields} {q : KeyPath},
    editAt edit path fields = some fields' → ¬ path <+: q → ¬ q <+: path →
      find? fields' q = find? fields q := by
  induction path with
  | nil => exact fun _ hq => absurd List.nil_prefix hq
  | cons key rest ih =>
      intro fields fields' q h hq hq'
      obtain ⟨f, children, hf, hc, rfl⟩ := exists_of_editAt_cons h
      cases q with
      | nil => exact absurd List.nil_prefix hq'
      | cons k q =>
          by_cases hk : k = key
          · subst hk
            have hrest : ¬ rest <+: q := fun hp => hq (List.cons_prefix_cons.mpr ⟨rfl, hp⟩)
            have hrest' : ¬ q <+: rest := fun hp => hq' (List.cons_prefix_cons.mpr ⟨rfl, hp⟩)
            have hne : q ≠ [] := fun hnil => hrest' (hnil ▸ List.nil_prefix)
            rw [find?_cons_of_ne_nil hne, find?_cons_of_ne_nil hne, get?_replaceAt_self hf, hf]
            exact ih hc hrest hrest'
          · exact find?_congr (get?_replaceAt_of_ne hk) q

/-- **A field on the way to the edited level keeps everything but its children.** -/
theorem find?_editAt_of_prefix (path : KeyPath) : ∀ {fields fields' : Fields} {q : KeyPath},
    editAt edit path fields = some fields' → q <+: path → q ≠ [] →
      ∃ g children, find? fields q = some g ∧
        find? fields' q = some { g with children := some children } := by
  induction path with
  | nil => exact fun _ hq hne => absurd (List.prefix_nil.mp hq) hne
  | cons key rest ih =>
      intro fields fields' q h hq hne
      obtain ⟨f, children, hf, hc, rfl⟩ := exists_of_editAt_cons h
      cases q with
      | nil => exact absurd rfl hne
      | cons k q =>
          obtain ⟨rfl, hrest⟩ := List.cons_prefix_cons.mp hq
          by_cases hnil : q = []
          · subst hnil
            exact ⟨f, children, hf, get?_replaceAt_self hf _⟩
          · rw [find?_cons_of_ne_nil hnil, find?_cons_of_ne_nil hnil, get?_replaceAt_self hf, hf]
            exact ih hc hrest hnil

/-- **Only the edited level and those below it get other keys.** -/
theorem siblings_editAt (path : KeyPath) : ∀ {fields fields' : Fields} {l : KeyPath},
    editAt edit path fields = some fields' → ¬ path <+: l →
      siblings fields' l = siblings fields l := by
  induction path with
  | nil => exact fun _ hl => absurd List.nil_prefix hl
  | cons key rest ih =>
      intro fields fields' l h hl
      obtain ⟨f, children, hf, hc, rfl⟩ := exists_of_editAt_cons h
      cases l with
      | nil => exact congrArg some keys_replaceAt
      | cons k l =>
          rw [siblings, siblings, levelAt_cons, levelAt_cons]
          by_cases hk : k = key
          · subst hk
            rw [get?_replaceAt_self hf, hf]
            exact ih hc fun hp => hl (List.cons_prefix_cons.mpr ⟨rfl, hp⟩)
          · rw [get?_replaceAt_of_ne hk]

end AdminConsole.Fields
