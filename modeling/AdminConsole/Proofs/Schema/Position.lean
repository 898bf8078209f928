import AdminConsole.Proofs.Schema.ChangePath
import AdminConsole.Proofs.Value.Key

/-!
# Proofs/Schema/Position — the positions of a schema document

A position of a schema document is a field, or a member of one: its path has the keys of the field
with `fields` between them, and then perhaps the name of the member (`tokens`).  Every path that
leads anywhere in the document is of this form (`exists_tokens_of_at?`), whatever the fields are
called.

Splitting a path goes by the places in it alone.  So it gives back field and member, and no two
positions are split alike: `positions_split_apart`.
-/

namespace AdminConsole

open Fields

namespace SchemaPath

/-- The path of a field in a schema document, or of one of its members. -/
def tokens (path : KeyPath) (member : Option String) : List Value :=
  fieldTokens path ++ (member.map Value.text).toList

theorem split_tokens {path : KeyPath} (ne : path ≠ []) (member : Option String) :
    split (tokens path member) = (path, member) := by
  cases member with
  | none => exact (congrArg split (List.append_nil _)).trans (split_fieldTokens ne)
  | some name => exact split_member ne name

/-- A position further down comes after a key and `fields`. -/
theorem tokens_cons (key : String) {path : KeyPath} (ne : path ≠ []) (member : Option String) :
    tokens (key :: path) member = .text key :: .text childrenKey :: tokens path member := by
  cases path with
  | nil => exact absurd rfl ne
  | cons next rest => rfl

/-! ## Paths that lead somewhere -/

variable {fields : Fields} {key : String} {f : Field} {v : Value}

/-- What a path of texts leads to in a document. -/
def textAt? (doc : Value) (path : List String) : Option Value := doc.at? (path.map Scalar.text)

theorem textAt?_map (es : List (Scalar × Value)) (key : String) (path : List String) :
    textAt? (.map es) (key :: path) = (Entries.get? (.text key) es).bind (textAt? · path) := by
  rw [textAt?, List.map_cons, Value.at?_cons_map, Value.lookupSame_text]
  rfl

/-- A path below the key of a field leads into the members of that field. -/
theorem textAt?_toWire (fields : Fields) (key : String) (path : List String) :
    textAt? fields.toWire (key :: path) =
      (Entries.get? key fields).bind fun f => textAt? (.map (wireMembers key f)) path := by
  rw [toWire, textAt?_map, get?_levelToWire]
  cases Entries.get? key fields <;> rfl

/-- A member of a field has no parts, or it is the level below the field. -/
theorem member_cases {name : String}
    (h : Entries.get? (.text name) (wireMembers key f) = some v) :
    (∃ s, v = .scalar s) ∨ name = childrenKey ∧ v = f.subfields.toWire := by
  have known := keys_wireMembers_subset key f (Entries.mem_keys_of_mem (Entries.mem_of_get? h))
  simp only [memberNames, List.mem_cons, Scalar.text.injEq, List.not_mem_nil, or_false] at known
  rcases known with rfl | rfl | rfl | rfl
  · rw [get?_name_wireMembers] at h
    exact .inl ⟨_, (Option.some.inj h).symm⟩
  · rw [get?_type_wireMembers] at h
    exact .inl ⟨_, (Option.some.inj h).symm⟩
  · rw [get?_required_wireMembers] at h
    exact .inl ⟨_, (Option.some.inj h).symm⟩
  · rw [get?_fields_wireMembers] at h
    split at h
    · cases h
    · exact .inr ⟨rfl, (Option.some.inj h).symm⟩

/-- **A path leads to a field or to a member of one.** -/
theorem exists_tokens_of_at? : ∀ {path : List String} {fields : Fields} {v : Value}, path ≠ [] →
    textAt? fields.toWire path = some v → ∃ keys member, keys ≠ [] ∧
      (find? fields keys).isSome = true ∧ path.map Value.text = tokens keys member
  | [], _, _, ne, _ => absurd rfl ne
  | [key], fields, v, _, h => by
      rw [textAt?_toWire] at h
      obtain ⟨f, hf, -⟩ := Option.bind_eq_some_iff.mp h
      exact ⟨[key], none, List.cons_ne_nil _ _, Option.isSome_of_eq_some hf, rfl⟩
  | key :: name :: rest, fields, v, _, h => by
      rw [textAt?_toWire] at h
      obtain ⟨f, hf, h⟩ := Option.bind_eq_some_iff.mp h
      rw [textAt?_map] at h
      obtain ⟨w, hw, h⟩ := Option.bind_eq_some_iff.mp h
      by_cases hrest : rest = []
      · subst hrest
        exact ⟨[key], some name, List.cons_ne_nil _ _, Option.isSome_of_eq_some hf, rfl⟩
      rcases member_cases hw with ⟨s, rfl⟩ | ⟨rfl, rfl⟩
      · obtain ⟨next, rest, rfl⟩ := List.exists_cons_of_ne_nil hrest
        nomatch h
      · obtain ⟨keys, member, ne, hfound, htokens⟩ := exists_tokens_of_at? hrest h
        refine ⟨key :: keys, member, List.cons_ne_nil _ _, ?_, ?_⟩
        · rw [find?_cons_of_ne_nil ne, hf]
          exact hfound
        · rw [tokens_cons key ne, ← htokens]
          rfl

/-- What a path is split into gives the path back. -/
theorem tokens_split {path : List String} (h : textAt? fields.toWire path = some v) :
    tokens (split (path.map Value.text)).1 (split (path.map Value.text)).2 =
      path.map Value.text := by
  by_cases hpath : path = []
  · subst hpath
    rfl
  · obtain ⟨keys, member, ne, -, htokens⟩ := exists_tokens_of_at? hpath h
    rw [htokens, split_tokens ne]

/-- **Paths in a schema document are split apart.**

* The keys of a field with `fields` between them, and a member after them if one is given, are split
  into just these, whatever keys and member are called.
* Every path that leads anywhere in the document of a tree is such a path of a field of the tree,
  and no two of them are split alike. -/
theorem positions_split_apart (fields : Fields) :
    (∀ keys member, keys ≠ [] → split (tokens keys member) = (keys, member)) ∧
    (∀ path v, path ≠ [] → textAt? fields.toWire path = some v → ∃ keys member,
      keys ≠ [] ∧ (find? fields keys).isSome = true ∧ path.map Value.text = tokens keys member) ∧
    ∀ path path' v v', textAt? fields.toWire path = some v →
      textAt? fields.toWire path' = some v' →
        split (path.map Value.text) = split (path'.map Value.text) → path = path' := by
  refine ⟨fun _ member ne => split_tokens ne member, fun _ _ => exists_tokens_of_at?,
    fun path path' v v' h h' heq => ?_⟩
  have texts : path.map Value.text = path'.map Value.text := by
    rw [← tokens_split h, ← tokens_split h', heq]
  exact List.map_injective_iff.mpr Value.text_injective texts

/-- A field that is called `fields`, with one below it that is called `name`. -/
def namesakeFields : Fields :=
  [("fields",
    { name := "fields", type := "object", children := some [("name", { name := "name" })] })]

/-- The name of the upper field and the lower field are told apart. -/
theorem positions_split_apart_namesakeFields :
    split (tokens ["fields", "name"] (some "fields")) = (["fields", "name"], some "fields") ∧
    (∃ keys member, keys ≠ [] ∧ (find? namesakeFields keys).isSome = true ∧
      ["fields", "fields", "name"].map Value.text = tokens keys member) ∧
    textAt? namesakeFields.toWire ["fields", "name"] = some (.text "fields") ∧
    split (["fields", "name"].map Value.text) ≠
      split (["fields", "fields", "name"].map Value.text) := by
  obtain ⟨back, positions, apart⟩ := positions_split_apart namesakeFields
  have upper : textAt? namesakeFields.toWire ["fields", "name"] = some (.text "fields") := rfl
  obtain ⟨v, lower⟩ : ∃ v, textAt? namesakeFields.toWire ["fields", "fields", "name"] = some v :=
    ⟨_, rfl⟩
  refine ⟨back _ _ (List.cons_ne_nil _ _), positions _ v (List.cons_ne_nil _ _) lower, upper,
    fun alike => ?_⟩
  exact absurd (apart _ _ _ _ upper lower alike) (by decide)

end SchemaPath

end AdminConsole
