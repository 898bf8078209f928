import AdminConsole.Proofs.Schema.Path
import AdminConsole.Proofs.Schema.Wire
import AdminConsole.Proofs.Value.Agreement

/-!
# Proofs/Schema/Document — the documents of schemas

A field is written with its key, its type, its mark and, if there are any, the fields below it
(`fieldToWire_eq`), so looking a document up is looking the tree up (`get?_levelToWire`,
`get?_wireMembers`).  `Documented` is the form that a document of a schema has, whatever the order of
the members of a field; what is written has it (`WellFormed.documented`).
-/

namespace AdminConsole.Fields

/-- The type that a field is written with. -/
def typeText (f : Field) : String := if f.type.isEmpty then Field.defaultType else f.type

/-- The type of a field in a document. -/
def typeValue (f : Field) : Value := .text (typeText f)

/-- The mark of a field in a document. -/
def requiredValue (f : Field) : Value := .bool f.required

/-- The members that a field is written with. -/
def wireMembers (key : String) (f : Field) : List (Scalar × Value) :=
  [(.text "name", .text key), (.text "type", .text (typeText f)),
    (.text "required", .bool f.required)]
    ++ if f.subfields = [] then [] else [(.text "fields", toWire f.subfields)]

/-- The names of the members of a field. -/
def memberNames : List Scalar := [.text "name", .text "type", .text "required", .text "fields"]

/-- The members of a field in the documented form: no others, and none twice. -/
structure DocumentedField (key : String) (members : List (Scalar × Value)) : Prop
    extends WireField key members where
  distinct : (Entries.keys members).Nodup
  known : Entries.keys members ⊆ memberNames

/-- **A document of a schema** as the server describes it. -/
inductive Documented : Value → Prop
  | mk {level : List (Scalar × Value)}
      (distinct : (Entries.keys level).Nodup)
      (field : ∀ k doc, (k, doc) ∈ level →
        ∃ key members, k = .text key ∧ doc = .map members ∧ DocumentedField key members)
      (below : ∀ k members sub, (k, .map members) ∈ level →
        Entries.get? (.text "fields") members = some sub → Documented sub) :
      Documented (.map level)

/-- The keys of the level at a path of a document, in order. -/
def documentKeys (doc : Value) : KeyPath → Option (List Scalar)
  | [] => doc.entries?.map Entries.keys
  | key :: rest =>
    ((doc.member? key).bind (·.member? "fields")).bind (documentKeys · rest)

variable {T : String → Prop} {fields : Fields} {key : String} {f : Field}

/-! ## Members of a field -/

theorem typeText_ne_empty (f : Field) : typeText f ≠ "" := by
  rw [typeText]
  by_cases he : f.type.isEmpty
  · rw [if_pos he]
    decide
  · rw [if_neg he]
    exact fun h => he (String.isEmpty_iff.mpr h)

theorem fieldToWire_eq (key : String) (f : Field) :
    fieldToWire key f = .map (wireMembers key f) := by
  obtain ⟨name, type, required, children⟩ := f
  match children with
  | none | some [] => rw [fieldToWire]; rfl
  | some (c :: cs) => rw [fieldToWire]; rfl

/-- A field has no other members. -/
theorem keys_wireMembers (key : String) (f : Field) : Entries.keys (wireMembers key f) =
    if f.subfields = [] then [.text "name", .text "type", .text "required"] else memberNames := by
  rw [wireMembers]
  by_cases h : f.subfields = []
  · simp [h]
  · simp [h, memberNames]

theorem get?_name_wireMembers (key : String) (f : Field) :
    Entries.get? (.text "name") (wireMembers key f) = some (.text key) := rfl

theorem get?_type_wireMembers (key : String) (f : Field) :
    Entries.get? (.text "type") (wireMembers key f) = some (.text (typeText f)) := rfl

theorem get?_required_wireMembers (key : String) (f : Field) :
    Entries.get? (.text "required") (wireMembers key f) = some (.bool f.required) := rfl

/-- **The level below a field is written if it has any fields.** -/
theorem get?_fields_wireMembers (key : String) (f : Field) :
    Entries.get? (.text "fields") (wireMembers key f) =
      if f.subfields = [] then none else some (toWire f.subfields) := by
  rw [wireMembers]
  by_cases h : f.subfields = []
  · rw [if_pos h, if_pos h]
    rfl
  · rw [if_neg h, if_neg h]
    rfl

theorem nodup_keys_wireMembers (key : String) (f : Field) :
    (Entries.keys (wireMembers key f)).Nodup := by
  rw [keys_wireMembers]
  by_cases h : f.subfields = []
  · rw [if_pos h]
    decide
  · rw [if_neg h]
    decide

theorem keys_wireMembers_subset (key : String) (f : Field) :
    Entries.keys (wireMembers key f) ⊆ memberNames := by
  rw [keys_wireMembers]
  by_cases h : f.subfields = []
  · rw [if_pos h]
    exact List.subset_append_left _ [Scalar.text "fields"]
  · rw [if_neg h]
    exact List.Subset.refl _

/-- The members of a documented field are those of an object. -/
theorem textual_of_subset {members : List (Scalar × Value)}
    (distinct : (Entries.keys members).Nodup) (known : Entries.keys members ⊆ memberNames) :
    Value.Textual members where
  distinct := distinct
  text k hk := by
    have hname : k ∈ memberNames := known hk
    simp only [memberNames, List.mem_cons, List.not_mem_nil, or_false] at hname
    rcases hname with rfl | rfl | rfl | rfl <;> exact ⟨_, rfl⟩

/-- **The members of two fields agree when each member does.** -/
theorem agrees_members_iff {ms ns : List (Scalar × Value)} (hms : (Entries.keys ms).Nodup)
    (hm : Entries.keys ms ⊆ memberNames) (hns : (Entries.keys ns).Nodup)
    (hn : Entries.keys ns ⊆ memberNames) :
    (Value.map ms).agrees (.map ns) = true ↔ ∀ k ∈ memberNames,
      Option.Rel (fun v w => v.agrees w = true) (Entries.get? k ms) (Entries.get? k ns) := by
  rw [Value.agrees_map_iff (textual_of_subset hms hm) (textual_of_subset hns hn)]
  refine ⟨fun h k _ => h k, fun h k => ?_⟩
  by_cases hk : k ∈ memberNames
  · exact h k hk
  · rw [Entries.not_mem_keys_iff.mp fun h => hk (hm h), Entries.not_mem_keys_iff.mp fun h => hk (hn h)]
    exact .none

/-! ## Fields of a level -/

/-- **A document of a level is looked up like the level.** -/
theorem get?_levelToWire (key : String) : ∀ fields : Fields,
    Entries.get? (.text key) (levelToWire fields) =
      (Entries.get? key fields).map fun f => .map (wireMembers key f)
  | [] => rfl
  | (k, f) :: rest => by
      rw [levelToWire, Entries.get?_cons, Entries.get?_cons, get?_levelToWire key rest]
      by_cases hk : k = key
      · rw [if_pos hk, if_pos (congrArg Scalar.text hk), hk, fieldToWire_eq, Option.map_some]
      · rw [if_neg hk, if_neg (mt Scalar.text.inj hk)]

theorem textual_levelToWire (h : (Entries.keys fields).Nodup) :
    Value.Textual (levelToWire fields) where
  distinct := by
    rw [keys_levelToWire]
    exact h.map fun _ _ h => Scalar.text.inj h
  text k hk := by
    rw [keys_levelToWire] at hk
    obtain ⟨key, _, rfl⟩ := List.mem_map.mp hk
    exact ⟨key, rfl⟩

theorem mem_levelToWire {k : Scalar} {doc : Value} (h : (k, doc) ∈ levelToWire fields) :
    ∃ key f, (key, f) ∈ fields ∧ k = .text key ∧ doc = .map (wireMembers key f) := by
  rw [levelToWire_eq] at h
  obtain ⟨⟨key, f⟩, hf, heq⟩ := List.mem_map.mp h
  obtain ⟨rfl, rfl⟩ := Prod.mk.inj heq
  exact ⟨key, f, hf, rfl, fieldToWire_eq key f⟩

/-! ## What is written is a document of a schema -/

theorem toWire_ne_empty (h : fields ≠ []) : toWire fields ≠ .empty := by
  intro he
  have hnil : levelToWire fields = [] := Value.map.inj he
  rw [levelToWire_eq] at hnil
  exact h (List.map_eq_nil_iff.mp hnil)

theorem documentedField_wireMembers (key : String) (f : Field) :
    DocumentedField key (wireMembers key f) where
  name := get?_name_wireMembers key f
  type := ⟨typeText f, typeText_ne_empty f, get?_type_wireMembers key f⟩
  required := ⟨f.required, get?_required_wireMembers key f⟩
  fields := by
    rw [get?_fields_wireMembers]
    by_cases h : f.subfields = []
    · rw [if_pos h]
      nofun
    · rw [if_neg h]
      exact fun he => toWire_ne_empty h (Option.some.inj he)
  distinct := nodup_keys_wireMembers key f
  known := keys_wireMembers_subset key f

/-- **A well-formed tree is written as a document of a schema.** -/
theorem WellFormed.documented (h : WellFormed T fields) : Documented fields.toWire := by
  induction h using WellFormed.induction_subfields with
  | @level fields h ih =>
      refine .mk (textual_levelToWire h.distinct).distinct ?_ ?_
      · intro k doc hmem
        obtain ⟨key, f, _, rfl, rfl⟩ := mem_levelToWire hmem
        exact ⟨key, _, rfl, rfl, documentedField_wireMembers key f⟩
      · intro k members sub hmem hsub
        obtain ⟨key, f, hf, rfl, hm⟩ := mem_levelToWire hmem
        obtain rfl := Value.map.inj hm
        rw [get?_fields_wireMembers] at hsub
        by_cases hnil : f.subfields = []
        · rw [if_pos hnil] at hsub
          nomatch hsub
        · rw [if_neg hnil] at hsub
          exact Option.some.inj hsub ▸ ih key f hf

end AdminConsole.Fields
