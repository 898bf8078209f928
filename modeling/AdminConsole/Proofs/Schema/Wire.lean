import AdminConsole.Proofs.Schema.WellFormed
import AdminConsole.Schema.Wire

/-!
# Proofs/Schema/Wire — well-formed trees to and from documents

Reading a document makes a well-formed tree, whatever the document is (`wellFormed_ofWire`): a
field is named by its key, a member that is written twice counts once, and a type is one that the
document gives or the default.  The document of a well-formed tree has the keys of the tree, and the
server's form, at every level (`WellFormed.wireLevel`).
-/

namespace AdminConsole.Fields

/-- A non-empty type that the editor offers or that was read. -/
def Concrete (read : String → Prop) (t : String) : Prop := t ≠ "" ∧ (t ∈ Field.types ∨ read t)

/-- **The document of a level gives the type `t`** to one of its fields, at some depth. -/
inductive LevelNames (t : String) : Value → Prop
  | field {level members : List (Scalar × Value)} {key : String}
      (field : (.text key, .map members) ∈ level)
      (named : Entries.get? (.text "type") members = some (.text t)) :
      LevelNames t (.map level)
  | inner {level members : List (Scalar × Value)} {key : String} {sub : Value}
      (field : (.text key, .map members) ∈ level)
      (children : Entries.get? (.text "fields") members = some sub)
      (named : LevelNames t sub) :
      LevelNames t (.map level)

/-- The members of a field in the server's form: it is named by its key, has a type and a mark,
and lists its fields if there are any. -/
structure WireField (key : String) (members : List (Scalar × Value)) : Prop where
  name : Entries.get? (.text "name") members = some (.text key)
  type : ∃ t, t ≠ "" ∧ Entries.get? (.text "type") members = some (.text t)
  required : ∃ b, Entries.get? (.text "required") members = some (.bool b)
  fields : Entries.get? (.text "fields") members ≠ some .empty

/-- **A document of a level in the server's form**, with the levels below it.  It has the keys of the
level in their order, and lists the fields below a field exactly if there are any. -/
inductive WireLevel : Fields → Value → Prop
  | mk {fields : Fields} {level : List (Scalar × Value)}
      (keys : Entries.keys level = (Entries.keys fields).map .text)
      (distinct : (Entries.keys level).Nodup)
      (field : ∀ key f doc, (key, f) ∈ fields → (.text key, doc) ∈ level →
        ∃ members, doc = .map members ∧ WireField key members ∧
          (Entries.get? (.text "fields") members = none ↔ f.subfields = []))
      (below : ∀ key f members sub, (key, f) ∈ fields → (.text key, .map members) ∈ level →
        Entries.get? (.text "fields") members = some sub → WireLevel f.subfields sub) :
      WireLevel fields (.map level)

variable {T : String → Prop} {fields : Fields} {key : String} {f : Field}

/-! ## Concrete types -/

theorem concrete_types (read : String → Prop) : ∀ t ∈ Field.types, Concrete read t := by
  intro t ht
  refine ⟨?_, .inl ht⟩
  rintro rfl
  exact absurd ht (by decide)

theorem Concrete.mono {read read' : String → Prop} {t : String} (h : Concrete read t)
    (hr : read t → read' t) : Concrete read' t :=
  ⟨h.1, h.2.imp_right hr⟩

/-! ## Reading -/

/-- The type that is read is the one that is given, if it is a text that is not empty. -/
theorem concrete_wireType {read : String → Prop} {members : List (Scalar × Value)}
    (named : ∀ t, Entries.get? (.text "type") members = some (.text t) → read t) :
    Concrete read (wireType members) := by
  have default : Concrete read Field.defaultType := concrete_types read _ (by decide)
  unfold wireType
  split
  · rename_i t ht
    by_cases he : t.isEmpty
    · rw [if_pos he]
      exact default
    · rw [if_neg he]
      exact ⟨fun h => he (String.isEmpty_iff.mpr h), .inr (named t ht)⟩
  · exact default

/-- Children are read from a document under `fields` that is not empty. -/
theorem exists_of_childrenFromWire {members : List (Scalar × Value)} {children : Fields}
    (h : childrenFromWire members = some children) :
    ∃ sub, Entries.get? (.text "fields") members = some sub ∧ children = ofWire sub := by
  induction members with
  | nil => nomatch h
  | cons e rest ih =>
      obtain ⟨k, v⟩ := e
      unfold childrenFromWire at h
      rw [Entries.get?_cons]
      by_cases hk : k = .text "fields"
      · rw [if_pos hk] at h ⊢
        refine ⟨v, rfl, ?_⟩
        split at h
        · nomatch h
        · exact (Option.some.inj h).symm
        · nomatch h
      · rw [if_neg hk] at h ⊢
        exact ih h

/-- The field that a document under `key` describes, if it is an object. -/
theorem exists_of_fieldFromWire {doc : Value} (h : fieldFromWire key doc = some f) :
    ∃ members, doc = .map members ∧
      f = { name := key, type := wireType members, required := wireRequired members,
            children := childrenFromWire members } := by
  cases doc with
  | map members =>
      rw [fieldFromWire] at h
      exact ⟨members, rfl, (Option.some.inj h).symm⟩
  | _ => simp [fieldFromWire] at h

/-- A field is read from a member under a text key. -/
theorem exists_of_mem_levelFromWire {level : List (Scalar × Value)}
    (h : (key, f) ∈ levelFromWire level) :
    ∃ doc, (.text key, doc) ∈ level ∧ fieldFromWire key doc = some f := by
  induction level with
  | nil => simp [levelFromWire] at h
  | cons e rest ih =>
      have tail (hm : (key, f) ∈ levelFromWire rest) :
          ∃ doc, (.text key, doc) ∈ e :: rest ∧ fieldFromWire key doc = some f := by
        obtain ⟨doc, hmem, hf⟩ := ih hm
        exact ⟨doc, List.mem_cons_of_mem _ hmem, hf⟩
      obtain ⟨k, v⟩ := e
      cases k with
      | text l =>
          rw [levelFromWire] at h
          cases hv : fieldFromWire l v with
          | none =>
              rw [hv] at h
              exact tail h
          | some g =>
              rw [hv] at h
              rcases List.mem_cons.mp h with h | h
              · obtain ⟨rfl, rfl⟩ := Prod.mk.inj h
                exact ⟨v, List.mem_cons_self, hv⟩
              · exact tail h
      | _ =>
          simp only [levelFromWire] at h
          exact tail h

/-- The level below a field is a smaller document. -/
theorem sizeOf_lt_of_field {level members : List (Scalar × Value)} {k : Scalar} {sub : Value}
    (field : (k, .map members) ∈ level)
    (children : Entries.get? (.text "fields") members = some sub) :
    sizeOf sub < sizeOf (Value.map level) := by
  have hsub := List.sizeOf_lt_of_mem (Entries.mem_of_get? children)
  have hfield := List.sizeOf_lt_of_mem field
  simp only [Prod.mk.sizeOf_spec, Value.map.sizeOf_spec] at hsub hfield ⊢
  omega

/-- **Whatever is read is well-formed**, and its types were given or are offered. -/
theorem wellFormed_ofWire (doc : Value) : WellFormed (Concrete (LevelNames · doc)) (ofWire doc) := by
  match doc with
  | .map level =>
      refine .of_fields (Entries.nodup_keys_ofPairs _) fun key f hf => ?_
      obtain ⟨doc, hdoc, hread⟩ := exists_of_mem_levelFromWire (Entries.mem_of_mem_ofPairs hf)
      obtain ⟨members, rfl, rfl⟩ := exists_of_fieldFromWire hread
      refine ⟨rfl, concrete_wireType fun t ht => .field hdoc ht, fun children hc => ?_⟩
      obtain ⟨sub, hsub, rfl⟩ := exists_of_childrenFromWire hc
      exact (wellFormed_ofWire sub).mono fun t ht => ht.mono (.inner hdoc hsub)
  | .scalar _ | .list _ | .set _ | .enclosing _ => exact .nil
termination_by sizeOf doc
decreasing_by exact sizeOf_lt_of_field hdoc hsub

/-! ## Writing -/

theorem levelToWire_eq : ∀ fields : Fields,
    levelToWire fields = fields.map fun e => (.text e.1, fieldToWire e.1 e.2)
  | [] => by rw [levelToWire, List.map_nil]
  | (key, f) :: rest => by rw [levelToWire, List.map_cons, levelToWire_eq rest]

theorem keys_levelToWire : Entries.keys (levelToWire fields) = (Entries.keys fields).map .text := by
  rw [levelToWire_eq, Entries.keys, Entries.keys, List.map_map, List.map_map]
  rfl

/-- The members of a field that has the common ones in front. -/
theorem wireField_cons (key type : String) (required : Bool) {tail : List (Scalar × Value)}
    (htail : Entries.get? (.text "fields") tail ≠ some .empty) :
    WireField key ((.text "name", .text key) ::
      (.text "type", .text (if type.isEmpty then Field.defaultType else type)) ::
      (.text "required", .bool required) :: tail) where
  name := rfl
  type := by
    refine ⟨_, ?_, rfl⟩
    by_cases he : type.isEmpty
    · rw [if_pos he]
      decide
    · rw [if_neg he]
      exact fun h => he (String.isEmpty_iff.mpr h)
  required := ⟨required, rfl⟩
  fields := htail

/-- A field is written under its key, with the level below it if that has any fields. -/
theorem exists_fieldToWire (key : String) (f : Field) :
    ∃ members, fieldToWire key f = .map members ∧ WireField key members ∧
      (Entries.get? (.text "fields") members = none ↔ f.subfields = []) ∧
      ∀ sub, Entries.get? (.text "fields") members = some sub → sub = toWire f.subfields := by
  obtain ⟨name, type, required, children⟩ := f
  match children with
  | none | some [] =>
      have hno : Entries.get? (.text "fields") ([] : List (Scalar × Value)) ≠ some .empty := nofun
      refine ⟨_, by rw [fieldToWire]; rfl, wireField_cons key type required hno,
        iff_of_true rfl rfl, fun sub hsub => ?_⟩
      nomatch (hsub : none = some sub)
  | some (c :: cs) =>
      have hsome : Entries.get? (Scalar.text "fields")
          [(.text "fields", toWire (c :: cs))] ≠ some .empty := by
        intro h
        have hnil : levelToWire (c :: cs) = [] := Value.map.inj (Option.some.inj h)
        rw [levelToWire] at hnil
        nomatch hnil
      exact ⟨_, by rw [fieldToWire]; rfl, wireField_cons key type required hsome,
        iff_of_false nofun nofun, fun sub hsub => (Option.some.inj hsub).symm⟩

/-- Under the key of a field its document is found, and no other one. -/
theorem eq_fieldToWire_of_mem {doc : Value} (distinct : (Entries.keys fields).Nodup)
    (hf : (key, f) ∈ fields) (hdoc : (.text key, doc) ∈ levelToWire fields) :
    doc = fieldToWire key f := by
  rw [levelToWire_eq] at hdoc
  obtain ⟨⟨key', f'⟩, hf', heq⟩ := List.mem_map.mp hdoc
  obtain ⟨hkey, rfl⟩ := Prod.mk.inj heq
  obtain rfl := Scalar.text.inj hkey
  obtain rfl : f' = f :=
    Option.some.inj ((Entries.get?_of_mem distinct hf').symm.trans (Entries.get?_of_mem distinct hf))
  rfl

/-- **A well-formed tree is written in the server's form.** -/
theorem WellFormed.wireLevel (h : WellFormed T fields) : WireLevel fields fields.toWire := by
  induction h using WellFormed.induction_subfields with
  | @level fields h ih =>
      refine .mk keys_levelToWire ?_ (fun key f doc hf hdoc => ?_)
        fun key f members sub hf hdoc hsub => ?_
      · rw [keys_levelToWire]
        exact h.distinct.map fun _ _ h => Scalar.text.inj h
      · obtain ⟨members, hmembers, hfield, hleaf, -⟩ := exists_fieldToWire key f
        exact ⟨members, (eq_fieldToWire_of_mem h.distinct hf hdoc).trans hmembers, hfield, hleaf⟩
      · obtain ⟨members', hmembers, -, -, hbelow⟩ := exists_fieldToWire key f
        obtain rfl : members = members' :=
          Value.map.inj ((eq_fieldToWire_of_mem h.distinct hf hdoc).trans hmembers)
        rw [hbelow sub hsub]
        exact ih key f hf

end AdminConsole.Fields
