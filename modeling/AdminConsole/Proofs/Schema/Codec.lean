import AdminConsole.Proofs.Schema.Document

/-!
# Proofs/Schema/Codec — schemas as documents and back

Writing a tree and reading it again gives its normal form: a field without children is a leaf, and
one without a type has the default type (`ofWire_toWire`).  Reading a documented schema and writing
it again gives a document with the same content and the same order of fields (`toWire_ofWire`).
Whatever document is read, what is written is a documented schema, on which both do nothing more.
-/

namespace AdminConsole.Fields

mutual

/-- The field in normal form: no empty level below it, and no empty type. -/
def normalField : Field → Field
  | ⟨name, type, required, none⟩ =>
    ⟨name, if type.isEmpty then Field.defaultType else type, required, none⟩
  | ⟨name, type, required, some []⟩ =>
    ⟨name, if type.isEmpty then Field.defaultType else type, required, none⟩
  | ⟨name, type, required, some (c :: cs)⟩ =>
    ⟨name, if type.isEmpty then Field.defaultType else type, required, some (normal (c :: cs))⟩

/-- **The tree in normal form**, with the same keys in the same order. -/
def normal : Fields → Fields
  | [] => []
  | (key, f) :: rest => (key, normalField f) :: normal rest

end

variable {T : String → Prop} {fields : Fields} {key : String} {f : Field}

theorem normal_eq : ∀ fields : Fields, normal fields = fields.map fun e => (e.1, normalField e.2)
  | [] => rfl
  | (key, f) :: rest => by rw [normal, List.map_cons, normal_eq rest]

theorem keys_normal (fields : Fields) : Entries.keys (normal fields) = Entries.keys fields := by
  rw [normal_eq, Entries.keys, Entries.keys, List.map_map]
  rfl

theorem normalField_eq (f : Field) : normalField f =
    { name := f.name, type := typeText f, required := f.required,
      children := if f.subfields = [] then none else some (normal f.subfields) } := by
  obtain ⟨name, type, required, children⟩ := f
  match children with
  | none | some [] => rw [normalField]; rfl
  | some (c :: cs) => rw [normalField]; rfl

/-! ## Reading members -/

/-- The level below a field is read from a document that has entries. -/
theorem childrenFromWire_eq : ∀ members : List (Scalar × Value),
    childrenFromWire members = match Entries.get? (.text "fields") members with
      | some (.map (e :: es)) => some (ofWire (.map (e :: es)))
      | _ => none
  | [] => by rw [childrenFromWire]; rfl
  | (k, v) :: rest => by
      rw [childrenFromWire.eq_def, Entries.get?_cons]
      by_cases hk : k = .text "fields"
      · rw [if_pos hk]
        cases v with
        | map es =>
            cases es with
            | nil => simp [hk]
            | cons e es => simp [hk, ofWire]
        | scalar _ | list _ | set _ | enclosing _ => simp [hk]
      · rw [if_neg hk]
        simpa [hk] using childrenFromWire_eq rest

/-- The field that an object under `key` describes. -/
def readField (key : String) (members : List (Scalar × Value)) : Field where
  name := key
  type := wireType members
  required := wireRequired members
  children := childrenFromWire members

theorem fieldFromWire_map (key : String) (members : List (Scalar × Value)) :
    fieldFromWire key (.map members) = some (readField key members) := by
  rw [fieldFromWire, readField]

theorem wireType_of_text {members : List (Scalar × Value)} {t : String} (ht : t ≠ "")
    (h : Entries.get? (.text "type") members = some (.text t)) : wireType members = t := by
  have he : ¬ t.isEmpty := fun he => ht (String.isEmpty_iff.mp he)
  rw [wireType, h]
  exact if_neg he

theorem wireRequired_of_bool {members : List (Scalar × Value)} {b : Bool}
    (h : Entries.get? (.text "required") members = some (.bool b)) : wireRequired members = b := by
  rw [wireRequired, h]
  rfl

/-! ## A written tree is read in normal form -/

/-- The children that are read are those of the level that was written. -/
theorem childrenFromWire_wireMembers (key : String) (f : Field) :
    childrenFromWire (wireMembers key f) =
      if f.subfields = [] then none else some (ofWire (toWire f.subfields)) := by
  rw [childrenFromWire_eq, get?_fields_wireMembers]
  by_cases h : f.subfields = []
  · rw [if_pos h, if_pos h]
  · rw [if_neg h, if_neg h]
    cases hs : f.subfields with
    | nil => exact absurd hs h
    | cons e rest => rw [toWire, levelToWire]

/-- What is read of a field that is written. -/
theorem readField_wireMembers_eq (key : String) (f : Field) :
    readField key (wireMembers key f) =
      { name := key, type := typeText f, required := f.required,
        children := if f.subfields = [] then none else some (ofWire (toWire f.subfields)) } := by
  rw [readField, childrenFromWire_wireMembers,
    wireType_of_text (typeText_ne_empty f) (get?_type_wireMembers key f),
    wireRequired_of_bool (get?_required_wireMembers key f)]

/-- A field that is written is read in normal form, if the levels below it are. -/
theorem readField_wireMembers (name : f.name = key)
    (below : ofWire (toWire f.subfields) = normal f.subfields) :
    readField key (wireMembers key f) = normalField f := by
  rw [readField_wireMembers_eq, normalField_eq, name, below]

theorem levelFromWire_map {fields : Fields} (g : String × Field → Field)
    (read : ∀ e ∈ fields, readField e.1 (wireMembers e.1 e.2) = g e) :
    levelFromWire (levelToWire fields) = fields.map fun e => (e.1, g e) := by
  induction fields with
  | nil => rw [levelToWire, levelFromWire, List.map_nil]
  | cons e rest ih =>
      obtain ⟨key, f⟩ := e
      rw [levelToWire, levelFromWire, fieldToWire_eq, fieldFromWire_map,
        ih fun e he => read e (List.mem_cons_of_mem _ he), List.map_cons,
        read (key, f) List.mem_cons_self]

/-- **A written tree is read in normal form.** -/
theorem ofWire_toWire (h : WellFormed T fields) : ofWire fields.toWire = normal fields := by
  induction h using WellFormed.induction_subfields with
  | @level fields h ih =>
      have hlevel : levelFromWire (levelToWire fields) = normal fields := by
        rw [normal_eq]
        refine levelFromWire_map (fun e => normalField e.2) fun e he => ?_
        exact readField_wireMembers (h.name_eq he) (ih e.1 e.2 he)
      rw [toWire, ofWire, hlevel]
      refine Entries.ofPairs_of_nodup ?_
      rw [keys_normal]
      exact h.distinct

/-! ## A tree and its normal form are written alike -/

theorem typeText_normalField (f : Field) : typeText (normalField f) = typeText f := by
  have he : ¬ (typeText f).isEmpty := fun he => typeText_ne_empty f (String.isEmpty_iff.mp he)
  rw [normalField_eq]
  exact if_neg he

theorem subfields_normalField (f : Field) :
    (normalField f).subfields = normal f.subfields := by
  rw [normalField_eq, Field.subfields]
  by_cases h : f.subfields = []
  · simp [h, normal]
  · simp [h]

/-- Fields that are alike and have the same document below them are written the same. -/
theorem wireMembers_congr {f g : Field} (type : typeText f = typeText g)
    (required : f.required = g.required) (below : f.subfields.toWire = g.subfields.toWire) :
    wireMembers key f = wireMembers key g := by
  have nil_of {f g : Field} (h : f.subfields.toWire = g.subfields.toWire) (hf : f.subfields = []) :
      g.subfields = [] := by
    by_contra hg
    refine toWire_ne_empty hg (h.symm.trans ?_)
    rw [hf, toWire, levelToWire, Value.empty]
  have hnil : f.subfields = [] ↔ g.subfields = [] := ⟨nil_of below, nil_of below.symm⟩
  rw [wireMembers, wireMembers, type, required, below]
  simp only [hnil]

theorem toWire_normal (h : WellFormed T fields) : toWire (normal fields) = toWire fields := by
  induction h using WellFormed.induction_subfields with
  | @level fields _ ih =>
      refine congrArg Value.map ?_
      rw [levelToWire_eq, levelToWire_eq, normal_eq, List.map_map]
      refine List.map_congr_left fun e he => ?_
      have below : (normalField e.2).subfields.toWire = e.2.subfields.toWire := by
        rw [subfields_normalField, ih e.1 e.2 he]
      have hmembers : wireMembers e.1 (normalField e.2) = wireMembers e.1 e.2 :=
        wireMembers_congr (typeText_normalField e.2) (by rw [normalField_eq]) below
      rw [Function.comp_apply, fieldToWire_eq, fieldToWire_eq, hmembers]

/-- **What is written after reading is read and written without a change**, whatever was read. -/
theorem toWire_ofWire_idem (raw : Value) :
    toWire (ofWire (toWire (ofWire raw))) = toWire (ofWire raw) := by
  have h := wellFormed_ofWire raw
  rw [ofWire_toWire h, toWire_normal h]

/-! ## A documented schema is read and written with the same content -/

/-- Two documents with the same content whose levels have the same keys in the same order. -/
structure SameSchema (doc doc' : Value) : Prop where
  same : doc.same doc' = true
  keys : ∀ path, documentKeys doc path = documentKeys doc' path

/-- The members of the fields of a documented level, by key. -/
abbrev LevelMembers := List (String × List (Scalar × Value))

/-- The level that lists these members. -/
def LevelMembers.entries (ms : LevelMembers) : List (Scalar × Value) :=
  ms.map fun e => (.text e.1, .map e.2)

theorem exists_levelMembers {level : List (Scalar × Value)}
    (field : ∀ k doc, (k, doc) ∈ level →
      ∃ key members, k = .text key ∧ doc = .map members ∧ DocumentedField key members) :
    ∃ ms : LevelMembers, level = ms.entries := by
  induction level with
  | nil => exact ⟨[], rfl⟩
  | cons e rest ih =>
      obtain ⟨k, doc⟩ := e
      obtain ⟨key, members, rfl, rfl, -⟩ := field k doc List.mem_cons_self
      obtain ⟨ms, rfl⟩ := ih fun k doc h => field k doc (List.mem_cons_of_mem _ h)
      exact ⟨(key, members) :: ms, rfl⟩

theorem levelFromWire_entries : ∀ ms : LevelMembers,
    levelFromWire ms.entries = ms.map fun e => (e.1, readField e.1 e.2)
  | [] => by rw [LevelMembers.entries, List.map_nil, levelFromWire, List.map_nil]
  | (key, members) :: rest => by
      have ih := levelFromWire_entries rest
      rw [LevelMembers.entries] at ih ⊢
      rw [List.map_cons, levelFromWire, fieldFromWire_map, ih, List.map_cons]

theorem ofWire_entries {ms : LevelMembers} (distinct : (Entries.keys ms.entries).Nodup) :
    ofWire (.map ms.entries) = ms.map fun e => (e.1, readField e.1 e.2) := by
  rw [ofWire, levelFromWire_entries]
  refine Entries.ofPairs_of_nodup (List.Nodup.of_map Scalar.text ?_)
  simpa [LevelMembers.entries, Entries.keys, Function.comp_def] using distinct

theorem keys_map_entries (g : String × List (Scalar × Value) → Value) (ms : LevelMembers) :
    Entries.keys (ms.map fun e => (Scalar.text e.1, g e)) = Entries.keys ms.entries := by
  simp [LevelMembers.entries, Entries.keys, Function.comp_def]

theorem textual_map_entries {ms : LevelMembers} (distinct : (Entries.keys ms.entries).Nodup)
    (g : String × List (Scalar × Value) → Value) :
    Value.Textual (ms.map fun e => (.text e.1, g e)) where
  distinct := by
    rw [keys_map_entries]
    exact distinct
  text k hk := by
    obtain ⟨_, he, rfl⟩ := List.mem_map.mp hk
    obtain ⟨e, _, rfl⟩ := List.mem_map.mp he
    exact ⟨e.1, rfl⟩

/-- Levels that list their fields under the same keys are looked up alike. -/
theorem rel_get?_map {r : Value → Value → Prop} (g h : String × List (Scalar × Value) → Value)
    (k : Scalar) : ∀ {ms : LevelMembers}, (∀ e ∈ ms, r (g e) (h e)) →
      Option.Rel r (Entries.get? k (ms.map fun e => (.text e.1, g e)))
        (Entries.get? k (ms.map fun e => (.text e.1, h e)))
  | [], _ => .none
  | e :: rest, hr => by
      rw [List.map_cons, List.map_cons, Entries.get?_cons, Entries.get?_cons]
      by_cases hk : Scalar.text e.1 = k
      · rw [if_pos hk, if_pos hk]
        exact .some (hr e List.mem_cons_self)
      · rw [if_neg hk, if_neg hk]
        exact rel_get?_map g h k fun e he => hr e (List.mem_cons_of_mem _ he)

/-- The level below a documented field is read and written where it is. -/
theorem get?_fields_readField {members : List (Scalar × Value)}
    (field : DocumentedField key members)
    (below : ∀ sub, Entries.get? (.text "fields") members = some sub → Documented sub) :
    Entries.get? (.text "fields") (wireMembers key (readField key members)) =
      (Entries.get? (.text "fields") members).map fun sub => toWire (ofWire sub) := by
  rw [get?_fields_wireMembers]
  have hchildren : (readField key members).subfields = (childrenFromWire members).getD [] := rfl
  rw [hchildren, childrenFromWire_eq]
  cases hsub : Entries.get? (.text "fields") members with
  | none => rfl
  | some sub =>
      cases below sub hsub with
      | @mk level distinct field' _ =>
          obtain ⟨ms, rfl⟩ := exists_levelMembers field'
          cases ms with
          | nil => exact absurd hsub field.fields
          | cons e rest =>
              have hne : ofWire (.map (LevelMembers.entries (e :: rest))) ≠ [] := by
                rw [ofWire_entries distinct]
                exact List.cons_ne_nil _ _
              exact if_neg hne

theorem SameSchema.agrees {level : List (Scalar × Value)} {doc : Value}
    (h : SameSchema (.map level) doc) : (Value.map level).agrees doc = true := by
  have same := h.same
  rwa [Value.same.eq_def] at same

theorem bind_eq_of_rel {α β : Type} {g : α → Option β} {x y : Option α}
    (h : Option.Rel (fun a b => g a = g b) x y) : x.bind g = y.bind g := by
  cases h with
  | none => rfl
  | some h => exact h

/-- A documented field is read and written with the same content, if the level below it is. -/
theorem agrees_wireMembers_readField {members : List (Scalar × Value)}
    (field : DocumentedField key members)
    (below : ∀ sub, Entries.get? (.text "fields") members = some sub →
      Documented sub ∧ (toWire (ofWire sub)).agrees sub = true) :
    (Value.map (wireMembers key (readField key members))).agrees (.map members) = true := by
  obtain ⟨t, ht, htype⟩ := field.type
  obtain ⟨b, hb⟩ := field.required
  have htext : typeText (readField key members) = t := by
    have he : ¬ t.isEmpty := fun he => ht (String.isEmpty_iff.mp he)
    rw [typeText, readField, wireType_of_text ht htype]
    exact if_neg he
  have hrequired : (readField key members).required = b := wireRequired_of_bool hb
  refine (agrees_members_iff (nodup_keys_wireMembers _ _) (keys_wireMembers_subset _ _) field.distinct
    field.known).mpr fun k hk => ?_
  simp only [memberNames, List.mem_cons, List.not_mem_nil, or_false] at hk
  rcases hk with rfl | rfl | rfl | rfl
  · rw [get?_name_wireMembers, field.name]
    exact .some (Value.text_agrees_text.mpr rfl)
  · rw [get?_type_wireMembers, htype, htext]
    exact .some (Value.text_agrees_text.mpr rfl)
  · rw [get?_required_wireMembers, hb, hrequired]
    exact .some (Value.bool_agrees_bool.mpr rfl)
  · rw [get?_fields_readField field fun sub hsub => (below sub hsub).1]
    cases hsub : Entries.get? (.text "fields") members with
    | none => exact .none
    | some sub => exact .some (below sub hsub).2

/-- **A documented schema is read and written with the same content and order.** -/
theorem Documented.sameSchema {doc : Value} (h : Documented doc) :
    SameSchema (toWire (ofWire doc)) doc := by
  induction h with
  | @mk level distinct field below ih =>
      obtain ⟨ms, rfl⟩ := exists_levelMembers field
      have hread : toWire (ofWire (.map ms.entries)) =
          .map (ms.map fun e => (.text e.1, .map (wireMembers e.1 (readField e.1 e.2)))) := by
        rw [ofWire_entries distinct, toWire, levelToWire_eq, List.map_map]
        simp only [Function.comp_def, fieldToWire_eq]
      have hmem : ∀ e ∈ ms, (Scalar.text e.1, Value.map e.2) ∈ ms.entries := fun e he =>
        List.mem_map_of_mem he
      have hfield : ∀ e ∈ ms, DocumentedField e.1 e.2 := by
        intro e he
        obtain ⟨key, members, hk, hdoc, h⟩ := field _ _ (hmem e he)
        obtain rfl := Scalar.text.inj hk
        obtain rfl := Value.map.inj hdoc
        exact h
      rw [hread]
      refine ⟨?_, fun path => ?_⟩
      · refine (Value.agrees_map_iff (textual_map_entries distinct _)
          (textual_map_entries distinct _)).mpr fun k => rel_get?_map _ _ k fun e he => ?_
        exact agrees_wireMembers_readField (hfield e he) fun sub hsub =>
          ⟨below _ _ _ (hmem e he) hsub, (ih _ _ _ (hmem e he) hsub).agrees⟩
      · cases path with
        | nil => exact congrArg some (keys_map_entries _ ms)
        | cons key rest =>
            rw [documentKeys, documentKeys, Option.bind_assoc, Option.bind_assoc]
            refine bind_eq_of_rel (rel_get?_map (r := fun doc doc' =>
              (doc.member? "fields").bind (documentKeys · rest) =
                (doc'.member? "fields").bind (documentKeys · rest)) _ _ (.text key) fun e he => ?_)
            have hsub := get?_fields_readField (hfield e he) fun sub hsub =>
              below _ _ sub (hmem e he) hsub
            change (Entries.get? _ _).bind _ = (Entries.get? _ _).bind _
            rw [hsub]
            cases hs : Entries.get? (.text "fields") e.2 with
            | none => rfl
            | some sub => exact (ih _ _ _ (hmem e he) hs).keys rest

/-- **The wire form of a schema.**  A written tree is read in normal form; a documented schema is read
and written with the same content and order; and whatever is read, what is written is a documented
schema, which reading and writing leave as it is. -/
theorem wire_form :
    (∀ t, Keyed t → ofWire t.toWire = normal t) ∧
      (∀ doc, Documented doc → SameSchema (toWire (ofWire doc)) doc) ∧
      ∀ raw, Documented (toWire (ofWire raw)) ∧
        toWire (ofWire (toWire (ofWire raw))) = toWire (ofWire raw) :=
  ⟨fun _ h => ofWire_toWire h, fun _ h => h.sameSchema,
    fun raw => ⟨(wellFormed_ofWire raw).documented, toWire_ofWire_idem raw⟩⟩

/-- A schema being drafted: a field without a type and with no fields below it yet. -/
def draftFields : Fields :=
  [("note", { name := "note", type := "", children := some [] }),
    ("size", { name := "size", type := "number", required := true })]

/-- The members of a size, in another order than they are written. -/
def sizeMembers : List (Scalar × Value) :=
  [(.text "type", .text "number"), (.text "required", .bool true), (.text "name", .text "size")]

/-- The members of a box with a size. -/
def boxMembers : List (Scalar × Value) :=
  [(.text "fields", .map [(.text "size", .map sizeMembers)]), (.text "required", .bool false),
    (.text "name", .text "box"), (.text "type", .text "object")]

/-- A schema with a box. -/
def boxDocument : Value := .map [(.text "box", .map boxMembers)]

/-- The draft loses its empty parts; the members of the box take another order, its fields do not. -/
theorem wire_form_boxDocument :
    Keyed draftFields ∧
      ofWire (toWire draftFields) =
        [("note", { name := "note", type := "string" }),
          ("size", { name := "size", type := "number", required := true })] ∧
      Documented boxDocument ∧ toWire (ofWire boxDocument) ≠ boxDocument ∧
      SameSchema (toWire (ofWire boxDocument)) boxDocument := by
  have leaf (name type : String) (required : Bool) :
      Sound (fun _ => True) { name := name, type := type, required := required } :=
    ⟨trivial, fun _ h => nomatch h⟩
  have note : Sound (fun _ => True) { name := "note", type := "", children := some [] } :=
    ⟨trivial, fun _ h => Option.some.inj h ▸ WellFormed.nil⟩
  have keyed : Keyed draftFields :=
    (WellFormed.nil.cons (leaf "size" "number" true) (by decide)).cons note (by decide)
  have size : DocumentedField "size" sizeMembers :=
    { name := rfl, type := ⟨"number", by decide, rfl⟩, required := ⟨true, rfl⟩, fields := nofun
      distinct := by decide, known := by decide }
  have box : DocumentedField "box" boxMembers :=
    { name := rfl, type := ⟨"object", by decide, rfl⟩, required := ⟨false, rfl⟩
      fields := by decide, distinct := by decide, known := by decide }
  have inner : Documented (.map [(.text "size", .map sizeMembers)]) := by
    refine .mk (by decide) ?_ ?_
    · rintro k doc h
      obtain ⟨rfl, rfl⟩ := Prod.mk.inj (List.mem_singleton.mp h)
      exact ⟨"size", _, rfl, rfl, size⟩
    · rintro k members sub h hsub
      obtain ⟨rfl, hm⟩ := Prod.mk.inj (List.mem_singleton.mp h)
      obtain rfl := Value.map.inj hm
      nomatch hsub
  have documented : Documented boxDocument := by
    refine .mk (by decide) ?_ ?_
    · rintro k doc h
      obtain ⟨rfl, rfl⟩ := Prod.mk.inj (List.mem_singleton.mp h)
      exact ⟨"box", _, rfl, rfl, box⟩
    · rintro k members sub h hsub
      obtain ⟨rfl, hm⟩ := Prod.mk.inj (List.mem_singleton.mp h)
      obtain rfl := Value.map.inj hm
      obtain rfl := Option.some.inj hsub
      exact inner
  exact ⟨keyed, (wire_form.1 draftFields keyed).trans (by decide), documented, by decide,
    wire_form.2.1 boxDocument documented⟩

end AdminConsole.Fields
