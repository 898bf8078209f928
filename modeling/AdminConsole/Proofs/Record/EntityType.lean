import AdminConsole.Proofs.Json.Consumed
import AdminConsole.Proofs.Record.Check
import AdminConsole.Record.EntityType
import Mathlib.Tactic.SplitIfs

/-!
# Proofs/Record/EntityType — the list names every entity type

The server sends an entity type as its bare name or as the text of a schema document
(`EntityType.Sent`).  The two share one slot and are told apart by reading the text, so a bare name
that is JSON is taken for a document.  No document is as short as its own name
(`Json.length_lt_of_read`), so such a name is always lost, and the list is complete exactly if no
name is JSON and every document passes the check of its flag: `ofListing_complete_iff`.
-/

namespace AdminConsole

namespace EntityType

/-! ## What the server sends -/

/-- An entry that stands for nothing: an empty one, or null as a value or as a text. -/
def Blank (raw : Value) : Prop := raw.truthy = false ∨ raw = .text "null"

/-- A text is the JSON text of a document with an id, as far as the reader goes: a text beyond the
limits of the reader may be one of any document. -/
def Documents (id text : String) : Prop :=
  match Json.read text with
  | .ok (.map es) => Entries.get? (.text "id") es = some (.text id)
  | .ok _ => False
  | .error (.malformed ..) => False
  | .error (.mishap _) => True

/-- An entry of the list that the server sends. -/
inductive Sent where
  | blank (raw : Value) (blank : Blank raw)
  | bare (name : String) (named : name ≠ "" ∧ name ≠ "null")
  | document (name text : String) (documents : Documents name text)

namespace Sent

/-- The entry as it is sent. -/
def raw : Sent → Value
  | blank raw _ => raw
  | bare name _ => .text name
  | document _ text _ => .text text

/-- The entity type that the entry stands for. -/
def name? : Sent → Option String
  | blank .. => none
  | bare name _ => some name
  | document name .. => some name

end Sent

/-- What the server answers with. -/
def listing (sent : List Sent) : Value := .object [("entities", .list (sent.map Sent.raw))]

/-- The flag of a document, by its alias before its name. -/
def flagOf (es : List (Scalar × Value)) : Record.Field Bool :=
  Record.optional es (if Entries.has (.text "_manual") es then "_manual" else "manual") false
    Record.flag

/-- Nothing stands between an entry and the list: a bare name is no JSON text, and a document is
within the limits of the reader and has a flag that can be read. -/
def Sent.Kept : Sent → Prop
  | blank .. => True
  | bare name _ => ∃ trouble rest, Json.read name = .error (.malformed trouble rest)
  | document _ text _ => ∃ es manual, Json.read text = .ok (.map es) ∧ flagOf es = .ok manual

/-! ## One entry -/

/-- A document with an id is listed exactly if its flag can be read. -/
theorem ofValue_map_iff {es : List (Scalar × Value)} {id : String}
    (hid : Entries.get? (.text "id") es = some (.text id)) {t : EntityType} :
    ofValue (.map es) = .ok t ↔ t.id = id ∧ flagOf es = .ok t.manual := by
  have hrequired : Record.required es "id" Record.text = .ok id :=
    Record.required_eq_ok_iff.mpr ⟨_, hid, rfl⟩
  obtain ⟨name, manual⟩ := t
  unfold ofValue flagOf
  simp only [hrequired]
  cases Record.optional es (if Entries.has (.text "_manual") es then "_manual" else "manual") false
      Record.flag with
  | ok flag => simp [eq_comm]
  | error ms => simp

/-- What is listed is a document, and has an id. -/
theorem get?_id_of_ofValue {v : Value} {t : EntityType} (h : ofValue v = .ok t) :
    ∃ es, v = .map es ∧ Entries.get? (.text "id") es = some (.text t.id) := by
  unfold ofValue at h
  split at h
  · next es =>
    refine ⟨es, rfl, ?_⟩
    dsimp only at h
    split at h
    · next id manual hid _ =>
      cases h
      obtain ⟨v, hv, htext⟩ := Record.required_eq_ok_iff.mp hid
      rw [hv, Record.text_eq_ok_iff.mp htext]
    · cases h
  · cases h

/-- The summary of an entry, if it is no blank one. -/
theorem ofEntry_eq_ok_iff {raw : Value} (hraw : ¬ Blank raw) {t : Option EntityType} :
    ofEntry raw = .ok t ↔ ∃ v, document raw = .ok v ∧ t = (ofValue v).toOption := by
  have hskip : (!raw.truthy || raw == .text "null") = false := by
    simpa [Blank] using hraw
  unfold ofEntry
  rw [hskip, if_neg Bool.false_ne_true]
  cases hdocument : document raw with
  | error f => simp [bind, Except.bind]
  | ok v =>
      simp only [bind, Except.bind, Except.ok.injEq, exists_eq_left']
      cases ofValue v <;> simp [Except.toOption, eq_comm]

theorem ofEntry_blank {raw : Value} (hraw : Blank raw) : ofEntry raw = .ok none := by
  have hskip : (!raw.truthy || raw == .text "null") = true := by
    simpa [Blank] using hraw
  rw [ofEntry, if_pos hskip]

/-- **No bare name that is JSON is listed**: a document is longer than its name. -/
theorem ne_id_of_read {name : String} {v : Value} (hread : Json.read name = .ok v)
    {t : EntityType} (h : ofValue v = .ok t) : t.id ≠ name := by
  rintro rfl
  obtain ⟨es, rfl, hid⟩ := get?_id_of_ofValue h
  exact (Json.length_lt_of_read hread (Entries.mem_of_get? hid)).false

theorem blank_text_iff {s : String} : Blank (.text s) ↔ s = "" ∨ s = "null" := by
  simp [Blank, Value.truthy]

theorem Documents.not_blank {id text : String} (h : Documents id text) : ¬ Blank (.text text) := by
  rw [blank_text_iff]
  rintro (rfl | rfl)
  · exact h
  · exact h

namespace Sent

/-- A bare name is listed exactly if it is no JSON text. -/
theorem kept_bare_iff {name : String} (hname : name ≠ "" ∧ name ≠ "null") :
    (bare name hname).Kept ↔
      ∃ t, ofEntry (.text name) = .ok t ∧ t.map EntityType.id = some name := by
  have hraw : ¬ Blank (.text name) := fun h =>
    (blank_text_iff.mp h).elim hname.1 hname.2
  simp only [ofEntry_eq_ok_iff hraw, EntityType.document, Kept]
  cases hread : Json.read name with
  | ok v =>
      refine iff_of_false nofun ?_
      rintro ⟨t, ⟨w, hw, rfl⟩, hid⟩
      obtain rfl : v = w := Except.ok.inj hw
      cases hv : ofValue v with
      | ok t => exact ne_id_of_read hread hv (by simpa [hv, Except.toOption] using hid)
      | error e => simp [hv, Except.toOption] at hid
  | error e =>
      cases e with
      | malformed trouble rest =>
          have hlisted : ofValue (.object [("id", .text name)]) = .ok ⟨name, false⟩ := by
            exact (ofValue_map_iff rfl).mpr ⟨rfl, rfl⟩
          exact iff_of_true ⟨trouble, rest, rfl⟩
            ⟨some ⟨name, false⟩, ⟨_, rfl, by rw [hlisted]; rfl⟩, rfl⟩
      | mishap m => exact iff_of_false nofun nofun

/-- A document is listed exactly if it is within the limits and its flag can be read. -/
theorem kept_document_iff {name text : String} (h : Documents name text) :
    (document name text h).Kept ↔
      ∃ t, ofEntry (.text text) = .ok t ∧ t.map EntityType.id = some name := by
  simp only [ofEntry_eq_ok_iff h.not_blank, EntityType.document, Kept]
  unfold Documents at h
  split at h
  · next es hread =>
    simp only [hread, Except.ok.injEq, Value.map.injEq, exists_and_left, exists_eq_left',
      exists_eq_left]
    cases hv : ofValue (.map es) with
    | ok t =>
        obtain ⟨hid, hflag⟩ := (ofValue_map_iff h).mp hv
        exact iff_of_true ⟨_, hflag⟩ (by simp [Except.toOption, hid])
    | error e =>
        refine iff_of_false ?_ (by simp [Except.toOption])
        rintro ⟨manual, hflag⟩
        have hok : ofValue (.map es) = .ok ⟨name, manual⟩ := (ofValue_map_iff h).mpr ⟨rfl, hflag⟩
        rw [hv] at hok
        cases hok
  · cases h
  · cases h
  · next m hread => simp [hread]

/-- **An entry is listed under its own name**, and a blank one not at all, exactly if nothing stands
between it and the list. -/
theorem kept_iff : ∀ s : Sent,
    s.Kept ↔ ∃ t, ofEntry s.raw = .ok t ∧ t.map EntityType.id = s.name?
  | blank _ hraw => iff_of_true trivial ⟨none, ofEntry_blank hraw, rfl⟩
  | bare _ hname => kept_bare_iff hname
  | document _ _ h => kept_document_iff h

/-- An entry that stands for nothing gives nothing. -/
theorem length_le_of_ofEntry : ∀ {s : Sent} {t : Option EntityType},
    ofEntry s.raw = .ok t → t.toList.length ≤ s.name?.toList.length
  | blank _ hraw, t, h => by
      obtain rfl : none = t := Except.ok.inj ((ofEntry_blank hraw).symm.trans h)
      exact le_rfl
  | bare .., t, _ => by cases t <;> simp [name?]
  | document .., t, _ => by cases t <;> simp [name?]

/-- The names that a list stands for. -/
def names (sent : List Sent) : List String := sent.filterMap name?

theorem names_cons (s : Sent) (sent : List Sent) :
    names (s :: sent) = s.name?.toList ++ names sent := by
  rw [names, names, List.filterMap_cons]
  cases s.name? <;> rfl

end Sent

theorem ofEntries_cons_eq_ok_iff {raw : Value} {rest : List Value} {ts : List EntityType} :
    ofEntries (raw :: rest) = .ok ts ↔
      ∃ t us, ofEntry raw = .ok t ∧ ofEntries rest = .ok us ∧ ts = t.toList ++ us := by
  rw [ofEntries]
  cases ofEntry raw with
  | error f => simp [bind, Except.bind]
  | ok t =>
      cases ofEntries rest with
      | error f => simp [bind, Except.bind]
      | ok us => simp [bind, Except.bind, pure, Except.pure, eq_comm]

/-! ## The whole list -/

/-- A list has no more summaries than names. -/
theorem length_le_of_ofEntries : ∀ {sent : List Sent} {ts : List EntityType},
    ofEntries (sent.map Sent.raw) = .ok ts → ts.length ≤ (Sent.names sent).length
  | [], ts, h => by
      obtain rfl : [] = ts := Except.ok.inj h
      exact le_rfl
  | s :: sent, ts, h => by
      obtain ⟨t, us, ht, hus, rfl⟩ := ofEntries_cons_eq_ok_iff.mp h
      rw [Sent.names_cons, List.length_append, List.length_append]
      exact Nat.add_le_add (Sent.length_le_of_ofEntry ht) (length_le_of_ofEntries hus)

/-- **A list names all that was sent exactly if nothing stands before any entry**: no entry gives
more than its own summary, so none makes up for one that is lost. -/
theorem ofEntries_complete_iff : ∀ {sent : List Sent},
    (∃ ts, ofEntries (sent.map Sent.raw) = .ok ts ∧ ts.map EntityType.id = Sent.names sent) ↔
      ∀ s ∈ sent, s.Kept
  | [] => iff_of_true ⟨[], rfl, rfl⟩ nofun
  | s :: sent => by
      rw [List.forall_mem_cons, Sent.kept_iff, ← ofEntries_complete_iff]
      constructor
      · rintro ⟨ts, hts, hnames⟩
        obtain ⟨t, us, ht, hus, rfl⟩ := ofEntries_cons_eq_ok_iff.mp hts
        rw [Sent.names_cons, List.map_append] at hnames
        have hlength := congrArg List.length hnames
        simp only [List.length_append, List.length_map] at hlength
        have hhead := Sent.length_le_of_ofEntry ht
        have htail := length_le_of_ofEntries hus
        obtain ⟨hid, hids⟩ := List.append_inj hnames (by rw [List.length_map]; omega)
        refine ⟨⟨t, ht, ?_⟩, us, hus, hids⟩
        cases t <;> cases hname : s.name? <;> simp_all
      · rintro ⟨⟨t, ht, hid⟩, us, hus, hids⟩
        refine ⟨_, ofEntries_cons_eq_ok_iff.mpr ⟨t, us, ht, hus, rfl⟩, ?_⟩
        rw [List.map_append, hids, Sent.names_cons, ← hid]
        cases t <;> rfl

theorem ofListing_listing (sent : List Sent) :
    ofListing (listing sent) = ofEntries (sent.map Sent.raw) := by
  cases sent <;> rfl

/-- **No entity type disappears from the list**, in its order and under its own name, exactly if no
bare name is itself JSON text, and every document is within the limits of the reader and has a flag
that can be read. -/
theorem ofListing_complete_iff (sent : List Sent) :
    (∃ ts, ofListing (listing sent) = .ok ts ∧ ts.map EntityType.id = Sent.names sent) ↔
      ∀ s ∈ sent, s.Kept := by
  rw [ofListing_listing]
  exact ofEntries_complete_iff

/-- A year is a name and a number: of these two bare names the list keeps one. -/
theorem year_disappears :
    ¬ ∃ ts, ofListing (listing [.bare "orders" (by decide), .bare "2024" (by decide)]) = .ok ts ∧
      ts.map EntityType.id = ["orders", "2024"] := by
  have hlisted : ofListing (.object [("entities", .texts ["orders", "2024"])]) =
      .ok [⟨"orders", false⟩] := by decide +kernel
  rintro ⟨ts, hts, hids⟩
  obtain rfl := Except.ok.inj (hlisted.symm.trans hts)
  exact absurd hids (by decide)

end EntityType

end AdminConsole
