import AdminConsole.Proofs.Schema.Comparison
import AdminConsole.Proofs.Schema.Editing

/-!
# Proofs/Schema/Detection — what a session takes for a change

A session has two ways to tell whether its schema was edited: it is *dirty* when the two documents
differ, and it lists the *changes* between them.  Both amount to looking up paths: the schema is not
dirty when the two trees agree at every path (`agrees_toWire_iff`), and there are no changes when they
agree at every path without a private key (`compareAt_toWire_eq_empty_iff`).  So an edit can make a
session dirty without a change, namely where it is hidden behind a private key
(`detectors_agree_iff`).
-/

namespace AdminConsole

namespace Fields

open SchemaPath

/-- Two fields that show no difference, whatever the fields below them are. -/
structure Alike (f g : Field) : Prop where
  type : typeValue f = typeValue g
  required : requiredValue f = requiredValue g
  below : f.subfields = [] ↔ g.subfields = []

/-- Two trees agree at every path whose keys satisfy `K`. -/
def AgreeOn (K : String → Prop) (a b : Fields) : Prop :=
  ∀ path, (∀ key ∈ path, K key) → Option.Rel Alike (find? a path) (find? b path)

variable {T K L : String → Prop} {a b : Fields} {f g : Field}

theorem Alike.symm (h : Alike f g) : Alike g f := ⟨h.type.symm, h.required.symm, h.below.symm⟩

theorem Alike.refl (f : Field) : Alike f f := ⟨rfl, rfl, .rfl⟩

theorem AgreeOn.refl (K : String → Prop) (a : Fields) : AgreeOn K a a := by
  intro path _
  cases find? a path with
  | none => exact .none
  | some f => exact .some (.refl f)

theorem AgreeOn.symm (h : AgreeOn K a b) : AgreeOn K b a := by
  intro path hpath
  rcases Value.rel_iff.mp (h path hpath) with ⟨hf, hg⟩ | ⟨f, g, hf, hg, h⟩
  · rw [hf, hg]
    exact .none
  · rw [hf, hg]
    exact .some h.symm

/-- Trees that agree at many paths agree at fewer. -/
theorem AgreeOn.mono (h : AgreeOn K a b) (hL : ∀ key, L key → K key) : AgreeOn L a b :=
  fun path hpath => h path fun key hkey => hL key (hpath key hkey)

/-- **Two trees agree when their fields are alike and agree below.** -/
theorem agreeOn_iff : AgreeOn K a b ↔ ∀ key, K key →
    Option.Rel (fun f g => Alike f g ∧ AgreeOn K f.subfields g.subfields)
      (Entries.get? key a) (Entries.get? key b) := by
  constructor
  · intro h key hk
    have hkey : Option.Rel Alike (Entries.get? key a) (Entries.get? key b) :=
      h [key] (List.forall_mem_singleton.mpr hk)
    rcases Value.rel_iff.mp hkey with ⟨hf, hg⟩ | ⟨f, g, hf, hg, halike⟩
    · rw [hf, hg]
      exact .none
    · rw [hf, hg]
      refine .some ⟨halike, fun path hpath => ?_⟩
      cases path with
      | nil => exact .none
      | cons next rest =>
          have hrest := h (key :: next :: rest) (List.forall_mem_cons.mpr ⟨hk, hpath⟩)
          rwa [find?_cons_cons, find?_cons_cons, hf, hg] at hrest
  · intro h path hpath
    cases path with
    | nil => exact .none
    | cons key rest =>
        obtain ⟨hk, hrest⟩ := List.forall_mem_cons.mp hpath
        rcases Value.rel_iff.mp (h key hk) with ⟨hf, hg⟩ | ⟨f, g, hf, hg, halike, hbelow⟩
        · cases rest with
          | nil => exact Value.rel_iff.mpr (.inl ⟨hf, hg⟩)
          | cons next rest =>
              rw [find?_cons_cons, find?_cons_cons, hf, hg]
              exact .none
        · cases rest with
          | nil => exact Value.rel_iff.mpr (.inr ⟨f, g, hf, hg, halike⟩)
          | cons next rest =>
              rw [find?_cons_cons, find?_cons_cons, hf, hg]
              exact hbelow (next :: rest) hrest

/-! ## Documents with the same content -/

/-- The written level below a field is that of another if both have one or neither, with the same
content. -/
theorem rel_fields_wireMembers (key : String) :
    Option.Rel (fun v w => Value.agrees v w = true)
        (Entries.get? (.text "fields") (wireMembers key f))
        (Entries.get? (.text "fields") (wireMembers key g)) ↔
      (f.subfields = [] ↔ g.subfields = []) ∧ f.subfields.toWire.agrees g.subfields.toWire = true := by
  have hempty : (toWire []).agrees (toWire []) = true := by decide
  rw [get?_fields_wireMembers, get?_fields_wireMembers]
  by_cases hf : f.subfields = []
  · by_cases hg : g.subfields = []
    · simp [hf, hg, hempty]
    · simp [hf, hg]
  · by_cases hg : g.subfields = []
    · simp [hf, hg]
    · simp [hf, hg]

/-- Two fields under one key are written with the same content if they are alike and the levels below
them have the same content. -/
theorem agrees_wireMembers_iff (key : String) :
    (Value.map (wireMembers key f)).agrees (.map (wireMembers key g)) = true ↔
      Alike f g ∧ f.subfields.toWire.agrees g.subfields.toWire = true := by
  rw [agrees_members_iff (nodup_keys_wireMembers _ _) (keys_wireMembers_subset _ _)
    (nodup_keys_wireMembers _ _) (keys_wireMembers_subset _ _)]
  simp only [memberNames, List.forall_mem_cons, rel_fields_wireMembers, get?_name_wireMembers,
    get?_type_wireMembers, get?_required_wireMembers, Option.rel_some_some, Value.text_agrees_text,
    Value.bool_agrees_bool]
  constructor
  · rintro ⟨-, type, required, ⟨below, hsub⟩, -⟩
    exact ⟨⟨congrArg Value.text type, congrArg Value.bool required, below⟩, hsub⟩
  · rintro ⟨⟨type, required, below⟩, hsub⟩
    exact ⟨trivial, Value.text_injective type, Scalar.bool.inj (Value.scalar.inj required),
      ⟨below, hsub⟩, List.forall_mem_nil _⟩

/-- **Two trees have the same document when they agree at every path.** -/
theorem agrees_toWire_iff (ha : WellFormed T a) : ∀ {b : Fields}, WellFormed T b →
    (a.toWire.agrees b.toWire = true ↔ AgreeOn (fun _ => True) a b) := by
  induction ha using WellFormed.induction_subfields with
  | @level a h ih =>
      intro b hb
      have hfield (key : String) : Option.Rel (fun v w => Value.agrees v w = true)
          (Entries.get? (.text key) (levelToWire a)) (Entries.get? (.text key) (levelToWire b)) ↔
            Option.Rel (fun f g => Alike f g ∧ AgreeOn (fun _ => True) f.subfields g.subfields)
              (Entries.get? key a) (Entries.get? key b) := by
        rw [get?_levelToWire, get?_levelToWire]
        cases hf : Entries.get? key a with
        | none => cases Entries.get? key b <;> simp
        | some f =>
            cases hg : Entries.get? key b with
            | none => simp
            | some g =>
                have hsub := ih key f (Entries.mem_of_get? hf)
                  (hb.sound (Entries.mem_of_get? hg)).subfields
                simp only [Option.map_some, Option.rel_some_some, agrees_wireMembers_iff, hsub]
      rw [toWire, toWire, Value.agrees_map_iff (textual_levelToWire h.distinct)
        (textual_levelToWire hb.distinct), agreeOn_iff]
      refine ⟨fun h key _ => (hfield key).mp (h (.text key)), fun hrel k => ?_⟩
      by_cases hk : ∃ key, k = .text key
      · obtain ⟨key, rfl⟩ := hk
        exact (hfield key).mpr (hrel key trivial)
      · have hnone {t : Fields} (ht : WellFormed T t) : Entries.get? k (levelToWire t) = none :=
          Entries.not_mem_keys_iff.mp fun hm => hk ((textual_levelToWire ht.distinct).text k hm)
        rw [hnone h, hnone hb]
        exact .none

/-! ## Documents without a difference -/

theorem belowDiff_eq_empty_iff {path : KeyPath} (ne : path ≠ []) :
    SchemaChanges.belowDiff (fieldTokens path) f g = {} ↔
      (f.subfields = [] ↔ g.subfields = []) ∧
        Diff.compareAt (levelTokens path) f.subfields.toWire g.subfields.toWire = {} := by
  rw [SchemaChanges.belowDiff, ← levelTokens_of_ne_nil ne]
  by_cases hf : f.subfields = []
  · by_cases hg : g.subfields = []
    · have hempty : Diff.compareAt (levelTokens path) (toWire []) (toWire []) = {} := by
        rw [toWire, levelToWire, Diff.compareAt_map, Diff.compareEntries]
        rfl
      simp [hf, hg, hempty]
    · simp [hf, hg]
  · by_cases hg : g.subfields = []
    · simp [hf, hg]
    · simp [hf, hg]

/-- Two fields have no difference if they are alike and the levels below them have none. -/
theorem compareAt_wireMembers_eq_empty_iff {path : KeyPath} (ne : path ≠ []) (key : String) :
    Diff.compareAt (fieldTokens path) (.map (wireMembers key f)) (.map (wireMembers key g)) = {} ↔
      Alike f g ∧ Diff.compareAt (levelTokens path) f.subfields.toWire g.subfields.toWire = {} := by
  rw [SchemaChanges.compareAt_wireMembers, Diff.append_eq_empty_iff, Diff.append_eq_empty_iff,
    belowDiff_eq_empty_iff ne, Diff.valueDiff_eq_empty_iff, Diff.valueDiff_eq_empty_iff]
  constructor
  · rintro ⟨type, required, below, hsub⟩
    exact ⟨⟨type, required, below⟩, hsub⟩
  · rintro ⟨⟨type, required, below⟩, hsub⟩
    exact ⟨type, required, below, hsub⟩

/-- **Two trees have no difference when they agree at every path without a private key.** -/
theorem compareAt_toWire_eq_empty_iff (ha : WellFormed T a) : ∀ {b : Fields}, WellFormed T b →
    ∀ path : KeyPath, (Diff.compareAt (levelTokens path) a.toWire b.toWire = {} ↔
      AgreeOn Diff.PublicKey a b) := by
  induction ha using WellFormed.induction_subfields with
  | @level a h ih =>
      intro b hb path
      -- At a key that is compared, the entries differ where the fields do.
      have hfield {key : String} {f : Field} (hf : Entries.get? key a = some f)
          (hk : Diff.PublicKey key) : Diff.compareEntry (levelTokens path) (levelToWire b)
            (.text key, .map (wireMembers key f)) = {} ↔
          Option.Rel (fun f g => Alike f g ∧ AgreeOn Diff.PublicKey f.subfields g.subfields)
            (some f) (Entries.get? key b) := by
        rw [SchemaChanges.compareEntry_levelToWire path f b
          (Diff.isPrivate_text_eq_false_iff.mpr hk)]
        cases hg : Entries.get? key b with
        | none => simp
        | some g =>
            have hsub := ih key f (Entries.mem_of_get? hf)
              (hb.sound (Entries.mem_of_get? hg)).subfields (path ++ [key])
            simp only [Option.rel_some_some, hsub,
              compareAt_wireMembers_eq_empty_iff (List.concat_ne_nil key path)]
      have hwritten {t : Fields} {key : String} {f : Field} (hf : Entries.get? key t = some f) :
          Entries.get? (.text key) (levelToWire t) = some (.map (wireMembers key f)) := by
        rw [get?_levelToWire, hf, Option.map_some]
      rw [toWire, toWire, Diff.compareAt_map_eq_empty_iff, agreeOn_iff]
      constructor
      · rintro ⟨hentries, hnew⟩ key hk
        cases hf : Entries.get? key a with
        | some f => exact (hfield hf hk).mp (hentries _ (Entries.mem_of_get? (hwritten hf)))
        | none =>
            cases hg : Entries.get? key b with
            | none => exact .none
            | some g =>
                have hhas := hnew _ (Entries.mem_of_get? (hwritten hg))
                  (Diff.isPrivate_text_eq_false_iff.mpr hk)
                rw [Entries.has, get?_levelToWire, hf] at hhas
                exact absurd hhas Bool.false_ne_true
      · intro hrel
        refine ⟨fun e he => ?_, fun e he hp => ?_⟩
        · obtain ⟨k, doc⟩ := e
          obtain ⟨key, f, hmem, rfl, rfl⟩ := mem_levelToWire he
          have hf : Entries.get? key a = some f := Entries.get?_of_mem h.distinct hmem
          by_cases hk : Diff.PublicKey key
          · exact (hfield hf hk).mpr (hf ▸ hrel key hk)
          · exact Diff.compareEntry_of_private
              (Bool.of_not_eq_false (mt Diff.isPrivate_text_eq_false_iff.mp hk))
        · obtain ⟨k, doc⟩ := e
          obtain ⟨key, g, hmem, rfl, rfl⟩ := mem_levelToWire he
          have hg : Entries.get? key b = some g := Entries.get?_of_mem hb.distinct hmem
          have hkey := hrel key (Diff.isPrivate_text_eq_false_iff.mp hp)
          rw [hg] at hkey
          rw [Entries.has, get?_levelToWire, Option.isSome_map, Value.isSome_eq_of_rel hkey]
          rfl

end Fields

namespace SchemaSession

open Fields

/-- The two schemas of a session differ, but only at paths with a private key. -/
def HiddenDifference (s : SchemaSession) : Prop :=
  AgreeOn Diff.PublicKey s.baseline.fields s.tree.fields ∧
    ¬ AgreeOn (fun _ => True) s.baseline.fields s.tree.fields

variable {docs : List Value} {s : SchemaSession}

/-- **A session is dirty** unless its schemas agree at every path. -/
theorem isDirty_eq_false_iff (h : Kept docs s) : s.isDirty = false ↔
    AgreeOn (fun _ => True) s.baseline.fields s.tree.fields := by
  have hsame : s.payload.same s.baseline.fields.toWire =
      s.tree.fields.toWire.agrees s.baseline.fields.toWire := Value.map_same_map _ _
  rw [isDirty, Bool.not_eq_false', hsame, agrees_toWire_iff h.tree h.baseline]
  exact ⟨.symm, .symm⟩

/-- **A session lists its changes**, none if its schemas agree at every path without a private key. -/
theorem changes_eq_nil_iff (h : Kept docs s) : ∃ ls, s.changes = .ok ls ∧
    (ls = [] ↔ AgreeOn Diff.PublicKey s.baseline.fields s.tree.fields) := by
  have settled := SchemaChanges.settled_toWire h.baseline [] s.tree.fields
  obtain ⟨ls, hls, hperm⟩ := SchemaChanges.lines_eq settled
  refine ⟨ls, hls, ?_⟩
  rw [← compareAt_toWire_eq_empty_iff h.baseline h.tree [], ← SchemaChanges.tell_eq_nil_iff settled]
  constructor
  · rintro rfl
    exact hperm.nil_eq.symm
  · exact fun hnil => (hperm.trans (.of_eq hnil)).eq_nil

/-- **The two detectors of a session agree** unless its schemas differ behind private keys only: it is
dirty when they differ at some path, and it lists changes when they differ at a path without a private
key. -/
theorem detectors_agree_iff (run : Run docs s) : ∃ ls, s.changes = .ok ls ∧
    (ls = [] ↔ AgreeOn Diff.PublicKey s.baseline.fields s.tree.fields) ∧
    (s.isDirty = false ↔ AgreeOn (fun _ => True) s.baseline.fields s.tree.fields) ∧
    ((ls = [] ↔ s.isDirty = false) ↔ ¬ s.HiddenDifference) := by
  obtain ⟨ls, hls, hnil⟩ := changes_eq_nil_iff run.kept
  have hclean := isDirty_eq_false_iff run.kept
  refine ⟨ls, hls, hnil, hclean, ?_⟩
  have hmono (h : AgreeOn (fun _ => True) s.baseline.fields s.tree.fields) :
      AgreeOn Diff.PublicKey s.baseline.fields s.tree.fields := h.mono fun _ _ => trivial
  rw [hnil, hclean, HiddenDifference]
  tauto

/-- A schema with a field behind a private key. -/
def ordersDocument : Value :=
  .object [("id", .text "orders"), ("fields", .object [
    ("__meta", .object [("type", .text "string")]), ("total", .object [("type", .text "string")])])]

/-- The schema in `ordersDocument`. -/
def ordersTree : SchemaTree where
  entity := "orders"
  fields := [("__meta", { name := "__meta" }), ("total", { name := "total" })]

/-- A session in which the private field takes another type. -/
def retypedMeta : SchemaSession := (opened ordersTree).update ["__meta"] { type := some "number" }

/-- A session in which both fields take another type. -/
def retypedTotal : SchemaSession := retypedMeta.update ["total"] { type := some "number" }

theorem run_retypedMeta : Run [ordersDocument] retypedMeta := by
  have read : SchemaTree.ofWire ordersDocument (.text "orders") = .ok ordersTree := by decide
  exact (Run.opened read).update ["__meta"] fun cs h => nomatch h

/-- Both sessions are dirty; the second has changes, for it differs at a path without a private key. -/
theorem detectors_agree_iff_retypedTotal :
    Run [ordersDocument] retypedTotal ∧ ¬ retypedTotal.HiddenDifference ∧
      retypedTotal.isDirty = true ∧ ∃ ls, retypedTotal.changes = .ok ls ∧ ls ≠ [] := by
  have run : Run [ordersDocument] retypedTotal :=
    run_retypedMeta.update ["total"] fun cs h => nomatch h
  have hdirty : retypedTotal.isDirty = true := by decide
  have hshown : ¬ retypedTotal.HiddenDifference := by
    rintro ⟨hagree, -⟩
    have htotal := Option.rel_some_some.mp (hagree ["total"] (by decide))
    exact absurd htotal.type (by decide)
  obtain ⟨ls, hls, -, -, hiff⟩ := detectors_agree_iff run
  refine ⟨run, hshown, hdirty, ls, hls, fun hnil => ?_⟩
  rw [(hiff.mpr hshown).mp hnil] at hdirty
  nomatch hdirty

/-- **An edit behind a private key makes the session dirty without a change.** -/
theorem dirty_without_change :
    Run [ordersDocument] retypedMeta ∧ retypedMeta.isDirty = true ∧
      retypedMeta.changes = .ok [] := by
  have hagree : AgreeOn Diff.PublicKey retypedMeta.baseline.fields retypedMeta.tree.fields := by
    refine agreeOn_iff.mpr fun key hk => ?_
    have hne : "__meta" ≠ key := fun he => absurd (he ▸ hk) (by decide)
    have hskip (f : Field) : Entries.get? key [("__meta", f), ("total", { name := "total" })] =
        Entries.get? key [("total", { name := "total" })] := by
      rw [Entries.get?_cons, if_neg hne]
    have htree : retypedMeta.tree.fields = [("__meta", { name := "__meta", type := "number" }),
        ("total", { name := "total" })] := by decide
    have hbaseline : retypedMeta.baseline.fields = [("__meta", { name := "__meta" }),
        ("total", { name := "total" })] := rfl
    rw [htree, hbaseline, hskip, hskip]
    exact agreeOn_iff.mp (.refl _ _) key hk
  obtain ⟨ls, hls, hnil⟩ := changes_eq_nil_iff run_retypedMeta.kept
  rw [hnil.mpr hagree] at hls
  exact ⟨run_retypedMeta, by decide, hls⟩

end SchemaSession

end AdminConsole
