import AdminConsole.Proofs.Diff
import AdminConsole.Proofs.Schema.ChangePath

/-!
# Proofs/Schema/Comparison — how the documents of two schemas differ

Comparing two fields compares their types, their marks and the levels below them, unless only one has
such a level (`compareAt_wireMembers`).  So whatever comes or goes is a field or a whole level
(`settled_toWire`), and the changes can be told without a fault (`lines_eq`).
-/

namespace AdminConsole

open Fields SchemaPath

namespace SchemaChanges

variable {d e : Diff}

/-! ## Telling a diff -/

/-- The lines that a step yields, none if it fails. -/
def yielded (step : Except Fault (List String)) : List String := step.toOption.getD []

/-- **The lines for a diff**, change by change. -/
def tell (d : Diff) : List String :=
  (d.removed.flatMap fun c => yielded (entryLines "Removed" "of" c.path c.old))
    ++ (d.added.flatMap fun c => yielded (entryLines "Added" "to" c.path c.new))
    ++ d.valueChanges.map changeLine ++ d.kindChanges.map changeLine

/-- In a diff of two schemas, fields and levels are added and removed, and no value changes its kind. -/
structure Settled (d : Diff) : Prop where
  removed : ∀ c ∈ d.removed, Entered c.path c.old
  added : ∀ c ∈ d.added, Entered c.path c.new
  kinds : d.kindChanges = []

theorem tell_append (d e : Diff) : (tell (d ++ e)).Perm (tell d ++ tell e) := by
  rw [List.perm_iff_count]
  intro line
  simp only [tell, Diff.append_removed, Diff.append_added, Diff.append_valueChanges,
    Diff.append_kindChanges, List.flatMap_append, List.map_append, List.count_append]
  omega

/-- The order of the changes does not matter. -/
theorem tell_perm (removed : d.removed.Perm e.removed) (added : d.added.Perm e.added)
    (values : d.valueChanges.Perm e.valueChanges) (kinds : d.kindChanges.Perm e.kindChanges) :
    (tell d).Perm (tell e) :=
  (((removed.flatMap_right _).append (added.flatMap_right _)).append (values.map _)).append
    (kinds.map _)

/-- Steps that all succeed yield their lines one after the other. -/
theorem collect_eq {α : Type} {step : α → Except Fault (List String)} : ∀ {xs : List α},
    (∀ x ∈ xs, ∃ ls, step x = .ok ls) → collect step xs = .ok (xs.flatMap fun x => yielded (step x))
  | [], _ => rfl
  | x :: rest, h => by
      obtain ⟨ls, hls⟩ := h x List.mem_cons_self
      rw [collect, collect_eq fun y hy => h y (List.mem_cons_of_mem _ hy), List.flatMap_cons, hls]
      rfl

theorem Settled.append (hd : Settled d) (he : Settled e) : Settled (d ++ e) where
  removed c hc := (List.mem_append.mp hc).elim (hd.removed c) (he.removed c)
  added c hc := (List.mem_append.mp hc).elim (hd.added c) (he.added c)
  kinds := by rw [Diff.append_kindChanges, hd.kinds, he.kinds, List.append_nil]

/-- **The changes between two schemas can be told**, in the order of their paths. -/
theorem lines_eq {old new : Value} (h : Settled (Diff.compareAt [] old new)) :
    ∃ ls, lines old new = .ok ls ∧ ls.Perm (tell (Diff.compareAt [] old new)) := by
  have sorted (cs : List Change) : (Diff.sortChanges cs).Perm cs := List.mergeSort_perm _ _
  have hremoved : ∀ c ∈ (Diff.between old new).removed, ∃ ls,
      entryLines "Removed" "of" c.path c.old = .ok ls := by
    intro c hc
    obtain ⟨ls, _, hls⟩ := entryLines_of_entered "Removed" "of"
      (h.removed c ((sorted _).mem_iff.mp hc))
    exact ⟨ls, hls⟩
  have hadded : ∀ c ∈ (Diff.between old new).added, ∃ ls,
      entryLines "Added" "to" c.path c.new = .ok ls := by
    intro c hc
    obtain ⟨ls, _, hls⟩ := entryLines_of_entered "Added" "to"
      (h.added c ((sorted _).mem_iff.mp hc))
    exact ⟨ls, hls⟩
  refine ⟨tell (Diff.between old new), ?_, tell_perm (sorted _) (sorted _) (sorted _) (sorted _)⟩
  rw [lines, collect_eq hremoved, collect_eq hadded]
  rfl

/-- **A diff without lines has no change.** -/
theorem tell_eq_nil_iff (h : Settled d) : tell d = [] ↔ d = {} := by
  have told (verb link : String) {path : List Value} {v : Option Value} (hc : Entered path v) :
      yielded (entryLines verb link path v) ≠ [] := by
    obtain ⟨ls, hne, hls⟩ := entryLines_of_entered verb link hc
    rwa [hls]
  constructor
  · intro hnil
    simp only [tell, List.append_eq_nil_iff, List.map_eq_nil_iff, List.flatMap_eq_nil_iff] at hnil
    obtain ⟨⟨⟨hremoved, hadded⟩, hvalues⟩, hkinds⟩ := hnil
    have hr : d.removed = [] := List.eq_nil_iff_forall_not_mem.mpr fun c hc =>
      told _ _ (h.removed c hc) (hremoved c hc)
    have ha : d.added = [] := List.eq_nil_iff_forall_not_mem.mpr fun c hc =>
      told _ _ (h.added c hc) (hadded c hc)
    cases d
    simp_all
  · rintro rfl
    rfl

/-! ## The differences of two fields -/

/-- The differences of the levels below two fields. -/
def belowDiff (path : List Value) (f g : Field) : Diff :=
  if f.subfields = [] then
    if g.subfields = [] then {}
    else { added := [⟨path ++ [.text childrenKey], none, some g.subfields.toWire⟩] }
  else if g.subfields = [] then
    { removed := [⟨path ++ [.text childrenKey], some f.subfields.toWire, none⟩] }
  else Diff.compareAt (path ++ [.text childrenKey]) f.subfields.toWire g.subfields.toWire

/-- Only the level below the second field can be new. -/
theorem addedEntries_wireMembers (path : List Value) (key : String) (f g : Field) :
    Diff.addedEntries path (wireMembers key f) (wireMembers key g) =
      if f.subfields = [] ∧ g.subfields ≠ [] then
        [⟨path ++ [.text childrenKey], none, some g.subfields.toWire⟩]
      else [] := by
  by_cases hf : f.subfields = []
  · by_cases hg : g.subfields = []
    · simp [hf, hg, wireMembers, Diff.addedEntries, Entries.has, Entries.get?_cons]
    · simp [hf, hg, wireMembers, Diff.addedEntries, Entries.has, Entries.get?_cons, childrenKey,
        Diff.isPrivate]
      rfl
  · simp [hf, wireMembers, Diff.addedEntries, Entries.has, Entries.get?_cons]

/-- The member `fields` of one field is compared with that of another. -/
theorem compareEntries_below (path : List Value) (key : String) (f g : Field) :
    Diff.compareEntries path
        (if f.subfields = [] then [] else [(.text childrenKey, f.subfields.toWire)])
        (wireMembers key g) ++
      { added := Diff.addedEntries path (wireMembers key f) (wireMembers key g) } =
      belowDiff path f g := by
  have hget := get?_fields_wireMembers key g
  rw [addedEntries_wireMembers, belowDiff]
  by_cases hf : f.subfields = []
  · rw [if_pos hf, if_pos hf, Diff.compareEntries, Diff.empty_append]
    by_cases hg : g.subfields = []
    · rw [if_neg (fun h => h.2 hg), if_pos hg]
    · rw [if_pos ⟨hf, hg⟩, if_neg hg]
  · rw [if_neg hf, if_neg (fun h => hf h.1), if_neg hf, Diff.compareEntries_cons,
      Diff.compareEntries, Diff.append_empty, Diff.append_empty]
    by_cases hg : g.subfields = []
    · rw [if_pos hg] at hget
      rw [if_pos hg, Diff.compareEntry_of_get?_eq_none rfl hget]
    · rw [if_neg hg] at hget
      rw [if_neg hg, Diff.compareEntry_of_get? rfl hget]

/-- **The differences of two fields under one key** are those of their types, their marks and the
levels below them. -/
theorem compareAt_wireMembers (path : List Value) (key : String) (f g : Field) :
    Diff.compareAt path (.map (wireMembers key f)) (.map (wireMembers key g)) =
      Diff.valueDiff (path ++ [.text "type"]) (typeValue f) (typeValue g) ++
        (Diff.valueDiff (path ++ [.text "required"]) (requiredValue f) (requiredValue g) ++
          belowDiff path f g) := by
  have members : wireMembers key f =
      (.text "name", .text key) :: (.text "type", .text (typeText f)) ::
        (.text "required", .bool f.required) ::
          if f.subfields = [] then [] else [(.text childrenKey, f.subfields.toWire)] := rfl
  have name : Diff.compareEntry path (wireMembers key g) (.text "name", .text key) = {} := by
    rw [Diff.compareEntry_of_get? rfl (get?_name_wireMembers key g), Diff.compareAt_text,
      Diff.valueDiff_eq_empty_iff.mpr rfl]
  have type : Diff.compareEntry path (wireMembers key g) (.text "type", .text (typeText f)) =
      Diff.valueDiff (path ++ [.text "type"]) (typeValue f) (typeValue g) := by
    rw [Diff.compareEntry_of_get? rfl (get?_type_wireMembers key g), Diff.compareAt_text]
    rfl
  have required : Diff.compareEntry path (wireMembers key g) (.text "required", .bool f.required) =
      Diff.valueDiff (path ++ [.text "required"]) (requiredValue f) (requiredValue g) := by
    rw [Diff.compareEntry_of_get? rfl (get?_required_wireMembers key g), Diff.compareAt_bool]
    rfl
  have entries : Diff.compareEntries path (wireMembers key f) (wireMembers key g) =
      Diff.valueDiff (path ++ [.text "type"]) (typeValue f) (typeValue g) ++
        (Diff.valueDiff (path ++ [.text "required"]) (requiredValue f) (requiredValue g) ++
          Diff.compareEntries path
            (if f.subfields = [] then [] else [(.text childrenKey, f.subfields.toWire)])
            (wireMembers key g)) := by
    rw [members, Diff.compareEntries_cons, name, Diff.empty_append, Diff.compareEntries_cons, type,
      Diff.compareEntries_cons, required]
  rw [Diff.compareAt_map, entries, ← compareEntries_below path key f g, Diff.append_assoc,
    Diff.append_assoc]

/-! ## The differences of two levels -/

/-- At a field of the first level, the field is compared with that of the second, or it is gone. -/
theorem compareEntry_levelToWire (path : KeyPath) {key : String} (f : Field) (b : Fields)
    (hp : Diff.isPrivate (.text key) = false) :
    Diff.compareEntry (levelTokens path) (levelToWire b) (.text key, .map (wireMembers key f)) =
      match Entries.get? key b with
      | some g => Diff.compareAt (fieldTokens (path ++ [key])) (.map (wireMembers key f))
          (.map (wireMembers key g))
      | none => { removed := [⟨fieldTokens (path ++ [key]), some (.map (wireMembers key f)), none⟩] } := by
  have hget := get?_levelToWire key b
  rw [fieldTokens_concat]
  cases hg : Entries.get? key b with
  | none =>
      rw [hg] at hget
      exact Diff.compareEntry_of_get?_eq_none hp hget
  | some g =>
      rw [hg] at hget
      exact Diff.compareEntry_of_get? hp hget

/-- The fields that only the second level has. -/
theorem addedEntries_levelToWire (path : KeyPath) (a b : Fields) :
    Diff.addedEntries (levelTokens path) (levelToWire a) (levelToWire b) =
      (b.filter fun e => !Diff.isPrivate (.text e.1) && !Entries.has e.1 a).map fun e =>
        ⟨fieldTokens (path ++ [e.1]), none, some (.map (wireMembers e.1 e.2))⟩ := by
  have has (key : String) : Entries.has (.text key) (levelToWire a) = Entries.has key a := by
    rw [Entries.has, Entries.has, get?_levelToWire, Option.isSome_map]
  rw [Diff.addedEntries, levelToWire_eq b, List.filter_map, List.map_map]
  simp only [Function.comp_def, has, fieldTokens_concat, fieldToWire_eq]

theorem settled_removed {path : List Value} {v w : Option Value} (h : Entered path v) :
    Settled { removed := [⟨path, v, w⟩] } :=
  ⟨fun _ hc => List.mem_singleton.mp hc ▸ h, List.forall_mem_nil _, rfl⟩

theorem settled_added {cs : List Change} (h : ∀ c ∈ cs, Entered c.path c.new) :
    Settled { added := cs } := ⟨List.forall_mem_nil _, h, rfl⟩

theorem Settled.empty : Settled {} := ⟨List.forall_mem_nil _, List.forall_mem_nil _, rfl⟩

theorem settled_valueDiff (path : List Value) (v w : Value) : Settled (Diff.valueDiff path v w) := by
  rw [Diff.valueDiff]
  by_cases h : v = w
  · rw [if_pos h]
    exact .empty
  · rw [if_neg h]
    exact ⟨List.forall_mem_nil _, List.forall_mem_nil _, rfl⟩

/-- What differs between two members of a field is settled, if what differs below it is. -/
theorem Settled.wireMembers {path : KeyPath} (ne : path ≠ []) (key : String) {f g : Field}
    (below : Settled (Diff.compareAt (levelTokens path) f.subfields.toWire g.subfields.toWire)) :
    Settled (Diff.compareAt (fieldTokens path) (.map (wireMembers key f))
      (.map (wireMembers key g))) := by
  rw [compareAt_wireMembers, belowDiff, ← levelTokens_of_ne_nil ne]
  refine .append (settled_valueDiff _ _ _) (.append (settled_valueDiff _ _ _) ?_)
  by_cases hf : f.subfields = []
  · rw [if_pos hf]
    by_cases hg : g.subfields = []
    · rw [if_pos hg]
      exact .empty
    · rw [if_neg hg]
      exact settled_added fun c hc => List.mem_singleton.mp hc ▸ .level ne hg
  · rw [if_neg hf]
    by_cases hg : g.subfields = []
    · rw [if_pos hg]
      exact settled_removed (.level ne hf)
    · rw [if_neg hg]
      exact below

theorem Settled.compareEntries {path : List Value} {bs : List (Scalar × Value)} :
    ∀ {as : List (Scalar × Value)}, (∀ e ∈ as, Settled (Diff.compareEntry path bs e)) →
      Settled (Diff.compareEntries path as bs)
  | [], _ => by
      rw [Diff.compareEntries]
      exact .empty
  | e :: rest, h => by
      rw [Diff.compareEntries_cons]
      exact .append (h e List.mem_cons_self)
        (.compareEntries fun e he => h e (List.mem_cons_of_mem _ he))

/-- **Between two schemas fields and levels come and go**, and no value changes its kind. -/
theorem settled_toWire {a : Fields} (h : WellFormed T a) : ∀ (path : KeyPath) (b : Fields),
    Settled (Diff.compareAt (levelTokens path) a.toWire b.toWire) := by
  induction h using WellFormed.induction_subfields with
  | level h ih =>
      intro path b
      rw [toWire, toWire, Diff.compareAt_map]
      refine .append (.compareEntries fun e he => ?_) (settled_added fun c hc => ?_)
      · obtain ⟨k, doc⟩ := e
        obtain ⟨key, f, hf, rfl, rfl⟩ := mem_levelToWire he
        cases hp : Diff.isPrivate (.text key) with
        | true =>
            rw [Diff.compareEntry_of_private hp]
            exact .empty
        | false =>
            have hne : path ++ [key] ≠ [] := List.concat_ne_nil key path
            rw [compareEntry_levelToWire path f b hp]
            cases Entries.get? key b with
            | none => exact settled_removed (.field hne _)
            | some g => exact .wireMembers hne key (ih key f hf (path ++ [key]) g.subfields)
      · rw [addedEntries_levelToWire] at hc
        obtain ⟨e, _, rfl⟩ := List.mem_map.mp hc
        exact .field (List.concat_ne_nil e.1 path) _

end SchemaChanges

end AdminConsole
