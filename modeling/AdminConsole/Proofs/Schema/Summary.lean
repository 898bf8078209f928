import AdminConsole.Proofs.Schema.Compared
import AdminConsole.Proofs.Schema.Comparison
import Mathlib.Data.Finset.Dedup

/-!
# Proofs/Schema/Summary — the changes between two schemas, line by line

The differences of two levels are told by the lines for each path at which the levels are compared
(`tell_compareAt`).  There is a line for a field that is lost or gained and for a type or a mark that
differs, and no other (`lines_exact`).  Keys that begin with two underscores are not compared, so the
trees here have none.
-/

namespace AdminConsole

open Fields SchemaPath

namespace Fields

/-- No key begins with two underscores. -/
def Public (fields : Fields) : Prop :=
  ∀ path f, find? fields path = some f → ∀ key ∈ path, Diff.PublicKey key

/-- No key of the level begins with two underscores. -/
def PublicKeys (level : Fields) : Prop := ∀ key ∈ Entries.keys level, Diff.PublicKey key

/-- The first tree has a field at `path`, and the second has none although it has the level. -/
def Lost (a b : Fields) (path : KeyPath) : Prop :=
  (find? a path).isSome ∧ find? b path = none ∧
    (path.dropLast = [] ∨ (find? b path.dropLast).isSome)

/-- Both trees have a field at `path`, with different members. -/
def Differ (member : Field → Value) (a b : Fields) (path : KeyPath) : Prop :=
  ∃ f g, find? a path = some f ∧ find? b path = some g ∧ member f ≠ member g

variable {a b : Fields} {key : String} {f : Field}

theorem Public.keys (h : Public a) : PublicKeys a := by
  intro key hkey
  obtain ⟨f, hf⟩ := Entries.mem_keys_iff.mp hkey
  exact h [key] f hf key List.mem_cons_self

theorem Public.subfields (h : Public a) (hf : Entries.get? key a = some f) : Public f.subfields := by
  intro path g hg l hl
  have hne : path ≠ [] := List.ne_nil_of_mem hl
  refine h (key :: path) g ?_ l (List.mem_cons_of_mem _ hl)
  rw [find?_cons_of_ne_nil hne, hf]
  exact hg

/-- A tree is public when its keys and the levels below them are. -/
theorem public_of_fields (h : ∀ key f, (key, f) ∈ a →
    Diff.PublicKey key ∧ Public f.subfields) : Public a := by
  intro path g hg key hkey
  match path with
  | [] => nomatch hg
  | [first] =>
      obtain rfl := List.mem_singleton.mp hkey
      exact (h key g (Entries.mem_of_get? hg)).1
  | first :: next :: rest =>
      rw [find?_cons_cons] at hg
      obtain ⟨f, hf, hg⟩ := Option.bind_eq_some_iff.mp hg
      obtain ⟨hfirst, hbelow⟩ := h first f (Entries.mem_of_get? hf)
      rcases List.mem_cons.mp hkey with rfl | hkey
      · exact hfirst
      · exact hbelow (next :: rest) g hg key hkey

end Fields

namespace SchemaChanges

variable {a b : Fields}

/-! ## The lines for one path -/

/-- The line for a member of a field that changed. -/
def memberLine (name : String) (path : KeyPath) (old new : Option Value) : String :=
  "Changed " ++ name ++ " of '" ++ joinTexts "." path ++ "': " ++ valueText old ++ " -> "
    ++ valueText new

/-- The line for a member that the fields at a path of two trees have with different values. -/
def changedLine (name : String) (member : Field → Value) (a b : Fields) (path : KeyPath) : String :=
  memberLine name path ((find? a path).map member) ((find? b path).map member)

/-- Whether only the first of two trees has a field at a path. -/
def isLost (x y : Option Field) : Bool := x.isSome && y.isNone

/-- Whether two trees have fields at a path, with different members. -/
def isDifferent (member : Field → Value) (x y : Option Field) : Bool :=
  x.isSome && y.isSome && x.map member != y.map member

/-- The line for a field that only the first of two trees has. -/
def lossLines (verb : String) (path : KeyPath) (x y : Option Field) : List String :=
  if isLost x y then [fieldLine verb path] else []

/-- The line for a member that two fields have with different values. -/
def memberLines (name : String) (member : Field → Value) (path : KeyPath) (x y : Option Field) :
    List String :=
  if isDifferent member x y then [memberLine name path (x.map member) (y.map member)] else []

/-- **The lines for a path**, with the fields that two trees have there. -/
def pathLines (path : KeyPath) (x y : Option Field) : List String :=
  lossLines "Removed" path x y ++ lossLines "Added" path y x ++
    (memberLines "type" typeValue path x y ++ memberLines "required" requiredValue path x y)

theorem isDifferent_some {member : Field → Value} {f g : Field} :
    isDifferent member (some f) (some g) = true ↔ member f ≠ member g := by
  simp [isDifferent]

theorem tell_empty : tell {} = [] := rfl

/-- A member that changed is told by its line. -/
theorem tell_valueDiff {path : KeyPath} (ne : path ≠ []) {name : String} (hname : name ≠ "")
    (member : Field → Value) (f g : Field) :
    tell (Diff.valueDiff (fieldTokens path ++ [.text name]) (member f) (member g)) =
      memberLines name member path (some f) (some g) := by
  have he : ¬ name.isEmpty := fun he => hname (String.isEmpty_iff.mp he)
  have hline (old new : Option Value) : changeLine ⟨fieldTokens path ++ [.text name], old, new⟩ =
      memberLine name path old new := by
    rw [changeLine, split_member ne]
    simp only [if_neg he]
    rfl
  rw [Diff.valueDiff, memberLines]
  by_cases h : member f = member g
  · rw [if_pos h, if_neg fun hd => isDifferent_some.mp hd h, tell_empty]
  · rw [if_neg h, if_pos (isDifferent_some.mpr h)]
    exact congrArg (· :: []) (hline _ _)

/-! ## The lines for two levels -/

theorem tell_compareEntries (path : List Value) (bs : List (Scalar × Value)) :
    ∀ as : List (Scalar × Value), (tell (Diff.compareEntries path as bs)).Perm
      (as.flatMap fun e => tell (Diff.compareEntry path bs e))
  | [] => by rw [Diff.compareEntries, List.flatMap_nil, tell_empty]
  | e :: rest => by
      rw [Diff.compareEntries_cons, List.flatMap_cons]
      exact (tell_append _ _).trans ((tell_compareEntries path bs rest).append_left _)

theorem tell_removed {path : KeyPath} (ne : path ≠ []) (v : Value) :
    tell { removed := [⟨fieldTokens path, some v, none⟩] } = [fieldLine "Removed" path] := by
  simp [tell, entryLines_field "Removed" "of" ne, yielded, Except.toOption]

theorem tell_removed_level {path : KeyPath} (ne : path ≠ []) (level : Fields) :
    tell { removed := [⟨levelTokens path, some level.toWire, none⟩] } =
      (Entries.keys level).map fun key => fieldLine "Removed" (path ++ [key]) := by
  simp [tell, entryLines_level "Removed" "of" ne, yielded, Except.toOption]

theorem tell_added_level {path : KeyPath} (ne : path ≠ []) (level : Fields) :
    tell { added := [⟨levelTokens path, none, some level.toWire⟩] } =
      (Entries.keys level).map fun key => fieldLine "Added" (path ++ [key]) := by
  simp [tell, entryLines_level "Added" "to" ne, yielded, Except.toOption]

/-- The fields that only the second level has are told one by one. -/
theorem tell_addedEntries (path : KeyPath) (hb : PublicKeys b) :
    tell { added := Diff.addedEntries (levelTokens path) (levelToWire a) (levelToWire b) } =
      (newKeys a b).map fun key => fieldLine "Added" (path ++ [key]) := by
  have hfilter : (b.filter fun e => !Diff.isPrivate (.text e.1) && !Entries.has e.1 a) =
      b.filter fun e => !Entries.has e.1 a := by
    refine List.filter_congr fun e he => ?_
    rw [Diff.isPrivate_text_eq_false_iff.mpr (hb e.1 (Entries.mem_keys_of_mem he))]
    rfl
  have hline (key : String) (v : Option Value) :
      yielded (entryLines "Added" "to" (fieldTokens (path ++ [key])) v) =
        [fieldLine "Added" (path ++ [key])] := by
    rw [entryLines_field "Added" "to" (List.concat_ne_nil key path)]
    rfl
  rw [addedEntries_levelToWire, hfilter, newKeys, Entries.keys, List.filter_map, List.map_map]
  simp [tell, List.flatMap_map, hline, ← List.map_eq_flatMap, Function.comp_def]

/-- **Two levels are told field by field.** -/
theorem tell_level (path : KeyPath) (hb : PublicKeys b) :
    (tell (Diff.compareAt (levelTokens path) a.toWire b.toWire)).Perm
      ((a.flatMap fun e => tell (Diff.compareEntry (levelTokens path) (levelToWire b)
          (.text e.1, .map (wireMembers e.1 e.2)))) ++
        (newKeys a b).map fun key => fieldLine "Added" (path ++ [key])) := by
  rw [toWire, toWire, Diff.compareAt_map, ← tell_addedEntries path hb]
  refine (tell_append _ _).trans (List.Perm.append_right _ ?_)
  have := tell_compareEntries (levelTokens path) (levelToWire b) (levelToWire a)
  rw [levelToWire_eq a, List.flatMap_map] at this
  simpa only [levelToWire_eq a, fieldToWire_eq] using this

/-- A field that the second level does not have is told as removed. -/
theorem tell_compareEntry_none (path : KeyPath) {key : String} (f : Field)
    (hp : Diff.isPrivate (.text key) = false) (hnone : Entries.get? key b = none) :
    tell (Diff.compareEntry (levelTokens path) (levelToWire b) (.text key, .map (wireMembers key f))) =
      [fieldLine "Removed" (path ++ [key])] := by
  rw [compareEntry_levelToWire path f b hp, hnone]
  exact tell_removed (List.concat_ne_nil key path) _

theorem tell_level_nil (path : KeyPath) (ha : PublicKeys a) :
    (tell (Diff.compareAt (levelTokens path) a.toWire (toWire []))).Perm
      ((Entries.keys a).map fun key => fieldLine "Removed" (path ++ [key])) := by
  have hlevel := tell_level path (a := a) (b := []) (List.forall_mem_nil _)
  have hentry : ∀ e ∈ a, tell (Diff.compareEntry (levelTokens path) (levelToWire [])
      (.text e.1, .map (wireMembers e.1 e.2))) = [fieldLine "Removed" (path ++ [e.1])] :=
    fun e he => tell_compareEntry_none path e.2
      (Diff.isPrivate_text_eq_false_iff.mpr (ha e.1 (Entries.mem_keys_of_mem he))) rfl
  rw [List.flatMap_congr hentry, ← List.map_eq_flatMap] at hlevel
  rw [Entries.keys, List.map_map]
  simpa [newKeys, Function.comp_def] using hlevel

theorem tell_nil_level (path : KeyPath) (hb : PublicKeys b) :
    (tell (Diff.compareAt (levelTokens path) (toWire []) b.toWire)).Perm
      ((Entries.keys b).map fun key => fieldLine "Added" (path ++ [key])) := by
  simpa [newKeys, Entries.has] using tell_level path hb (a := [])

/-- **A level that comes or goes as a whole is told like its fields.** -/
theorem tell_belowDiff {path : KeyPath} (ne : path ≠ []) {f g : Field}
    (hf : PublicKeys f.subfields) (hg : PublicKeys g.subfields) :
    (tell (belowDiff (fieldTokens path) f g)).Perm
      (tell (Diff.compareAt (levelTokens path) f.subfields.toWire g.subfields.toWire)) := by
  rw [belowDiff, ← levelTokens_of_ne_nil ne]
  by_cases hfs : f.subfields = []
  · rw [if_pos hfs, hfs]
    refine List.Perm.trans (.of_eq ?_) (tell_nil_level path hg).symm
    by_cases hgs : g.subfields = []
    · rw [if_pos hgs, hgs]
      rfl
    · rw [if_neg hgs, tell_added_level ne]
  · rw [if_neg hfs]
    by_cases hgs : g.subfields = []
    · rw [if_pos hgs, hgs, tell_removed_level ne]
      exact (tell_level_nil path hf).symm
    · rw [if_neg hgs]

/-- **Two fields are told by their members and the levels below them.** -/
theorem tell_wireMembers {path : KeyPath} (ne : path ≠ []) (key : String) {f g : Field}
    (hf : PublicKeys f.subfields) (hg : PublicKeys g.subfields) :
    (tell (Diff.compareAt (fieldTokens path) (.map (wireMembers key f))
      (.map (wireMembers key g)))).Perm
      (pathLines path (some f) (some g) ++
        tell (Diff.compareAt (levelTokens path) f.subfields.toWire g.subfields.toWire)) := by
  have hlines : pathLines path (some f) (some g) =
      memberLines "type" typeValue path (some f) (some g) ++
        memberLines "required" requiredValue path (some f) (some g) := rfl
  rw [compareAt_wireMembers, hlines, List.append_assoc, ← tell_valueDiff ne (by decide),
    ← tell_valueDiff ne (by decide)]
  refine (tell_append _ _).trans (List.Perm.append_left _ ?_)
  exact (tell_append _ _).trans ((tell_belowDiff ne hf hg).append_left _)

/-- At a key that only the second level has there is the line for a new field. -/
theorem flatMap_newKeys (path : KeyPath) (a b : Fields) :
    (((newKeys a b).map fun key => [key]).flatMap fun q =>
        pathLines (path ++ q) (find? a q) (find? b q)) =
      (newKeys a b).map fun key => fieldLine "Added" (path ++ [key]) := by
  rw [List.flatMap_map, List.map_eq_flatMap]
  refine List.flatMap_congr fun key hkey => ?_
  obtain ⟨hkey, hnone⟩ := mem_newKeys_iff.mp hkey
  obtain ⟨g, hg⟩ := Entries.mem_keys_iff.mp hkey
  have hfind : find? a [key] = none := Entries.not_mem_keys_iff.mp hnone
  have hfindb : find? b [key] = some g := hg
  rw [hfind, hfindb]
  rfl

/-- **Two trees are told by the lines for each compared path.** -/
theorem tell_compareAt {T : String → Prop} (ha : WellFormed T a) : ∀ {b : Fields},
    WellFormed T b → Public a → Public b → ∀ path : KeyPath,
      (tell (Diff.compareAt (levelTokens path) a.toWire b.toWire)).Perm
        ((compared a b).flatMap fun q => pathLines (path ++ q) (find? a q) (find? b q)) := by
  induction ha using WellFormed.induction_subfields with
  | @level a h ih =>
      intro b hb pa pb path
      refine (tell_level path pb.keys).trans ?_
      -- Both sides go through the entries of `a` and then through the new keys.
      rw [compared_eq, List.flatMap_append, List.flatMap_assoc, flatMap_newKeys]
      refine List.Perm.append_right _ (List.Perm.flatMap_left _ fun e he => ?_)
      obtain ⟨key, f⟩ := e
      have hf : Entries.get? key a = some f := Entries.get?_of_mem h.distinct he
      have hp := Diff.isPrivate_text_eq_false_iff.mpr (pa.keys key (Entries.mem_keys_of_mem he))
      have hfind : find? a [key] = some f := hf
      have hfindb : find? b [key] = Entries.get? key b := rfl
      rw [List.flatMap_map, comparedAfter, List.flatMap_cons, hfind, hfindb]
      cases hg : Entries.get? key b with
      | none =>
          rw [tell_compareEntry_none path f hp hg]
          rfl
      | some g =>
          have hsub := (hb.sound (Entries.mem_of_get? hg)).subfields
          have pf := pa.subfields hf
          have pg := pb.subfields hg
          rw [compareEntry_levelToWire path f b hp, hg]
          refine (tell_wireMembers (List.concat_ne_nil key path) key pf.keys pg.keys).trans ?_
          refine List.Perm.append_left _ ((ih key f he hsub pf pg _).trans (.of_eq ?_))
          -- Below the key the paths are longer by that key, in both trees and in the lines.
          refine List.flatMap_congr fun q hq => ?_
          have hq : q ≠ [] := fun hnil => nil_not_mem_compared _ _ (hnil ▸ hq)
          rw [find?_cons_of_ne_nil hq, find?_cons_of_ne_nil hq, hf, hg, List.append_assoc]
          rfl

/-! ## The lines for two trees -/

/-- The summary holds the lines for each compared path. -/
theorem lines_perm {T : String → Prop} (ha : WellFormed T a) (hb : WellFormed T b) (pa : Public a)
    (pb : Public b) : ∃ ls, lines a.toWire b.toWire = .ok ls ∧
      ls.Perm ((compared a b).flatMap fun path => pathLines path (find? a path) (find? b path)) := by
  obtain ⟨ls, hls, htell⟩ := lines_eq (settled_toWire ha [] b)
  exact ⟨ls, hls, htell.trans (tell_compareAt ha hb pa pb [])⟩

/-- The lines that some of the paths have. -/
theorem flatMap_if {p : KeyPath → Bool} (line : KeyPath → String) : ∀ paths : List KeyPath,
    (paths.flatMap fun path => if p path then [line path] else []) = (paths.filter p).map line
  | [] => rfl
  | path :: rest => by
      rw [List.flatMap_cons, flatMap_if line rest]
      cases hp : p path <;> simp [hp]

/-- The lines for each path, sorted by what they say. -/
theorem flatMap_pathLines (paths : List KeyPath) (a b : Fields) :
    (paths.flatMap fun path => pathLines path (find? a path) (find? b path)).Perm
      ((paths.filter fun p => isLost (find? a p) (find? b p)).map (fieldLine "Removed") ++
        (paths.filter fun p => isLost (find? b p) (find? a p)).map (fieldLine "Added") ++
        ((paths.filter fun p => isDifferent typeValue (find? a p) (find? b p)).map
            (changedLine "type" typeValue a b) ++
          (paths.filter fun p => isDifferent requiredValue (find? a p) (find? b p)).map
            (changedLine "required" requiredValue a b))) := by
  simp only [pathLines, lossLines, memberLines, ← flatMap_if]
  refine (List.flatMap_append_perm _ _ _).symm.trans (.append ?_ ?_)
  · exact (List.flatMap_append_perm _ _ _).symm
  · exact (List.flatMap_append_perm _ _ _).symm

theorem isLost_compared_iff {T : String → Prop} (ha : WellFormed T a) (hb : WellFormed T b)
    (path : KeyPath) : path ∈ compared a b ∧ isLost (find? a path) (find? b path) = true ↔
      Lost a b path := by
  rw [mem_compared_iff path ha hb, isLost, Bool.and_eq_true, Option.isNone_iff_eq_none, Lost,
    ← isSome_levelAt_iff]
  constructor
  · rintro ⟨⟨_, _, hlevel⟩, hf, hg⟩
    exact ⟨hf, hg, hlevel⟩
  · rintro ⟨hf, hg, hlevel⟩
    exact ⟨⟨.inl hf, isSome_levelAt_dropLast hf, hlevel⟩, hf, hg⟩

theorem isDifferent_compared_iff {T : String → Prop} (ha : WellFormed T a) (hb : WellFormed T b)
    (member : Field → Value) (path : KeyPath) :
    path ∈ compared a b ∧ isDifferent member (find? a path) (find? b path) = true ↔
      Differ member a b path := by
  constructor
  · rintro ⟨_, hd⟩
    cases hf : find? a path with
    | none => simp [hf, isDifferent] at hd
    | some f =>
        cases hg : find? b path with
        | none => simp [hg, isDifferent] at hd
        | some g =>
            rw [hf, hg] at hd
            exact ⟨f, g, hf, hg, isDifferent_some.mp hd⟩
  · rintro ⟨f, g, hf, hg, hne⟩
    have hfs : (find? a path).isSome = true := by rw [hf]; rfl
    have hgs : (find? b path).isSome = true := by rw [hg]; rfl
    rw [mem_compared_iff path ha hb]
    refine ⟨⟨.inl hfs, isSome_levelAt_dropLast hfs, isSome_levelAt_dropLast hgs⟩, ?_⟩
    rw [hf, hg]
    exact isDifferent_some.mpr hne

/-- Some of the paths of a list without repetitions, as a set. -/
theorem exists_finset_filter {paths : List KeyPath} (nodup : paths.Nodup) (p : KeyPath → Bool) :
    ∃ s : Finset KeyPath, s.val = (paths.filter p : List KeyPath) ∧
      ∀ q, q ∈ s ↔ q ∈ paths ∧ p q = true :=
  ⟨⟨(paths.filter p : List KeyPath), nodup.filter p⟩, rfl, fun _ => List.mem_filter⟩

/-- Lines that tell the changes between two trees: one for each field that is lost or gained in a level
that both have, one for each type and each mark that differs, and no other. -/
def Summarizes (a b : Fields) (ls : List String) : Prop :=
  ∃ removed added retyped remarked : Finset KeyPath,
    (∀ p, p ∈ removed ↔ Lost a b p) ∧ (∀ p, p ∈ added ↔ Lost b a p) ∧
    (∀ p, p ∈ retyped ↔ Differ typeValue a b p) ∧
    (∀ p, p ∈ remarked ↔ Differ requiredValue a b p) ∧
    (ls : Multiset String) =
      removed.val.map (fieldLine "Removed") + added.val.map (fieldLine "Added") +
        (retyped.val.map (changedLine "type" typeValue a b) +
          remarked.val.map (changedLine "required" requiredValue a b))

/-- **The summary of the changes between two schemas is exact.** -/
theorem lines_exact (ha : Keyed a) (hb : Keyed b) (pa : Public a) (pb : Public b) :
    ∃ ls, lines a.toWire b.toWire = .ok ls ∧ Summarizes a b ls := by
  have nodup := nodup_compared ha hb
  obtain ⟨ls, hls, hperm⟩ := lines_perm ha hb pa pb
  obtain ⟨removed, hremoved, mem_removed⟩ :=
    exists_finset_filter nodup fun p => isLost (find? a p) (find? b p)
  obtain ⟨added, hadded, mem_added⟩ :=
    exists_finset_filter nodup fun p => isLost (find? b p) (find? a p)
  obtain ⟨retyped, hretyped, mem_retyped⟩ :=
    exists_finset_filter nodup fun p => isDifferent typeValue (find? a p) (find? b p)
  obtain ⟨remarked, hremarked, mem_remarked⟩ :=
    exists_finset_filter nodup fun p => isDifferent requiredValue (find? a p) (find? b p)
  refine ⟨ls, hls, removed, added, retyped, remarked, fun p => ?_, fun p => ?_, fun p => ?_,
    fun p => ?_, ?_⟩
  · rw [mem_removed, isLost_compared_iff ha hb]
  · rw [mem_added, mem_compared_comm ha hb, isLost_compared_iff hb ha]
  · rw [mem_retyped, isDifferent_compared_iff ha hb]
  · rw [mem_remarked, isDifferent_compared_iff ha hb]
  · rw [hremoved, hadded, hretyped, hremarked]
    exact Multiset.coe_eq_coe.mpr (hperm.trans (flatMap_pathLines (compared a b) a b))

/-- A stock schema: a field that is called `fields` with a name below it, a box, a crate and a tag. -/
def oldStock : Fields :=
  [("fields", { name := "fields", type := "object", children := some [("name", { name := "name" })] }),
    ("box", { name := "box", type := "object", children := some [("width", { name := "width" })] }),
    ("crate", { name := "crate", type := "object" }), ("tag", { name := "tag" })]

/-- The stock schema after the name got another type and a mark, the box lost all its fields, the crate
got its first, and the tag gave way to a lid. -/
def newStock : Fields :=
  [("fields", { name := "fields", type := "object"
                children := some [("name", { name := "name", type := "number", required := true })] }),
    ("box", { name := "box", type := "object" }),
    ("crate", { name := "crate", type := "object"
                children := some [("height", { name := "height" })] }),
    ("lid", { name := "lid", type := "object", children := some [("hinge", { name := "hinge" })] })]

/-- What happened to the stock schema is told in six lines. -/
theorem lines_exact_stock :
    Keyed oldStock ∧ Keyed newStock ∧ Public oldStock ∧ Public newStock ∧
      ∃ ls, lines oldStock.toWire newStock.toWire = .ok ls ∧ Summarizes oldStock newStock ls ∧
        ls.Perm ["Changed type of 'fields.name': string -> number",
          "Changed required of 'fields.name': false -> true", "Removed field 'box.width'",
          "Added field 'crate.height'", "Removed field 'tag'", "Added field 'lid'"] := by
  have tree {t : Fields} (distinct : (Entries.keys t).Nodup) (h : ∀ key f, (key, f) ∈ t →
      f.name = key ∧ Diff.PublicKey key ∧ Keyed f.subfields ∧ Public f.subfields) :
      Keyed t ∧ Public t := by
    refine ⟨.of_fields distinct fun key f hf => ?_, public_of_fields fun key f hf => ?_⟩
    · refine ⟨(h key f hf).1, trivial, fun children hc => ?_⟩
      have hsub := (h key f hf).2.2.1
      rwa [Field.subfields, hc] at hsub
    · exact ⟨(h key f hf).2.1, (h key f hf).2.2.2⟩
  have none : Keyed [] ∧ Public [] := tree (by decide) fun _ _ h => absurd h List.not_mem_nil
  have one (key : String) (f : Field) (name : f.name = key) (hkey : Diff.PublicKey key)
      (hsub : f.subfields = []) : Keyed [(key, f)] ∧ Public [(key, f)] := by
    refine tree (List.nodup_singleton key) fun k g hg => ?_
    obtain ⟨rfl, rfl⟩ := Prod.mk.inj (List.mem_singleton.mp hg)
    exact ⟨name, hkey, hsub ▸ none⟩
  have old : Keyed oldStock ∧ Public oldStock := by
    refine tree (by decide) fun key f hf => ?_
    simp only [oldStock, List.mem_cons, List.not_mem_nil, or_false, Prod.mk.injEq] at hf
    rcases hf with ⟨rfl, rfl⟩ | ⟨rfl, rfl⟩ | ⟨rfl, rfl⟩ | ⟨rfl, rfl⟩
    · exact ⟨rfl, by decide, one _ _ rfl (by decide) rfl⟩
    · exact ⟨rfl, by decide, one _ _ rfl (by decide) rfl⟩
    · exact ⟨rfl, by decide, none⟩
    · exact ⟨rfl, by decide, none⟩
  have new : Keyed newStock ∧ Public newStock := by
    refine tree (by decide) fun key f hf => ?_
    simp only [newStock, List.mem_cons, List.not_mem_nil, or_false, Prod.mk.injEq] at hf
    rcases hf with ⟨rfl, rfl⟩ | ⟨rfl, rfl⟩ | ⟨rfl, rfl⟩ | ⟨rfl, rfl⟩
    · exact ⟨rfl, by decide, one _ _ rfl (by decide) rfl⟩
    · exact ⟨rfl, by decide, none⟩
    · exact ⟨rfl, by decide, one _ _ rfl (by decide) rfl⟩
    · exact ⟨rfl, by decide, one _ _ rfl (by decide) rfl⟩
  obtain ⟨ls, hls, hsummary⟩ := lines_exact old.1 new.1 old.2 new.2
  obtain ⟨ls', hls', hperm⟩ := lines_perm old.1 new.1 old.2 new.2
  obtain rfl := Except.ok.inj (hls'.symm.trans hls)
  have hpaths : ((compared oldStock newStock).flatMap fun path =>
      pathLines path (find? oldStock path) (find? newStock path)) =
        ["Changed type of 'fields.name': string -> number",
          "Changed required of 'fields.name': false -> true", "Removed field 'box.width'",
          "Added field 'crate.height'", "Removed field 'tag'", "Added field 'lid'"] := by
    decide +kernel
  exact ⟨old.1, new.1, old.2, new.2, ls', hls, hsummary, hperm.trans (.of_eq hpaths)⟩

end SchemaChanges

end AdminConsole
