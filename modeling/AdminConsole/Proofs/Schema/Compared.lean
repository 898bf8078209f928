import AdminConsole.Proofs.Schema.Path
import Mathlib.Data.List.Nodup

/-!
# Proofs/Schema/Compared — where two trees of fields are compared

Two trees are compared at the keys of both, and further down at the keys that both have
(`compared`).  So a path is compared once (`nodup_compared`), if it is there in one of the trees and
the level it leads to is there in both (`mem_compared_iff`).
-/

namespace AdminConsole.Fields

/-- The keys that only the second level has. -/
def newKeys (a b : Fields) : List String := (Entries.keys b).filter fun key => !Entries.has key a

mutual

/-- The paths below a field at which it is compared with a level. -/
def comparedBelow : Field → Fields → List KeyPath
  | ⟨_, _, _, none⟩, other => (newKeys [] other).map fun key => [key]
  | ⟨_, _, _, some cs⟩, other => comparedFrom cs other ++ (newKeys cs other).map fun key => [key]

/-- The compared paths that begin with a key of the first level. -/
def comparedFrom : Fields → Fields → List KeyPath
  | [], _ => []
  | (key, f) :: rest, b =>
    ([] :: match Entries.get? key b with
      | some g => comparedBelow f g.subfields
      | none => []).map (key :: ·) ++ comparedFrom rest b

end

/-- **The paths at which two trees are compared.** -/
def compared (a b : Fields) : List KeyPath :=
  comparedFrom a b ++ (newKeys a b).map fun key => [key]

/-- How the compared paths go on after a key of the first level. -/
def comparedAfter (b : Fields) (e : String × Field) : List KeyPath :=
  [] :: match Entries.get? e.1 b with
    | some g => compared e.2.subfields g.subfields
    | none => []

variable {T : String → Prop} {a b : Fields} {key : String}

theorem comparedBelow_eq (f : Field) (other : Fields) :
    comparedBelow f other = compared f.subfields other := by
  obtain ⟨name, type, required, children⟩ := f
  cases children with
  | none => rw [comparedBelow]; rfl
  | some cs => rw [comparedBelow]; rfl

theorem comparedFrom_eq (b : Fields) : ∀ a : Fields,
    comparedFrom a b = a.flatMap fun e => (comparedAfter b e).map (e.1 :: ·)
  | [] => by rw [comparedFrom]; rfl
  | (key, f) :: rest => by
      rw [comparedFrom, List.flatMap_cons, comparedFrom_eq b rest, comparedAfter]
      simp only [comparedBelow_eq]

theorem compared_eq (a b : Fields) : compared a b =
    (a.flatMap fun e => (comparedAfter b e).map (e.1 :: ·)) ++
      (newKeys a b).map fun key => [key] := by
  rw [compared, comparedFrom_eq]

/-! ## Every path once -/

theorem mem_newKeys_iff : key ∈ newKeys a b ↔ key ∈ Entries.keys b ∧ key ∉ Entries.keys a := by
  rw [newKeys, List.mem_filter, Bool.not_eq_true', ← Entries.has_iff_mem_keys,
    ← Entries.has_iff_mem_keys, Bool.not_eq_true]

/-- Blocks that begin with different keys have no path in common. -/
theorem nodup_flatMap_cons {es : List (String × Field)} {block : String × Field → List KeyPath}
    (distinct : (Entries.keys es).Nodup) (hblock : ∀ e ∈ es, (block e).Nodup) :
    (es.flatMap fun e => (block e).map (e.1 :: ·)).Nodup := by
  refine List.nodup_flatMap.mpr ⟨fun e he => (hblock e he).map (List.cons_injective), ?_⟩
  refine (List.pairwise_map.mp distinct).imp fun hne => ?_
  refine List.disjoint_left.mpr fun path h h' => hne ?_
  obtain ⟨q, _, rfl⟩ := List.mem_map.mp h
  obtain ⟨q', _, heq⟩ := List.mem_map.mp h'
  exact (List.cons.inj heq).1.symm

theorem nil_not_mem_compared (a b : Fields) : [] ∉ compared a b := by
  rw [compared_eq]
  simp

/-- **No path is compared twice.** -/
theorem nodup_compared (ha : WellFormed T a) : ∀ {b : Fields}, WellFormed T b →
    (compared a b).Nodup := by
  induction ha using WellFormed.induction_subfields with
  | @level a h ih =>
      intro b hb
      have hnew : ((newKeys a b).map fun key => [key]).Nodup :=
        (hb.distinct.filter _).map fun _ _ h => (List.cons.inj h).1
      have hfrom : (a.flatMap fun e => (comparedAfter b e).map (e.1 :: ·)).Nodup := by
        refine nodup_flatMap_cons h.distinct fun e he => ?_
        rw [comparedAfter]
        cases hg : Entries.get? e.1 b with
        | none => exact List.nodup_singleton _
        | some g =>
            have hsub := (hb.sound (Entries.mem_of_get? hg)).subfields
            exact List.nodup_cons.mpr ⟨nil_not_mem_compared _ _, ih e.1 e.2 he hsub⟩
      rw [compared_eq]
      refine hfrom.append hnew (List.disjoint_left.mpr fun path hp hp' => ?_)
      obtain ⟨e, he, hp⟩ := List.mem_flatMap.mp hp
      obtain ⟨q, _, rfl⟩ := List.mem_map.mp hp
      obtain ⟨key, hkey, heq⟩ := List.mem_map.mp hp'
      obtain ⟨rfl, _⟩ := List.cons.inj heq
      exact (mem_newKeys_iff.mp hkey).2 (Entries.mem_keys_of_mem he)

/-! ## Which paths -/

/-- A compared path is a key of one of the levels, or leads on where both have it. -/
theorem cons_mem_compared_iff (distinct : (Entries.keys a).Nodup) {rest : KeyPath} :
    key :: rest ∈ compared a b ↔
      (rest = [] ∧ ((Entries.get? key a).isSome ∨ (Entries.get? key b).isSome)) ∨
        ∃ f g, Entries.get? key a = some f ∧ Entries.get? key b = some g ∧
          rest ∈ compared f.subfields g.subfields := by
  have hfrom : key :: rest ∈ (a.flatMap fun e => (comparedAfter b e).map (e.1 :: ·)) ↔
      ∃ f, Entries.get? key a = some f ∧ rest ∈ comparedAfter b (key, f) := by
    constructor
    · intro h
      obtain ⟨⟨k, f⟩, he, h⟩ := List.mem_flatMap.mp h
      obtain ⟨q, hq, heq⟩ := List.mem_map.mp h
      obtain ⟨rfl, rfl⟩ := List.cons.inj heq
      exact ⟨f, Entries.get?_of_mem distinct he, hq⟩
    · rintro ⟨f, hf, h⟩
      exact List.mem_flatMap.mpr
        ⟨(key, f), Entries.mem_of_get? hf, List.mem_map.mpr ⟨rest, h, rfl⟩⟩
  have hafter (f : Field) : rest ∈ comparedAfter b (key, f) ↔ rest = [] ∨
      ∃ g, Entries.get? key b = some g ∧ rest ∈ compared f.subfields g.subfields := by
    rw [comparedAfter, List.mem_cons]
    cases Entries.get? key b <;> simp
  have hnew : key :: rest ∈ ((newKeys a b).map fun key => [key]) ↔
      rest = [] ∧ (Entries.get? key b).isSome ∧ Entries.get? key a = none := by
    have hb : key ∈ Entries.keys b ↔ (Entries.get? key b).isSome := by
      rw [← Entries.has_iff_mem_keys, Entries.has]
    constructor
    · intro h
      obtain ⟨k, hk, heq⟩ := List.mem_map.mp h
      obtain ⟨rfl, rfl⟩ := List.cons.inj heq
      obtain ⟨hk, hk'⟩ := mem_newKeys_iff.mp hk
      exact ⟨rfl, hb.mp hk, Entries.not_mem_keys_iff.mp hk'⟩
    · rintro ⟨rfl, hk, hk'⟩
      exact List.mem_map.mpr
        ⟨key, mem_newKeys_iff.mpr ⟨hb.mpr hk, Entries.not_mem_keys_iff.mpr hk'⟩, rfl⟩
  rw [compared_eq, List.mem_append, hfrom, hnew]
  simp only [hafter]
  cases Entries.get? key a <;> cases Entries.get? key b <;> simp

/-- **A path is compared where it is there in one tree and its level in both.** -/
theorem mem_compared_iff (path : KeyPath) : ∀ {a b : Fields}, WellFormed T a → WellFormed T b →
    (path ∈ compared a b ↔ ((find? a path).isSome ∨ (find? b path).isSome) ∧
      (levelAt a path.dropLast).isSome ∧ (levelAt b path.dropLast).isSome) := by
  induction path with
  | nil => exact fun {a b} _ _ => by simp [nil_not_mem_compared, find?]
  | cons key rest ih =>
      intro a b ha hb
      rw [cons_mem_compared_iff ha.distinct]
      cases rest with
      | nil =>
          have hnil (f g : Field) : [] ∉ compared f.subfields g.subfields :=
            nil_not_mem_compared _ _
          simp [find?, findFrom, levelAt, hnil]
      | cons next rest =>
          rw [List.dropLast_cons_cons, find?_cons_cons, find?_cons_cons, levelAt_cons, levelAt_cons]
          cases hf : Entries.get? key a with
          | none => simp
          | some f =>
              cases hg : Entries.get? key b with
              | none => simp
              | some g =>
                  have := ih (ha.sound (Entries.mem_of_get? hf)).subfields
                    (hb.sound (Entries.mem_of_get? hg)).subfields
                  simpa using this

theorem mem_compared_comm (ha : WellFormed T a) (hb : WellFormed T b) (path : KeyPath) :
    path ∈ compared a b ↔ path ∈ compared b a := by
  rw [mem_compared_iff path ha hb, mem_compared_iff path hb ha]
  tauto

end AdminConsole.Fields
