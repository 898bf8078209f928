import AdminConsole.Proofs.Value.Agreement
import AdminConsole.Value.Pairs

/-!
# Proofs/Value/Key — keys of any kind

Keys agree when they have the same `Content`: they are the same number, the same moment everywhere,
or else the same datum (`agrees_iff`).  So agreement is an equivalence, and look-ups by agreement
read what was written (`lookupSame_putSame`).  A value is `Proper` if each of its mappings has each
key once, as every mapping that a program can hold.
-/

namespace AdminConsole

/-! ## When keys agree -/

/-- What keys are compared by: a number in units, a moment by the time everywhere, anything else
by itself. -/
inductive Content where
  | number (units : Int)
  | instant (micros : Int)
  | datum (s : Scalar)

namespace Binary64

theorem isNaN_of_isFinite {x : Binary64} (h : x.isFinite = true) : x.isNaN = false := by
  rw [isFinite, bne_iff_ne] at h
  rw [isNaN, Bool.and_eq_false_iff]
  exact .inl (beq_eq_false_iff_ne.mpr h)

/-- Beyond the finite doubles only one and the same datum is the same. -/
theorem eq_of_same {x y : Binary64} (special : (x.isFinite && y.isFinite) = false)
    (h : x.same y = true) : x = y := by
  rw [same, special] at h
  split at h
  · nomatch h
  · obtain ⟨bits⟩ := x
    exact congrArg mk (beq_iff_eq.mp h)

theorem same_iff_of_isFinite {x y : Binary64} (hx : x.isFinite = true) (hy : y.isFinite = true) :
    x.same y = true ↔ x.units = y.units := by
  rw [same, isNaN_of_isFinite hx, isNaN_of_isFinite hy, hx, hy]
  exact beq_iff_eq

end Binary64

namespace Scalar

/-- The content of a key. -/
def content : Scalar → Content
  | .bool b => .number ((if b then 1 else 0) * Binary64.unitsPerOne)
  | .int n => .number (n * Binary64.unitsPerOne)
  | .real x => if x.isFinite then .number x.units else .datum (.real x)
  | .moment t => match t.offset with
    | some minutes => .instant (t.clock - minutes * 60000000)
    | none => .datum (.moment t)
  | s => .datum s

theorem agrees_iff_or {a b : Scalar} : a.agrees b = true ↔ a = b ∨ a.same b = true := by
  rw [agrees, Bool.or_eq_true, beq_iff_eq]

theorem real_agrees_real {x y : Binary64} :
    (real x).agrees (real y) = true ↔ (real x).content = (real y).content := by
  rw [agrees_iff_or, real.injEq]
  change x = y ∨ x.same y = true ↔ _
  by_cases finite : (x.isFinite && y.isFinite) = true
  · obtain ⟨hx, hy⟩ := (Bool.and_eq_true _ _).mp finite
    rw [Binary64.same_iff_of_isFinite hx hy, content, content, if_pos hx, if_pos hy,
      Content.number.injEq]
    exact or_iff_right_of_imp fun h => congrArg Binary64.units h
  · rw [or_iff_left_of_imp (Binary64.eq_of_same (Bool.not_eq_true _ ▸ finite)), content, content]
    grind

theorem moment_agrees_moment {s t : Moment} :
    (moment s).agrees (moment t) = true ↔ (moment s).content = (moment t).content := by
  rw [agrees_iff_or, moment.injEq]
  change s = t ∨ s.same t = true ↔ _
  rw [Moment.same, content, content]
  grind

theorem agrees_iff {a b : Scalar} : a.agrees b = true ↔ a.content = b.content := by
  have cancel (m n : Int) : m * Binary64.unitsPerOne = n * Binary64.unitsPerOne ↔ m = n :=
    Int.mul_eq_mul_right_iff (Int.natCast_ne_zero.mpr Binary64.unitsPerOne_ne_zero)
  rw [agrees_iff_or]
  cases a <;> cases b
  case real.real => rw [← real_agrees_real, agrees_iff_or]
  case moment.moment => rw [← moment_agrees_moment, agrees_iff_or]
  all_goals
    simp only [same, integer?, content, Binary64.sameInt]
    grind

theorem agrees_self (k : Scalar) : k.agrees k = true := agrees_iff.mpr rfl

theorem agrees_comm (k l : Scalar) : k.agrees l = l.agrees k := by
  rw [Bool.eq_iff_iff, agrees_iff, agrees_iff, eq_comm]

/-- Keys that agree agree with the same keys. -/
theorem agrees_congr {k l : Scalar} (h : k.agrees l = true) (m : Scalar) :
    m.agrees k = m.agrees l := by
  rw [Bool.eq_iff_iff, agrees_iff, agrees_iff, agrees_iff.mp h]

end Scalar

namespace Value

/-! ## Looking up and binding -/

theorem lookupSame_cons (k l : Scalar) (v : Value) (es : List (Scalar × Value)) :
    lookupSame k ((l, v) :: es) = if l.agrees k then some v else lookupSame k es := rfl

theorem lookupSame_congr {k l : Scalar} (h : k.agrees l = true) :
    ∀ es : List (Scalar × Value), lookupSame k es = lookupSame l es
  | [] => rfl
  | (m, v) :: rest => by
      rw [lookupSame_cons, lookupSame_cons, Scalar.agrees_congr h, lookupSame_congr h rest]

theorem lookupSame_eq_none_iff {k : Scalar} : ∀ {es : List (Scalar × Value)},
    lookupSame k es = none ↔ ∀ l ∈ Entries.keys es, l.agrees k = false
  | [] => by simp [lookupSame]
  | (l, v) :: rest => by
      rw [lookupSame_cons, Entries.keys_cons, List.forall_mem_cons,
        ← @lookupSame_eq_none_iff k rest]
      cases l.agrees k <;> simp

/-- **Reading after binding**: the value under the keys that agree, and what was there under any
other key. -/
theorem lookupSame_putSame (k l : Scalar) (v : Value) : ∀ es : List (Scalar × Value),
    lookupSame l (putSame k v es) = if k.agrees l then some v else lookupSame l es
  | [] => rfl
  | (m, w) :: rest => by
      rw [putSame]
      by_cases hm : m.agrees k = true
      · have hl : m.agrees l = k.agrees l := by
          rw [Scalar.agrees_comm m, Scalar.agrees_comm k, Scalar.agrees_congr hm]
        rw [if_pos hm, lookupSame_cons, lookupSame_cons, hl]
        split <;> rfl
      · rw [if_neg hm, lookupSame_cons, lookupSame_cons, lookupSame_putSame k l v rest]
        by_cases hl : m.agrees l = true
        · have hk : ¬ k.agrees l = true := fun hk => hm (Scalar.agrees_congr hk m ▸ hl)
          rw [if_pos hl, if_neg hk, if_pos hl]
        · rw [if_neg hl, if_neg hl]

/-- Binding a key to the value that it has changes nothing. -/
theorem putSame_of_lookupSame {k : Scalar} {v : Value} : ∀ {es : List (Scalar × Value)},
    lookupSame k es = some v → putSame k v es = es
  | [], h => nomatch h
  | (l, w) :: rest, h => by
      rw [lookupSame_cons] at h
      rw [putSame]
      by_cases hl : l.agrees k = true
      · rw [if_pos hl] at h ⊢
        rw [Option.some.inj h]
      · rw [if_neg hl] at h ⊢
        rw [putSame_of_lookupSame h]

/-- A key with which none agrees is bound at the end. -/
theorem putSame_of_lookupSame_eq_none {k : Scalar} (v : Value) : ∀ {es : List (Scalar × Value)},
    lookupSame k es = none → putSame k v es = es ++ [(k, v)]
  | [], _ => rfl
  | (l, w) :: rest, h => by
      rw [lookupSame_cons] at h
      rw [putSame]
      by_cases hl : l.agrees k = true
      · rw [if_pos hl] at h
        nomatch h
      · rw [if_neg hl] at h ⊢
        rw [putSame_of_lookupSame_eq_none v h, List.cons_append]

/-- **The keys after binding**: those that were there, and the new one last if none of them agrees
with it. -/
theorem keys_putSame (k : Scalar) (v : Value) : ∀ es : List (Scalar × Value),
    Entries.keys (putSame k v es) =
      if (lookupSame k es).isSome then Entries.keys es else Entries.keys es ++ [k]
  | [] => rfl
  | (l, w) :: rest => by
      rw [putSame, lookupSame_cons]
      by_cases hl : l.agrees k = true
      · rw [if_pos hl, if_pos hl]
        rfl
      · rw [if_neg hl, if_neg hl, Entries.keys_cons, keys_putSame k v rest, Entries.keys_cons]
        split <;> rfl

/-! ## Proper values -/

/-- No two keys of a mapping agree. -/
def DistinctKeys (es : List (Scalar × Value)) : Prop :=
  (Entries.keys es).Pairwise fun k l => k.agrees l = false

instance (es : List (Scalar × Value)) : Decidable (DistinctKeys es) :=
  inferInstanceAs (Decidable (List.Pairwise _ _))

theorem distinctKeys_cons {k : Scalar} {v : Value} {es : List (Scalar × Value)} :
    DistinctKeys ((k, v) :: es) ↔ lookupSame k es = none ∧ DistinctKeys es := by
  rw [DistinctKeys, Entries.keys_cons, List.pairwise_cons, lookupSame_eq_none_iff]
  simp only [Scalar.agrees_comm k]
  rfl

/-- Under distinct keys every entry is found. -/
theorem DistinctKeys.lookupSame_of_mem {k : Scalar} {v : Value} : ∀ {es : List (Scalar × Value)},
    DistinctKeys es → (k, v) ∈ es → lookupSame k es = some v
  | (l, w) :: rest, distinct, h => by
      obtain ⟨hl, hrest⟩ := distinctKeys_cons.mp distinct
      rw [lookupSame_cons]
      rcases List.mem_cons.mp h with h | h
      · obtain ⟨rfl, rfl⟩ := Prod.mk.inj h
        rw [if_pos (Scalar.agrees_self k)]
      · have hk := hrest.lookupSame_of_mem h
        have hne : ¬ l.agrees k = true := fun hlk => by
          rw [lookupSame_congr hlk, hk] at hl
          nomatch hl
        rw [if_neg hne, hk]

/-- What is found is the value of an entry. -/
theorem exists_mem_of_lookupSame {k : Scalar} {v : Value} : ∀ {es : List (Scalar × Value)},
    lookupSame k es = some v → ∃ l, (l, v) ∈ es
  | (l, w) :: rest, h => by
      rw [lookupSame_cons] at h
      split at h
      · rw [← Option.some.inj h]
        exact ⟨l, List.mem_cons_self⟩
      · obtain ⟨m, hm⟩ := exists_mem_of_lookupSame h
        exact ⟨m, List.mem_cons_of_mem _ hm⟩

/-- **The value that a path of keys leads to**, through mappings. -/
def at? : List Scalar → Value → Option Value
  | [], v => some v
  | k :: path, .map es => (lookupSame k es).bind (at? path)
  | _ :: _, _ => none

/-- A value is *proper* if each mapping that a path leads to has each key once. -/
def Proper (v : Value) : Prop := ∀ path es, v.at? path = some (.map es) → DistinctKeys es

theorem at?_cons_map (k : Scalar) (path : List Scalar) (es : List (Scalar × Value)) :
    (Value.map es).at? (k :: path) = (lookupSame k es).bind (at? path) := rfl

/-- A path beyond the first key leads somewhere in a mapping only. -/
theorem at?_cons_of_not_isMap {v : Value} (h : v.isMap = false) (k : Scalar)
    (path : List Scalar) : v.at? (k :: path) = none := by
  cases v with
  | map es => nomatch h
  | _ => rfl

theorem at?_append (path rest : List Scalar) (v : Value) :
    v.at? (path ++ rest) = (v.at? path).bind (at? rest) := by
  induction path generalizing v with
  | nil => rfl
  | cons k path ih =>
      rw [List.cons_append]
      cases v with
      | map es =>
          rw [at?_cons_map, at?_cons_map]
          cases lookupSame k es with
          | none => rfl
          | some w => exact ih w
      | _ => rfl

theorem Proper.distinctKeys {es : List (Scalar × Value)} (h : Proper (.map es)) :
    DistinctKeys es := h [] es rfl

/-- What a path leads to in a proper value is proper. -/
theorem Proper.of_at? {v w : Value} {path : List Scalar} (h : Proper v)
    (hw : v.at? path = some w) : Proper w := by
  intro rest es hes
  refine h (path ++ rest) es ?_
  rw [at?_append, hw]
  exact hes

theorem Proper.of_mem {es : List (Scalar × Value)} {k : Scalar} {v : Value}
    (h : Proper (.map es)) (hmem : (k, v) ∈ es) : Proper v := by
  have found : (Value.map es).at? [k] = some v := by
    rw [at?_cons_map, h.distinctKeys.lookupSame_of_mem hmem]
    rfl
  exact h.of_at? found

theorem proper_of_not_isMap {v : Value} (h : v.isMap = false) : Proper v := by
  intro path es hes
  cases path with
  | nil =>
      obtain rfl := Option.some.inj hes
      nomatch h
  | cons k path =>
      rw [at?_cons_of_not_isMap h] at hes
      nomatch hes

/-- **A mapping is proper** if its keys are distinct and its values are proper. -/
theorem proper_map {es : List (Scalar × Value)} (distinct : DistinctKeys es)
    (values : ∀ e ∈ es, Proper e.2) : Proper (.map es) := by
  intro path fs hfs
  cases path with
  | nil =>
      obtain rfl := Value.map.inj (Option.some.inj hfs)
      exact distinct
  | cons k path =>
      rw [at?_cons_map, Option.bind_eq_some_iff] at hfs
      obtain ⟨v, hv, hpath⟩ := hfs
      obtain ⟨l, hmem⟩ := exists_mem_of_lookupSame hv
      exact values _ hmem path fs hpath

end Value

end AdminConsole
