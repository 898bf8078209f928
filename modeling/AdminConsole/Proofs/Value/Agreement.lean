import AdminConsole.Proofs.Entries
import AdminConsole.Value.Same
import Mathlib.Data.List.Perm.Subperm

/-!
# Proofs/Value/Agreement — when two documents have the same content

Comparing two mappings walks through the entries of one, looks each key up in the other and compares
the sizes.  For mappings with distinct text keys that amounts to comparing look-ups, whatever the
order of the entries (`agrees_map_iff`); texts, integers and truth values agree when they are equal.

A number has the same content as the truth value that it counts as if it is one or nought, so what
is the same as a truth value counts as it (`truthy_of_same_bool`).
-/

namespace AdminConsole

/-! ## Doubles -/

namespace Binary64

theorem twoPow_ne_zero (n : Nat) : Nat.pow 2 n ≠ 0 := Nat.ne_of_gt (Nat.pow_pos Nat.zero_lt_two)

theorem unitsPerOne_ne_zero : unitsPerOne ≠ 0 := by
  -- the power is too large to be computed
  unfold unitsPerOne
  generalize 1074 = n
  exact twoPow_ne_zero n

theorem units_eq_zero_iff {x : Binary64} : x.units = 0 ↔ x.significand = 0 := by
  have hpow := twoPow_ne_zero x.scale
  have hprod : x.significand * Nat.pow 2 x.scale = 0 ↔ x.significand = 0 := by
    rw [Nat.mul_eq_zero, or_iff_left hpow]
  rw [units, ← hprod]
  split <;> omega

/-- A double that is one or nought counts as that truth value. -/
theorem isZero_of_sameInt {x : Binary64} {b : Bool}
    (h : x.sameInt (if b then 1 else 0) = true) : x.isZero = !b := by
  rw [sameInt, Bool.and_eq_true, beq_iff_eq] at h
  obtain ⟨finite, hunits⟩ := h
  have hone : (unitsPerOne : Int) ≠ 0 := Int.natCast_ne_zero.mpr unitsPerOne_ne_zero
  rw [isZero, finite, Bool.true_and]
  cases b
  · rw [if_neg Bool.false_ne_true, Int.zero_mul] at hunits
    exact beq_iff_eq.mpr (units_eq_zero_iff.mp hunits)
  · rw [if_pos rfl, Int.one_mul] at hunits
    exact beq_eq_false_iff_ne.mpr fun h => hone (hunits.symm.trans (units_eq_zero_iff.mpr h))

end Binary64

namespace Value

/-- The entries of an object: every key is a text, and no key occurs twice. -/
structure Textual (es : List (Scalar × Value)) : Prop where
  distinct : (Entries.keys es).Nodup
  text : ∀ k ∈ Entries.keys es, ∃ s, k = .text s

variable {as bs : List (Scalar × Value)}

/-! ## Scalars -/

theorem agrees_text_iff {l : Scalar} {s : String} : l.agrees (.text s) = true ↔ l = .text s := by
  cases l <;> simp [Scalar.agrees, Scalar.same, Scalar.integer?]

@[simp] theorem text_agrees_text {s t : String} :
    (Value.text s).agrees (.text t) = true ↔ s = t := by
  rw [agrees, agrees_text_iff, Scalar.text.injEq]

@[simp] theorem bool_agrees_bool {b c : Bool} : (Value.bool b).agrees (.bool c) = true ↔ b = c := by
  cases b <;> cases c <;> decide

@[simp] theorem int_agrees_int {m n : Int} : (Value.int m).agrees (.int n) = true ↔ m = n := by
  simp [agrees, Scalar.agrees, Scalar.same, Scalar.integer?]

@[simp] theorem ofText?_agrees_ofText? {s t : Option String} :
    (ofText? s).agrees (ofText? t) = true ↔ s = t := by
  cases s <;> cases t <;>
    simp [ofText?, agrees, Scalar.agrees, Scalar.same, Scalar.integer?]

/-- A text key agrees with itself alone. -/
theorem lookupSame_text (s : String) : ∀ es : List (Scalar × Value),
    lookupSame (.text s) es = Entries.get? (.text s) es
  | [] => rfl
  | (l, v) :: rest => by
      rw [lookupSame, Entries.get?_cons, lookupSame_text s rest]
      by_cases h : l = .text s
      · rw [if_pos h, if_pos (agrees_text_iff.mpr h)]
      · rw [if_neg h, if_neg (mt agrees_text_iff.mp h)]

/-! ## Values with the same content -/

theorem text_injective : Function.Injective Value.text :=
  fun _ _ h => Scalar.text.inj (scalar.inj h)

theorem same_text_iff {v : Value} {s : String} : v.same (.text s) = true ↔ v = .text s := by
  cases v with
  | scalar a => cases a <;> simp [same, Scalar.same, Scalar.integer?]
  | _ => simp [same, agrees]

/-- What is the same agrees. -/
theorem agrees_of_same {v w : Value} (h : v.same w = true) : v.agrees w = true := by
  cases v with
  | scalar a =>
    cases w with
    | scalar b => exact (Bool.or_eq_true _ _).mpr (.inr h)
    | _ => exact h
  | _ => exact h

/-- **What is the same as a truth value counts as it.** -/
theorem truthy_of_same_bool {v : Value} {b : Bool} (h : v.same (.bool b) = true) :
    v.truthy = b := by
  cases v with
  | scalar s =>
    cases s with
    | bool c =>
      have hnumber : (if c then 1 else 0 : Int) = if b then 1 else 0 := beq_iff_eq.mp h
      cases b <;> cases c <;> first | rfl | exact absurd hnumber (by decide)
    | int n =>
      have hnumber : n = if b then 1 else 0 := beq_iff_eq.mp h
      rw [hnumber]
      cases b <;> rfl
    | real x => exact (congrArg not (Binary64.isZero_of_sameInt h)).trans (Bool.not_not b)
    | _ => exact absurd h Bool.false_ne_true
  | _ => exact absurd h Bool.false_ne_true

/-! ## Mappings -/

theorem agreeEntries_iff (bs : List (Scalar × Value)) : ∀ as : List (Scalar × Value),
    agreeEntries as bs = true ↔
      ∀ k v, (k, v) ∈ as → ∃ w, lookupSame k bs = some w ∧ agrees v w = true
  | [] => by simp [agreeEntries]
  | (k, v) :: rest => by
      have ih := agreeEntries_iff bs rest
      rw [agreeEntries, Bool.and_eq_true, ih]
      cases hk : lookupSame k bs with
      | none =>
          refine ⟨fun h => absurd h.1 Bool.false_ne_true, fun h => ?_⟩
          obtain ⟨w, hw, _⟩ := h k v List.mem_cons_self
          nomatch hk.symm.trans hw
      | some w =>
          constructor
          · rintro ⟨hv, hrest⟩ l u hmem
            rcases List.mem_cons.mp hmem with h | h
            · obtain ⟨rfl, rfl⟩ := Prod.mk.inj h
              exact ⟨w, hk, hv⟩
            · exact hrest l u h
          · intro h
            obtain ⟨w', hw', hv⟩ := h k v List.mem_cons_self
            obtain rfl := Option.some.inj (hk.symm.trans hw')
            exact ⟨hv, fun l u hmem => h l u (List.mem_cons_of_mem _ hmem)⟩

/-- What a mapping has under a text key, one that agrees with it has there too. -/
theorem exists_member?_of_agrees {a b v : Value} {key : String} (h : a.agrees b = true)
    (hv : a.member? key = some v) : ∃ w, b.member? key = some w ∧ v.agrees w = true := by
  cases a with
  | map as =>
      cases b with
      | map bs =>
          rw [agrees, Bool.and_eq_true, agreeEntries_iff] at h
          obtain ⟨w, hw, hvw⟩ := h.2 _ v (Entries.mem_of_get? hv)
          exact ⟨w, (lookupSame_text key bs).symm.trans hw, hvw⟩
      | _ => nomatch h
  | _ => nomatch hv

/-- Of two lists of the same length without repetitions, one holds the other only if each does. -/
theorem subset_of_subset_of_length_eq {α : Type} {xs ys : List α} (hx : xs.Nodup)
    (hsub : xs ⊆ ys) (hlen : xs.length = ys.length) : ys ⊆ xs :=
  ((hx.subperm hsub).perm_of_length_le (Nat.le_of_eq hlen.symm)).symm.subset

/-- Related look-ups both fail, or find related values. -/
theorem rel_iff {α β : Type} {r : α → β → Prop} {x : Option α} {y : Option β} :
    Option.Rel r x y ↔ (x = none ∧ y = none) ∨ ∃ a b, x = some a ∧ y = some b ∧ r a b := by
  cases x <;> cases y <;> simp

theorem isSome_eq_of_rel {α β : Type} {r : α → β → Prop} {x : Option α} {y : Option β}
    (h : Option.Rel r x y) : x.isSome = y.isSome := by
  cases h <;> rfl

theorem exists_of_rel_some {α β : Type} {r : α → β → Prop} {a : α} {y : Option β}
    (h : Option.Rel r (some a) y) : ∃ b, y = some b ∧ r a b := by
  cases h with
  | some hr => exact ⟨_, rfl, hr⟩

/-- **Two mappings agree when their look-ups do.** -/
theorem agrees_map_iff (ha : Textual as) (hb : Textual bs) :
    agrees (.map as) (.map bs) = true ↔
      ∀ k, Option.Rel (fun v w => agrees v w = true) (Entries.get? k as) (Entries.get? k bs) := by
  rw [agrees, Bool.and_eq_true, agreeEntries_iff, beq_iff_eq]
  have hlookup : ∀ k ∈ Entries.keys as, lookupSame k bs = Entries.get? k bs := by
    intro k hk
    obtain ⟨s, rfl⟩ := ha.text k hk
    exact lookupSame_text s bs
  constructor
  · rintro ⟨hlen, hentries⟩ k
    have hsub : Entries.keys as ⊆ Entries.keys bs := by
      intro l hl
      obtain ⟨⟨l, v⟩, hmem, rfl⟩ := List.mem_map.mp hl
      obtain ⟨w, hw, _⟩ := hentries l v hmem
      exact Entries.mem_keys_iff.mpr ⟨w, (hlookup l hl).symm.trans hw⟩
    have hsub' : Entries.keys bs ⊆ Entries.keys as :=
      subset_of_subset_of_length_eq ha.distinct hsub (by simpa [Entries.keys] using hlen)
    cases hk : Entries.get? k as with
    | none =>
        have hnone : Entries.get? k bs = none :=
          Entries.not_mem_keys_iff.mp fun h => Entries.not_mem_keys_iff.mpr hk (hsub' h)
        rw [hnone]
        exact .none
    | some v =>
        have hmem := Entries.mem_of_get? hk
        obtain ⟨w, hw, hv⟩ := hentries k v hmem
        rw [← hlookup k (Entries.mem_keys_of_mem hmem), hw]
        exact .some hv
  · intro h
    have hkeys : ∀ k, k ∈ Entries.keys as ↔ k ∈ Entries.keys bs := by
      intro k
      rw [← Entries.has_iff_mem_keys, ← Entries.has_iff_mem_keys, Entries.has, Entries.has,
        isSome_eq_of_rel (h k)]
    constructor
    · have hperm := (List.perm_ext_iff_of_nodup ha.distinct hb.distinct).mpr hkeys
      simpa [Entries.keys] using hperm.length_eq
    · intro k v hmem
      have hk := h k
      rw [Entries.get?_of_mem ha.distinct hmem] at hk
      rw [hlookup k (Entries.mem_keys_of_mem hmem)]
      exact exists_of_rel_some hk

theorem map_same_map (as bs : List (Scalar × Value)) :
    (Value.map as).same (.map bs) = agrees (.map as) (.map bs) := rfl

end Value

end AdminConsole
