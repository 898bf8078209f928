import AdminConsole.Proofs.Value.Agreement
import AdminConsole.Record.Check

/-!
# Proofs/Record/Check — what a field check makes of a value

A check that succeeds tells what the value was: a text is taken as it is (`text_eq_ok_iff`), and
null stands for the empty text or for none where it may.  Numbers and flags are converted.  An integer
counts as the value that it was read from unless that was a text (`integer_agrees_iff`), and a flag
unless that was a word for false (`flag_truthy_iff`): every other value is as true as its flag.
-/

namespace AdminConsole

theorem Binary64.sameInt_truncate {x : Binary64} (h : x.isIntegral = true) :
    x.sameInt x.truncate = true := by
  rw [isIntegral, Bool.and_eq_true, beq_iff_eq] at h
  rw [sameInt, Bool.and_eq_true, beq_iff_eq, truncate]
  exact ⟨h.1, (Int.tdiv_mul_cancel (Int.dvd_of_emod_eq_zero h.2)).symm⟩

namespace Record

variable {α : Type} {es : List (Scalar × Value)} {name : String} {check : Check α} {default a : α}
  {v : Value} {s : String} {n : Int} {b : Bool}

/-! ## Texts -/

theorem text_eq_ok_iff : text v = .ok s ↔ v = .text s := by
  unfold text
  split <;> simp_all

theorem optionalText_eq_ok_iff {s : Option String} : optionalText v = .ok s ↔ v = .ofText? s := by
  unfold optionalText
  split
  · cases s <;> simp [Value.ofText?]
  · next hnull =>
    cases s with
    | none =>
      refine iff_of_false ?_ hnull
      cases text v <;> simp [Except.map]
    | some s =>
      rw [Value.ofText?, ← text_eq_ok_iff]
      cases text v <;> simp [Except.map]

theorem textOrNull_eq_ok_iff : textOrNull v = .ok s ↔ v = .text s ∨ v = .null ∧ s = "" := by
  unfold textOrNull
  split
  · simp [eq_comm]
  · next hnull => rw [text_eq_ok_iff, or_iff_left fun h => hnull h.1]

/-! ## Fields -/

theorem required_eq_ok_iff : required es name check = .ok a ↔
    ∃ v, Entries.get? (.text name) es = some v ∧ check v = .ok a := by
  unfold required
  cases Entries.get? (.text name) es with
  | none => simp
  | some v => cases h : check v <;> simp [located, h]

theorem optional_eq_ok_iff : optional es name default check = .ok a ↔
    (Entries.get? (.text name) es = none ∧ a = default) ∨
      ∃ v, Entries.get? (.text name) es = some v ∧ check v = .ok a := by
  unfold optional
  cases Entries.get? (.text name) es with
  | none => simp [eq_comm]
  | some v => cases h : check v <;> simp [located, h]

/-! ## Numbers and flags -/

theorem sameInt_of_integerOfReal {x : Binary64} (h : integerOfReal x = .ok n) :
    x.sameInt n = true := by
  unfold integerOfReal at h
  split at h
  · nomatch h
  · split at h
    · nomatch h
    · next hintegral =>
      split at h
      · obtain rfl := Except.ok.inj h
        exact Binary64.sameInt_truncate (by simpa using hintegral)
      · nomatch h

/-- **An integer counts as what it was read from**, unless that was a text. -/
theorem integer_agrees_iff (h : integer v = .ok n) :
    v.agrees (.int n) = true ↔ ∀ s, v ≠ .text s := by
  unfold integer at h
  split at h
  · obtain rfl := Except.ok.inj h
    simp
  · obtain rfl := Except.ok.inj h
    next b => cases b <;> simp [Value.agrees, Scalar.agrees, Scalar.same, Scalar.integer?]
  · next x =>
    have hsame : (Value.real x).same (.int n) = true := sameInt_of_integerOfReal h
    simp [Value.agrees_of_same hsame]
  · next s => simp [Value.agrees, Scalar.agrees, Scalar.same, Scalar.integer?]
  · cases h

/-- **A flag is as true as what it was read from**, unless that was a word for false. -/
theorem flag_truthy_iff (h : flag v = .ok b) : v.truthy = b ↔ ∀ s, v = .text s → b = true := by
  have number {n : Int} (h : flag.ofInteger n = .ok b) : n = if b then 1 else 0 := by
    unfold flag.ofInteger at h
    split_ifs at h <;> simp_all
  unfold flag at h
  split at h
  · obtain rfl := Except.ok.inj h
    simp [Value.truthy]
  · next n =>
    split at h
    · rw [number h]
      cases b <;> simp [Value.truthy]
    · nomatch h
  · next x =>
    split at h
    · next n hn =>
      have hsame := sameInt_of_integerOfReal hn
      rw [number h] at hsame
      have htruthy : (Value.real x).truthy = b := Value.truthy_of_same_bool hsame
      simp [htruthy]
    · nomatch h
  · next s =>
    have hgiven : s.isEmpty = false := by
      by_contra hempty
      obtain rfl := String.isEmpty_iff.mp (eq_true_of_ne_false hempty)
      exact absurd h (by cases b <;> decide)
    simp [Value.truthy, hgiven, eq_comm]
  · nomatch h

end Record

end AdminConsole
