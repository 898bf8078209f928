import AdminConsole.Json.Reader
import AdminConsole.Proofs.Entries
import Mathlib.Data.List.Infix
import Mathlib.Data.Option.Basic

/-!
# Proofs/Json/Consumed — what a reader leaves

No reader leaves more characters than it was given (`shortens_readValue`).  A text that is read
took at least as many characters as it has, and its two quotes; so a text in an object is shorter
than the text that the object was read from (`length_lt_of_read`), and no JSON text holds itself.
-/

namespace AdminConsole.Json

variable {α : Type}

/-- A reader that ends well leaves no more characters than some it was given. -/
def Shortens (cs : List Char) (result : Step α) : Prop :=
  ∀ a rest, result = .ok (a, rest) → rest.length ≤ cs.length

theorem shortens_error (cs : List Char) (f : Failure) : Shortens cs (.error f : Step α) := nofun

theorem shortens_ok_iff {cs rest : List Char} {a : α} :
    Shortens cs (.ok (a, rest)) ↔ rest.length ≤ cs.length :=
  ⟨fun h => h a rest rfl, fun h _ _ he => by cases he; exact h⟩

theorem length_skipGap_le (cs : List Char) : (skipGap cs).length ≤ cs.length :=
  (List.dropWhile_suffix _).length_le

/-- A character after blanks is one less. -/
theorem length_lt_of_skipGap {cs after : List Char} {c : Char} (h : skipGap cs = c :: after) :
    after.length < cs.length := by
  have hle := length_skipGap_le cs
  rw [h, List.length_cons] at hle
  omega

/-! ## Numbers and words -/

theorem length_spanDigits (cs : List Char) :
    (spanDigits cs).1.length + (spanDigits cs).2.length = cs.length := by
  rw [spanDigits, List.span_eq_takeWhile_dropWhile, ← List.length_append,
    List.takeWhile_append_dropWhile]

theorem length_readFraction_le (cs : List Char) : (readFraction cs).2.length ≤ cs.length := by
  unfold readFraction
  split
  · next rest =>
    dsimp only
    have hdigits := length_spanDigits rest
    split
    · exact le_rfl
    · simp only [List.length_cons]
      omega
  · exact le_rfl

theorem length_readExponent_le (cs : List Char) : (readExponent cs).2.length ≤ cs.length := by
  unfold readExponent
  split
  · next mark rest =>
    -- the digits come after an optional sign
    have hdigits {n : Option Int} {body : List Char} (hbody : body.length ≤ rest.length) :
        (if (spanDigits body).1.isEmpty = true then (none, mark :: rest)
          else (n, (spanDigits body).2)).2.length ≤ (mark :: rest).length := by
      have hspan := length_spanDigits body
      split
      · exact le_rfl
      · simp only [List.length_cons]
        omega
    dsimp only
    split
    · split
      · exact hdigits (Nat.le_succ _)
      · exact hdigits (Nat.le_succ _)
      · exact hdigits le_rfl
    · exact le_rfl
  · exact le_rfl

theorem shortens_readMagnitude (negative : Bool) (start cs : List Char) :
    Shortens cs (readMagnitude negative start cs) := by
  have hspan := length_spanDigits cs
  have hleft {rest : List Char} (hrest : rest.length ≤ cs.length) :
      (readExponent (readFraction rest).2).2.length ≤ cs.length :=
    (length_readExponent_le _).trans ((length_readFraction_le _).trans hrest)
  unfold readMagnitude
  dsimp only
  split
  -- a leading zero stands alone
  · next more hzero =>
    rw [hzero, List.length_cons] at hspan
    have hrest : (more ++ (spanDigits cs).2).length ≤ cs.length := by
      rw [List.length_append]
      omega
    split_ifs
    · exact shortens_error _ _
    · exact shortens_error _ _
    all_goals exact shortens_ok_iff.mpr (hleft hrest)
  · have hrest : (spanDigits cs).2.length ≤ cs.length := by omega
    split_ifs
    · exact shortens_error _ _
    · exact shortens_error _ _
    all_goals exact shortens_ok_iff.mpr (hleft hrest)

theorem length_le_of_afterWord? {word : String} {cs after : List Char}
    (h : afterWord? word cs = some after) : after.length ≤ cs.length := by
  unfold afterWord? at h
  split at h
  · cases h
    exact (List.drop_suffix _ _).length_le
  · cases h

theorem shortens_readScalar (cs : List Char) : Shortens cs (readScalar cs) := by
  have hword {w : String} {s : Scalar} {found : Scalar × List Char}
      (h : (afterWord? w cs).map (s, ·) = some found) : found.2.length ≤ cs.length := by
    obtain ⟨after, hafter, rfl⟩ := Option.map_eq_some_iff.mp h
    exact length_le_of_afterWord? hafter
  unfold readScalar
  split
  · next rest =>
    split
    · next after hafter =>
      have hle := length_le_of_afterWord? hafter
      exact shortens_ok_iff.mpr (hle.trans (Nat.le_succ _))
    · intro s left h
      exact (shortens_readMagnitude _ _ rest s left h).trans (Nat.le_succ _)
  · dsimp only
    split
    · next found hfound =>
      simp only [Option.orElse_eq_some] at hfound
      obtain h | ⟨-, h | ⟨-, h | ⟨-, h | ⟨-, h⟩⟩⟩⟩ := hfound
      all_goals exact shortens_ok_iff.mpr (hword h)
    · exact shortens_readMagnitude _ _ cs

theorem readMagnitude_ne_text (negative : Bool) (start cs rest : List Char) (t : String) :
    readMagnitude negative start cs ≠ .ok (.text t, rest) := by
  unfold readMagnitude
  dsimp only
  split_ifs
  all_goals nofun

theorem readScalar_ne_text (cs rest : List Char) (t : String) :
    readScalar cs ≠ .ok (.text t, rest) := by
  unfold readScalar
  split
  · split
    · nofun
    · exact readMagnitude_ne_text _ _ _ _ _
  · dsimp only
    split
    · next found hfound =>
      rintro ⟨⟩
      simp at hfound
    · exact readMagnitude_ne_text _ _ _ _ _

/-! ## Texts -/

/-- A code escape takes its letter and four digits at least. -/
theorem length_lt_of_readCode {cs rest : List Char} {c : Char} (h : readCode cs = .ok (c, rest)) :
    rest.length < cs.length := by
  have hdrop := List.length_drop (i := 5) (l := cs)
  unfold readCode at h
  dsimp only at h
  split at h
  · cases h
  · next hafter =>
    have hpos : 0 < (cs.drop 5).length :=
      List.length_pos_iff.mpr fun hnil => hafter (by rw [hnil]; rfl)
    split at h
    · cases h
    · split at h
      · split at h
        · cases h
        · split at h
          · obtain ⟨-, rfl⟩ := Prod.mk.inj (Except.ok.inj h)
            rw [List.length_drop]
            omega
          · obtain ⟨-, rfl⟩ := Prod.mk.inj (Except.ok.inj h)
            omega
      · obtain ⟨-, rfl⟩ := Prod.mk.inj (Except.ok.inj h)
        omega

/-- **A text that is read** took its own length and a quote. -/
theorem length_of_readText (start : List Char) : ∀ (fuel : Nat) {acc cs : List Char} {s : String}
    {rest : List Char}, readText start fuel acc cs = .ok (s, rest) →
    s.length + rest.length < acc.length + cs.length := by
  intro fuel acc cs
  fun_induction readText start fuel acc cs with
  | case1 => nofun
  | case2 => nofun
  | case3 fuel acc after =>
      rintro s rest ⟨⟩
      rw [String.length_ofList, List.length_reverse, List.length_cons]
      omega
  | case4 => nofun
  | case5 fuel acc after c left hcode ih =>
      intro s rest h
      have hlt := length_lt_of_readCode hcode
      have hread := ih h
      simp only [List.length_cons] at hlt hread ⊢
      omega
  | case6 => nofun
  | case7 fuel acc c after _ d hd ih =>
      intro s rest h
      have hread := ih h
      simp only [List.length_cons] at hread ⊢
      omega
  | case8 => nofun
  | case9 => nofun
  | case10 fuel acc c after _ _ _ _ _ ih =>
      intro s rest h
      have hread := ih h
      simp only [List.length_cons] at hread ⊢
      omega

/-! ## Values -/

mutual

/-- **A value that is read** leaves no more than it was read from. -/
theorem shortens_readValue (room : Nat) : ∀ (fuel : Nat) (cs : List Char),
    Shortens cs (readValue room fuel cs)
  | 0, cs => shortens_error _ _
  | fuel + 1, cs => by
      unfold readValue
      split
      · next rest =>
        split
        · next s left h =>
          have hread := length_of_readText _ _ h
          simp only [List.length_nil] at hread
          exact shortens_ok_iff.mpr (by rw [List.length_cons]; omega)
        · exact shortens_error _ _
      · next rest =>
        split
        · exact shortens_error _ _
        · split
          · next after h =>
            have hlt := length_lt_of_skipGap h
            exact shortens_ok_iff.mpr (by rw [List.length_cons]; omega)
          · split
            · next items after h =>
              have hle := shortens_readItems _ _ _ _ _ h
              have hgap := length_skipGap_le rest
              exact shortens_ok_iff.mpr (by rw [List.length_cons]; omega)
            · exact shortens_error _ _
      · next rest =>
        split
        · exact shortens_error _ _
        · split
          · next after h =>
            have hlt := length_lt_of_skipGap h
            exact shortens_ok_iff.mpr (by rw [List.length_cons]; omega)
          · split
            · next items after h =>
              have hle := shortens_readMembers _ _ _ _ _ _ h
              have hgap := length_skipGap_le rest
              exact shortens_ok_iff.mpr (by rw [List.length_cons]; omega)
            · exact shortens_error _ _
      · split
        · next s left h => exact shortens_ok_iff.mpr (shortens_readScalar cs s left h)
        · exact shortens_error _ _

theorem shortens_readItems (room : Nat) : ∀ (fuel : Nat) (cs : List Char),
    Shortens cs (readItems room fuel cs)
  | 0, cs => shortens_error _ _
  | fuel + 1, cs => by
      unfold readItems
      split
      · exact shortens_error _ _
      · next item rest h =>
        have hitem := shortens_readValue _ _ _ _ _ h
        split
        · next after hgap =>
          have hlt := length_lt_of_skipGap hgap
          exact shortens_ok_iff.mpr (by omega)
        · next after hgap =>
          have hlt := length_lt_of_skipGap hgap
          split
          · next items left hitems =>
            have hle := shortens_readItems _ _ _ _ _ hitems
            have hafter := length_skipGap_le after
            exact shortens_ok_iff.mpr (by omega)
          · exact shortens_error _ _
        · exact shortens_error _ _

theorem shortens_readMembers (room : Nat) : ∀ (fuel : Nat) (members : List (Scalar × Value))
    (cs : List Char), Shortens cs (readMembers room fuel members cs)
  | 0, _, cs => shortens_error _ _
  | fuel + 1, members, cs => by
      unfold readMembers
      split
      · next rest =>
        split
        · exact shortens_error _ _
        · next name left hname =>
          have hread := length_of_readText _ _ hname
          simp only [List.length_nil] at hread
          split
          · next after hcolon =>
            have hcolon := length_lt_of_skipGap hcolon
            have hafter := length_skipGap_le after
            split
            · exact shortens_error _ _
            · next value left' hvalue =>
              have hvalue := shortens_readValue _ _ _ _ _ hvalue
              dsimp only
              split
              · next last hend =>
                have hend := length_lt_of_skipGap hend
                exact shortens_ok_iff.mpr (by rw [List.length_cons]; omega)
              · next last hcomma =>
                have hcomma := length_lt_of_skipGap hcomma
                have hlast := length_skipGap_le last
                intro es out h
                have hle := shortens_readMembers _ _ _ _ _ _ h
                rw [List.length_cons]
                omega
              · exact shortens_error _ _
          · exact shortens_error _ _
      · exact shortens_error _ _

end

/-- A text takes more characters than it has. -/
theorem length_lt_of_readValue {room fuel : Nat} {cs rest : List Char} {t : String}
    (h : readValue room fuel cs = .ok (.text t, rest)) : t.length < cs.length := by
  cases fuel with
  | zero => cases h
  | succ fuel =>
      unfold readValue at h
      split at h
      · split at h
        · next s left hread =>
          have hlt := length_of_readText _ _ hread
          cases h
          simp only [List.length_nil, List.length_cons] at hlt ⊢
          omega
        · cases h
      · split at h
        · cases h
        · split at h
          · cases h
          · split at h <;> cases h
      · split at h
        · cases h
        · split at h
          · cases h
          · split at h <;> cases h
      · split at h
        · next s left hscalar =>
          cases h
          exact absurd hscalar (readScalar_ne_text _ _ _)
        · cases h

/-- The texts among the values of some members are shorter than `n`. -/
def TextsBelow (n : Nat) (es : List (Scalar × Value)) : Prop :=
  ∀ name t, (name, .text t) ∈ es → t.length < n

theorem TextsBelow.put {n : Nat} {es : List (Scalar × Value)} (h : TextsBelow n es) (k : Scalar)
    {v : Value} (hv : ∀ t, v = .text t → t.length < n) : TextsBelow n (Entries.put k v es) := by
  intro name t hmem
  rcases Entries.mem_put hmem with heq | hold
  · exact hv t (Prod.mk.inj heq).2.symm
  · exact h name t hold

/-- **The texts in an object** are shorter than what it is read from. -/
theorem textsBelow_readMembers {n room : Nat} : ∀ (fuel : Nat) {members es : List (Scalar × Value)}
    {cs rest : List Char}, readMembers room fuel members cs = .ok (es, rest) → cs.length ≤ n →
    TextsBelow n members → TextsBelow n es
  | 0, _, _, _, _, h => by cases h
  | fuel + 1, members, es, cs, rest, h => by
      intro hn hmembers
      unfold readMembers at h
      split at h
      · next inside =>
        split at h
        · cases h
        · next name left hname =>
          have hread := length_of_readText _ _ hname
          simp only [List.length_nil, List.length_cons] at hread hn
          split at h
          · next after hcolon =>
            have hcolon := length_lt_of_skipGap hcolon
            have hafter := length_skipGap_le after
            split at h
            · cases h
            · next value left' hvalue =>
              have hleft := shortens_readValue _ _ _ _ _ hvalue
              have hput : TextsBelow n (Entries.put (.text name) value members) :=
                hmembers.put _ fun t ht => by
                  have hlt := length_lt_of_readValue (ht ▸ hvalue)
                  omega
              dsimp only at h
              split at h
              · cases h
                exact hput
              · next last hcomma =>
                have hcomma := length_lt_of_skipGap hcomma
                have hlast := length_skipGap_le last
                exact textsBelow_readMembers fuel h (by omega) hput
              · cases h
          · cases h
      · cases h

theorem textsBelow_readValue {room fuel : Nat} {cs rest : List Char}
    {es : List (Scalar × Value)} (h : readValue room fuel cs = .ok (.map es, rest)) :
    TextsBelow cs.length es := by
  cases fuel with
  | zero => cases h
  | succ fuel =>
      unfold readValue at h
      split at h
      · split at h <;> cases h
      · split at h
        · cases h
        · split at h
          · cases h
          · split at h <;> cases h
      · next inside =>
        split at h
        · cases h
        · split at h
          · cases h
            nofun
          · split at h
            · next members after hmembers =>
              cases h
              have hgap := length_skipGap_le inside
              exact textsBelow_readMembers fuel hmembers (hgap.trans (Nat.le_succ _)) nofun
            · cases h
      · split at h <;> cases h

/-- **A text in an object** is shorter than the text that the object was read from. -/
theorem length_lt_of_read {s t : String} {es : List (Scalar × Value)} {name : Scalar}
    (h : read s = .ok (.map es)) (ht : (name, .text t) ∈ es) : t.length < s.length := by
  unfold read readAll at h
  split at h
  · cases h
  · split at h
    · cases h
    · next v rest hvalue =>
      split at h
      · cases h
        have hlt := textsBelow_readValue hvalue name t ht
        have hgap := length_skipGap_le s.toList
        rw [String.length_toList] at hgap
        omega
      · cases h

end AdminConsole.Json
