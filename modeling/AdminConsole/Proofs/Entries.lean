import AdminConsole.Entries
import Mathlib.Data.List.Nodup

/-!
# Proofs/Entries — keys and look-ups of ordered mappings

A write or a removal changes the look-up at its own key and nowhere else (`get?_put`,
`get?_erase`).  Keys are never doubled: `put` and `erase` keep them distinct, `ofPairs` makes them
so, and over distinct keys every entry is what a look-up finds (`get?_of_mem`).  Such a mapping is
made of what stands before a key, its entry, and what stands after it (`exists_split`).
-/

namespace AdminConsole.Entries

variable {κ α : Type}

@[simp] theorem keys_nil : keys ([] : List (κ × α)) = [] := rfl

@[simp] theorem keys_cons (e : κ × α) (es : List (κ × α)) : keys (e :: es) = e.1 :: keys es := rfl

theorem nodup_keys_nil : (keys ([] : List (κ × α))).Nodup := List.nodup_nil

theorem mem_keys_of_mem {k : κ} {v : α} {es : List (κ × α)} (h : (k, v) ∈ es) : k ∈ keys es :=
  List.mem_map_of_mem h

variable [DecidableEq κ]

/-! ## Looking up after a change -/

theorem get?_put (k l : κ) (v : α) (es : List (κ × α)) :
    get? l (put k v es) = if l = k then some v else get? l es := by
  by_cases h : l = k
  · rw [if_pos h, h, get?_put_self]
  · rw [if_neg h, get?_put_of_ne h]

theorem get?_erase (k l : κ) (es : List (κ × α)) :
    get? l (erase k es) = if l = k then none else get? l es := by
  by_cases h : l = k
  · rw [if_pos h, h, get?_erase_self]
  · rw [if_neg h, get?_erase_of_ne h]

/-! ## Keys and entries -/

/-- **A key is what a look-up finds.** -/
theorem mem_keys_iff {k : κ} : ∀ {es : List (κ × α)}, k ∈ keys es ↔ ∃ v, get? k es = some v
  | [] => by simp
  | (l, w) :: rest => by
      have ih : k ∈ keys rest ↔ ∃ v, get? k rest = some v := mem_keys_iff
      rw [keys_cons, List.mem_cons, get?_cons, ih]
      by_cases h : l = k
      · simp [h]
      · simp [h, Ne.symm h]

theorem not_mem_keys_iff {k : κ} {es : List (κ × α)} : k ∉ keys es ↔ get? k es = none := by
  rw [mem_keys_iff, Option.eq_none_iff_forall_ne_some, not_exists]

/-- A mapping in which nothing is found is empty. -/
theorem eq_nil_of_get? : ∀ {es : List (κ × α)}, (∀ k, get? k es = none) → es = []
  | [], _ => rfl
  | (l, w) :: rest, h => by
      have hl := h l
      rw [get?_cons, if_pos rfl] at hl
      nomatch hl

theorem has_iff_mem_keys {k : κ} {es : List (κ × α)} : has k es = true ↔ k ∈ keys es := by
  rw [has, Option.isSome_iff_exists, mem_keys_iff]

theorem mem_of_get? {k : κ} {v : α} : ∀ {es : List (κ × α)}, get? k es = some v → (k, v) ∈ es
  | [], h => by simp at h
  | (l, w) :: rest, h => by
      rw [get?_cons] at h
      by_cases hl : l = k
      · rw [if_pos hl] at h
        rw [← hl, Option.some.inj h]
        exact List.mem_cons_self
      · rw [if_neg hl] at h
        exact List.mem_cons_of_mem _ (mem_of_get? h)

/-- **Over distinct keys an entry is what a look-up finds.** -/
theorem get?_of_mem {k : κ} {v : α} :
    ∀ {es : List (κ × α)}, (keys es).Nodup → (k, v) ∈ es → get? k es = some v
  | [], _, h => by simp at h
  | (l, w) :: rest, hn, h => by
      obtain ⟨hl, hn⟩ := List.nodup_cons.mp hn
      rw [get?_cons]
      rcases List.mem_cons.mp h with h | h
      · obtain ⟨rfl, rfl⟩ := Prod.mk.inj h
        rw [if_pos rfl]
      · have hne : l ≠ k := fun e => hl (e ▸ mem_keys_of_mem h)
        rw [if_neg hne, get?_of_mem hn h]

/-! ## Keys after a change -/

/-- Writing to a key that is there keeps the keys. -/
theorem keys_put_of_mem {k : κ} (v : α) : ∀ {es : List (κ × α)}, k ∈ keys es →
    keys (put k v es) = keys es
  | [], h => by simp at h
  | (l, w) :: rest, h => by
      by_cases hl : l = k
      · simp [put, hl]
      · have hr : k ∈ keys rest := (List.mem_cons.mp h).resolve_left (Ne.symm hl)
        simp [put, hl, keys_put_of_mem v hr]

theorem mem_keys_put {k l : κ} {v : α} {es : List (κ × α)} :
    l ∈ keys (put k v es) ↔ l = k ∨ l ∈ keys es := by
  rw [mem_keys_iff, mem_keys_iff, get?_put]
  by_cases h : l = k
  · simp [h]
  · simp [h]

theorem nodup_keys_put (k : κ) (v : α) : ∀ {es : List (κ × α)}, (keys es).Nodup →
    (keys (put k v es)).Nodup
  | [], _ => List.nodup_singleton k
  | (l, w) :: rest, hn => by
      obtain ⟨hl, hr⟩ := List.nodup_cons.mp hn
      by_cases h : l = k
      · subst h
        simpa [put] using hn
      · have hl' : l ∉ keys (put k v rest) := fun hm => (mem_keys_put.mp hm).elim h hl
        simpa [put, h] using ⟨hl', nodup_keys_put k v hr⟩

theorem nodup_keys_erase (k : κ) {es : List (κ × α)} (h : (keys es).Nodup) :
    (keys (erase k es)).Nodup :=
  h.sublist ((List.filter_sublist (l := es)).map Prod.fst)

/-! ## Mappings made from pairs -/

/-- An entry after a write was written or was there. -/
theorem mem_put {k : κ} {v : α} {e : κ × α} : ∀ {es : List (κ × α)}, e ∈ put k v es →
    e = (k, v) ∨ e ∈ es
  | [], h => .inl (List.mem_singleton.mp h)
  | (l, w) :: rest, h => by
      by_cases hl : l = k
      · rw [put, if_pos hl] at h
        exact (List.mem_cons.mp h).imp_right (List.mem_cons_of_mem _)
      · rw [put, if_neg hl] at h
        rcases List.mem_cons.mp h with rfl | h
        · exact .inr List.mem_cons_self
        · exact (mem_put h).imp_right (List.mem_cons_of_mem _)

/-- Writing pairs one after the other keeps the keys distinct and adds only those pairs. -/
theorem foldl_put (ps : List (κ × α)) : ∀ {es : List (κ × α)}, (keys es).Nodup →
    (keys (ps.foldl (fun es (k, v) => put k v es) es)).Nodup ∧
      ∀ e ∈ ps.foldl (fun es (k, v) => put k v es) es, e ∈ ps ∨ e ∈ es := by
  induction ps with
  | nil => exact fun hn => ⟨hn, fun e he => .inr he⟩
  | cons p ps ih =>
      intro es hn
      obtain ⟨hd, hm⟩ := ih (nodup_keys_put p.1 p.2 hn)
      refine ⟨hd, fun e he => ?_⟩
      rcases hm e he with he | he
      · exact .inl (List.mem_cons_of_mem _ he)
      · rcases mem_put he with rfl | he
        · exact .inl List.mem_cons_self
        · exact .inr he

theorem nodup_keys_ofPairs (ps : List (κ × α)) : (keys (ofPairs ps)).Nodup :=
  (foldl_put ps nodup_keys_nil).1

theorem mem_of_mem_ofPairs {e : κ × α} {ps : List (κ × α)} (h : e ∈ ofPairs ps) : e ∈ ps :=
  ((foldl_put ps nodup_keys_nil).2 e h).resolve_right List.not_mem_nil

/-- A new key is written at the end. -/
theorem put_of_not_mem {k : κ} (v : α) : ∀ {es : List (κ × α)}, k ∉ keys es →
    put k v es = es ++ [(k, v)]
  | [], _ => rfl
  | (l, w) :: rest, h => by
      obtain ⟨hl, hr⟩ := not_or.mp (mt List.mem_cons.mpr h)
      rw [put, if_neg (Ne.symm hl), put_of_not_mem v hr, List.cons_append]

/-- Pairs with keys of their own are written behind what is there. -/
theorem foldl_put_of_nodup : ∀ {ps es : List (κ × α)}, (keys (es ++ ps)).Nodup →
    ps.foldl (fun es (k, v) => put k v es) es = es ++ ps
  | [], es, _ => (List.append_nil es).symm
  | (k, v) :: ps, es, hn => by
      have hfresh : k ∉ keys es := fun hm => by
        rw [keys, List.map_append] at hn
        exact List.disjoint_of_nodup_append hn hm List.mem_cons_self
      have hn' : (keys ((es ++ [(k, v)]) ++ ps)).Nodup := by
        rwa [List.append_assoc, List.singleton_append]
      change ps.foldl _ (put k v es) = _
      rw [put_of_not_mem v hfresh, foldl_put_of_nodup hn', List.append_assoc,
        List.singleton_append]

/-- **Pairs with distinct keys are a mapping as they stand.** -/
theorem ofPairs_of_nodup {ps : List (κ × α)} (h : (keys ps).Nodup) : ofPairs ps = ps :=
  foldl_put_of_nodup h

/-! ## A mapping around one of its keys -/

/-- **What stands before a key and after it** does not have the key again. -/
theorem exists_split {k : κ} {v : α} {es : List (κ × α)} (distinct : (keys es).Nodup)
    (h : get? k es = some v) : ∃ before after,
      es = before ++ (k, v) :: after ∧ k ∉ keys before ∧ k ∉ keys after := by
  obtain ⟨before, after, rfl⟩ := List.append_of_mem (mem_of_get? h)
  rw [keys, List.map_append, List.map_cons] at distinct
  have hafter := (List.nodup_cons.mp (List.nodup_append.mp distinct).2.1).1
  have hbefore : k ∉ keys before := fun hm =>
    List.disjoint_of_nodup_append distinct hm List.mem_cons_self
  exact ⟨before, after, rfl, hbefore, hafter⟩

theorem get?_split {k : κ} {v : α} {before after : List (κ × α)} (h : k ∉ keys before) :
    get? k (before ++ (k, v) :: after) = some v := by
  induction before with
  | nil => exact if_pos rfl
  | cons e rest ih =>
      obtain ⟨he, hrest⟩ := not_or.mp (mt List.mem_cons.mpr h)
      rw [List.cons_append, get?_cons, if_neg (Ne.symm he), ih hrest]

theorem erase_of_not_mem {k : κ} {es : List (κ × α)} (h : k ∉ keys es) : erase k es = es := by
  refine List.filter_eq_self.mpr fun e he => decide_eq_true fun hk => h ?_
  exact hk ▸ List.mem_map_of_mem he

theorem erase_split {k : κ} {v : α} {before after : List (κ × α)} (hbefore : k ∉ keys before)
    (hafter : k ∉ keys after) : erase k (before ++ (k, v) :: after) = before ++ after := by
  rw [erase, List.filter_append, List.filter_cons_of_neg (by simp), ← erase, ← erase,
    erase_of_not_mem hbefore, erase_of_not_mem hafter]

end AdminConsole.Entries
