import AdminConsole.Proofs.Value.Key
import AdminConsole.Settings.Merge

/-!
# Proofs/Settings/Precedence — which document a merged value comes from

At every path to which the upper document leads, the merged document holds the upper value laid
over the lower one (`at?_overlay`).  A value that is no mapping covers what lies under it; below
two mappings each key is found where one of them has it, with the keys of the lower one first
(`lookupSame_overlayEntries`, `keys_overlayEntries`).  So laying the same document over the result
again changes nothing (`overlay_overlay`).
-/

namespace AdminConsole.Settings

open Value

/-! ## Entries laid over entries -/

theorem overlay_none (v : Value) : overlay none v = v := by
  cases v <;> rfl

/-- **What is found after laying over**: the upper value over the lower one, else the lower one. -/
theorem lookupSame_overlayEntries (k : Scalar) : ∀ {upper lower : List (Scalar × Value)},
    DistinctKeys upper → lookupSame k (overlayEntries lower upper) =
      match lookupSame k upper with
      | some v => some (overlay (lookupSame k lower) v)
      | none => lookupSame k lower
  | [], _, _ => rfl
  | (l, v) :: rest, lower, h => by
      obtain ⟨fresh, hrest⟩ := distinctKeys_cons.mp h
      rw [overlayEntries, lookupSame_overlayEntries k hrest, lookupSame_putSame, lookupSame_cons]
      by_cases hl : l.agrees k = true
      · rw [← lookupSame_congr hl, fresh, if_pos hl, if_pos hl, lookupSame_congr hl]
      · rw [if_neg hl, if_neg hl]

/-- **The keys after laying over**: the lower ones in their order, then the new ones in theirs. -/
theorem keys_overlayEntries : ∀ {upper lower : List (Scalar × Value)}, DistinctKeys upper →
    Entries.keys (overlayEntries lower upper) = Entries.keys lower ++
      (Entries.keys upper).filter fun k => (lookupSame k lower).isNone
  | [], lower, _ => (List.append_nil _).symm
  | (k, v) :: rest, lower, h => by
      obtain ⟨fresh, hrest⟩ := distinctKeys_cons.mp h
      have others : ∀ l ∈ Entries.keys rest, k.agrees l = false := fun l hl => by
        rw [Scalar.agrees_comm]
        exact lookupSame_eq_none_iff.mp fresh l hl
      have same : (Entries.keys rest).filter
          (fun l => (lookupSame l (putSame k (overlay (lookupSame k lower) v) lower)).isNone) =
            (Entries.keys rest).filter fun l => (lookupSame l lower).isNone :=
        List.filter_congr fun l hl => by
          rw [lookupSame_putSame, others l hl, if_neg Bool.false_ne_true]
      rw [overlayEntries, keys_overlayEntries hrest, same, keys_putSame, Entries.keys_cons,
        List.filter_cons]
      cases hk : lookupSame k lower <;> simp

/-- Entries that show already what is laid over them stay as they are. -/
theorem overlayEntries_of_shown : ∀ {upper lower : List (Scalar × Value)},
    (∀ e ∈ upper, ∃ w, lookupSame e.1 lower = some w ∧ overlay (some w) e.2 = w) →
      overlayEntries lower upper = lower
  | [], _, _ => rfl
  | (k, v) :: rest, lower, h => by
      obtain ⟨⟨w, hw, shown⟩, hrest⟩ := List.forall_mem_cons.mp h
      rw [overlayEntries, hw, shown, putSame_of_lookupSame hw, overlayEntries_of_shown hrest]

/-- Entries laid over none but new keys follow what is there. -/
theorem overlayEntries_of_fresh : ∀ {upper lower : List (Scalar × Value)}, DistinctKeys upper →
    (∀ k ∈ Entries.keys upper, lookupSame k lower = none) →
      overlayEntries lower upper = lower ++ upper
  | [], lower, _, _ => (List.append_nil lower).symm
  | (k, v) :: rest, lower, h, fresh => by
      obtain ⟨hk, hrest⟩ := distinctKeys_cons.mp h
      obtain ⟨hnone, hfresh⟩ := List.forall_mem_cons.mp fresh
      have still : ∀ l ∈ Entries.keys rest, lookupSame l (putSame k v lower) = none := by
        intro l hl
        have hkl : k.agrees l = false := by
          rw [Scalar.agrees_comm]
          exact lookupSame_eq_none_iff.mp hk l hl
        rw [lookupSame_putSame, hkl, if_neg Bool.false_ne_true]
        exact hfresh l hl
      rw [overlayEntries, hnone, overlay_none, overlayEntries_of_fresh hrest still,
        putSame_of_lookupSame_eq_none v hnone, List.append_assoc, List.singleton_append]

/-! ## Values laid over values -/

theorem overlay_of_not_isMap {v : Value} (h : v.isMap = false) (lower : Option Value) :
    overlay lower v = v := by
  cases v with
  | map es => nomatch h
  | _ => rfl

/-- The entries over which a mapping is laid: none where there is no mapping. -/
def beneath (lower : Option Value) : List (Scalar × Value) := (lower.bind entries?).getD []

theorem bind_at?_cons (lower : Option Value) (k : Scalar) (path : List Scalar) :
    lower.bind (at? (k :: path)) = (lookupSame k (beneath lower)).bind (at? path) := by
  rcases lower with _ | ⟨_ | _ | _ | _ | _⟩ <;> rfl

/-- **A mapping is laid over a value entry by entry.** -/
theorem overlay_map {us : List (Scalar × Value)} (distinct : DistinctKeys us)
    (lower : Option Value) :
    overlay lower (.map us) = .map (overlayEntries (beneath lower) us) := by
  have stands : overlayEntries [] us = us := overlayEntries_of_fresh distinct fun _ _ => rfl
  rcases lower with _ | ⟨_ | _ | _ | _ | _⟩
  case some.map => rfl
  all_goals exact congrArg Value.map stands.symm

/-- **Where the upper document leads**, the merged one holds its value laid over the lower one. -/
theorem at?_overlay {path : List Scalar} : ∀ {upper v : Value} (lower : Option Value),
    Proper upper → upper.at? path = some v →
      (overlay lower upper).at? path = some (overlay (lower.bind (at? path)) v) := by
  induction path with
  | nil =>
      intro upper v lower _ h
      obtain rfl := Option.some.inj h
      cases lower <;> rfl
  | cons k path ih =>
      intro upper v lower proper h
      cases upper with
      | map us =>
          rw [at?_cons_map, Option.bind_eq_some_iff] at h
          obtain ⟨w, hw, hpath⟩ := h
          obtain ⟨l, hmem⟩ := exists_mem_of_lookupSame hw
          have found : lookupSame k (overlayEntries (beneath lower) us) = _ :=
            lookupSame_overlayEntries k proper.distinctKeys
          rw [hw] at found
          rw [overlay_map proper.distinctKeys, at?_cons_map, found, bind_at?_cons]
          exact ih _ (proper.of_mem hmem) hpath
      | _ => nomatch h

/-- **Laying a document over the result again changes nothing.** -/
theorem overlay_overlay (lower : Option Value) : ∀ {v : Value}, Proper v →
    overlay (some (overlay lower v)) v = overlay lower v
  | .map us, h => by
      rw [overlay_map h.distinctKeys lower, overlay]
      refine congrArg Value.map (overlayEntries_of_shown fun e he => ?_)
      rw [lookupSame_overlayEntries e.1 h.distinctKeys, h.distinctKeys.lookupSame_of_mem he]
      exact ⟨_, rfl, overlay_overlay _ (h.of_mem he)⟩
  | .scalar _, _ => rfl
  | .list _, _ => rfl
  | .set _, _ => rfl
  | .enclosing _, _ => rfl
termination_by v => sizeOf v
decreasing_by
  obtain ⟨k, w⟩ := e
  have smaller := List.sizeOf_lt_of_mem he
  simp only [Prod.mk.sizeOf_spec, map.sizeOf_spec] at smaller ⊢
  omega

/-! ## Merged documents -/

/-- **The upper document takes precedence, path by path.**  Lay a proper mapping over any mapping.

* Where the upper document leads to a value that is no mapping, the merged one holds that value.
* Where both lead to a mapping and the upper one lacks a key, the merged document holds at the key,
  and anywhere below it, what the lower one holds there, or nothing.
* Where both lead to a mapping, so does the merged document; the lower keys come first in their
  order, then the new ones of the upper document in theirs.
* Laying the same document over the result again changes nothing. -/
theorem merge_precedence {base update : List (Scalar × Value)} (proper : Proper (.map update)) :
    ∃ merged, merge (.map base) (.map update) = .ok merged ∧
      (∀ path v, (map update).at? path = some v → v.isMap = false →
        merged.at? path = some v) ∧
      (∀ path key rest bs us, (map base).at? path = some (.map bs) →
        (map update).at? path = some (.map us) → lookupSame key us = none →
          merged.at? (path ++ key :: rest) = (map base).at? (path ++ key :: rest)) ∧
      (∀ path bs us, (map base).at? path = some (.map bs) →
        (map update).at? path = some (.map us) →
          ∃ ms, merged.at? path = some (.map ms) ∧ Entries.keys ms =
            Entries.keys bs ++ (Entries.keys us).filter fun k => (lookupSame k bs).isNone) ∧
      merge merged (.map update) = .ok merged := by
  have merged_at {path v} (h : (map update).at? path = some v) :
      (map (overlayEntries base update)).at? path = some (overlay ((map base).at? path) v) :=
    at?_overlay (some (.map base)) proper h
  refine ⟨_, rfl, fun path v h hv => ?_, fun path key rest bs us hbase hupdate hkey => ?_,
    fun path bs us hbase hupdate => ?_, ?_⟩
  · rw [merged_at h, overlay_of_not_isMap hv]
  · have distinct := (proper.of_at? hupdate).distinctKeys
    rw [at?_append, merged_at hupdate, at?_append, hbase, overlay, Option.bind_some,
      Option.bind_some, at?_cons_map, at?_cons_map, lookupSame_overlayEntries key distinct, hkey]
  · refine ⟨overlayEntries bs us, ?_, keys_overlayEntries (proper.of_at? hupdate).distinctKeys⟩
    rw [merged_at hupdate, hbase, overlay]
  · exact congrArg Except.ok (overlay_overlay (some (.map base)) proper)

/-- Settings with a section that is no mapping, and one under a number. -/
def builtIn : List (Scalar × Value) :=
  [(.text "ui", .int 1), (.int 1, .object [("debug", .bool false), ("name", .text "Console")])]

/-- A file that has a mapping in the place of the first section, and writes the number of the
second one as a truth value. -/
def rearranged : List (Scalar × Value) :=
  [(.text "api", .null), (.bool true, .object [("level", .int 2), ("debug", .bool true)]),
    (.text "ui", .object [("delay", .int 5)])]

theorem merge_precedence_rearranged : Proper (.map rearranged) ∧
    ∃ merged, merge (.map builtIn) (.map rearranged) = .ok merged ∧
      merged.at? [.int 1, .text "debug"] = some (.bool true) ∧
      merged.at? [.int 1, .text "name"] = some (.text "Console") ∧
      (∃ ms, merged.at? [.int 1] = some (.map ms) ∧
        Entries.keys ms = [.text "debug", .text "name", .text "level"]) ∧
      merge merged (.map rearranged) = .ok merged := by
  have flat {es : List (Scalar × Value)} (distinct : DistinctKeys es)
      (plain : ∀ e ∈ es, e.2.isMap = false) : Proper (.map es) :=
    proper_map distinct fun e he => proper_of_not_isMap (plain e he)
  have proper : Proper (.map rearranged) := by
    refine proper_map (by decide) ?_
    simp only [rearranged, List.forall_mem_cons]
    exact ⟨proper_of_not_isMap rfl, flat (by decide) (by decide), flat (by decide) (by decide),
      nofun⟩
  obtain ⟨merged, hmerge, leaves, kept, keys, again⟩ := @merge_precedence builtIn _ proper
  exact ⟨proper, merged, hmerge, leaves _ _ rfl rfl,
    kept [.int 1] (.text "name") [] _ _ rfl rfl rfl, keys [.int 1] _ _ rfl rfl, again⟩

end AdminConsole.Settings
