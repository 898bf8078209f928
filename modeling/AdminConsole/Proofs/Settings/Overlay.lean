import AdminConsole.Proofs.Value.Key
import AdminConsole.Settings.File

/-!
# Proofs/Settings/Overlay — what a settings file leaves of the built-in settings

Under a text key, laying one mapping over another puts the upper value over the lower one, or
leaves the lower one (`get?_overlayEntries`).  The mappings of a document have each text key once
(`nodup_textKeys_read`), so a section that is a mapping after all has every key that the built-in
section has: settings from a file are `Complete` (`complete_ofFile`).
-/

namespace AdminConsole

namespace Value

/-! ## Text keys -/

theorem text_agrees_iff {s : String} {k : Scalar} :
    (Scalar.text s).agrees k = true ↔ k = .text s := by
  cases k with
  | text t => simpa [Scalar.agrees, Scalar.same, Scalar.integer?] using eq_comm
  | _ => simp [Scalar.agrees, Scalar.same, Scalar.integer?]

/-- The text keys of a mapping, in order. -/
def textKeys : List (Scalar × Value) → List String
  | [] => []
  | (.text s, _) :: rest => s :: textKeys rest
  | _ :: rest => textKeys rest

theorem not_mem_textKeys_iff {s : String} {es : List (Scalar × Value)} :
    s ∉ textKeys es ↔ Entries.get? (.text s) es = none := by
  induction es with
  | nil => simp [textKeys]
  | cons e rest ih =>
      obtain ⟨l, w⟩ := e
      cases l with
      | text t =>
          rw [textKeys, List.mem_cons, not_or, ih, Entries.get?_cons]
          by_cases h : s = t
          · simp [h]
          · simp [h, Ne.symm h]
      | _ => exact ih

theorem nodup_textKeys_tail {e : Scalar × Value} {es : List (Scalar × Value)}
    (h : (textKeys (e :: es)).Nodup) : (textKeys es).Nodup := by
  obtain ⟨k, v⟩ := e
  cases k with
  | text s => exact (List.nodup_cons.mp h).2
  | _ => exact h

/-- **Binding a key** changes what is found under that text and nothing else. -/
theorem get?_putSame (s : String) (k : Scalar) (v : Value) (es : List (Scalar × Value)) :
    Entries.get? (.text s) (putSame k v es) =
      if k = .text s then some v else Entries.get? (.text s) es := by
  simp only [← lookupSame_text, lookupSame_putSame, agrees_text_iff]

theorem nodup_textKeys_putSame (k : Scalar) (v : Value) : ∀ {es : List (Scalar × Value)},
    (textKeys es).Nodup → (textKeys (putSame k v es)).Nodup
  | [], _ => by cases k <;> simp [putSame, textKeys]
  | (l, w) :: rest, h => by
      rw [putSame]
      by_cases hlk : l.agrees k = true
      · rw [if_pos hlk]
        cases l <;> exact h
      · rw [if_neg hlk]
        have hrest := nodup_textKeys_putSame k v (nodup_textKeys_tail h)
        cases l with
        | text s =>
            refine List.nodup_cons.mpr ⟨not_mem_textKeys_iff.mpr ?_, hrest⟩
            rw [get?_putSame, if_neg (mt text_agrees_iff.mpr hlk)]
            exact not_mem_textKeys_iff.mp (List.nodup_cons.mp h).1
        | _ => exact hrest

end Value

/-! ## The mappings of a document -/

namespace Yaml

theorem nodup_textKeys_entries (pairs : List (Scalar × Value)) :
    (Value.textKeys (Node.entries pairs)).Nodup := by
  suffices ∀ es, (Value.textKeys es).Nodup →
      (Value.textKeys (pairs.foldl (fun es p => Value.putSame p.1 p.2 es) es)).Nodup from
    this [] List.nodup_nil
  induction pairs with
  | nil => exact fun _ h => h
  | cons p rest ih => exact fun _ h => ih _ (Value.nodup_textKeys_putSame p.1 p.2 h)

theorem exists_of_map_eq_ok {α β : Type} {made : Made α} {f : α → β} {b : β}
    (h : made.map f = .ok b) : ∃ a, f a = b := by
  cases made with
  | error e => cases h
  | ok a => exact ⟨a, Except.ok.inj h⟩

theorem makeTagged_ne_map {depth : Nat} {tag text : String} {number : Nat}
    {es : List (Scalar × Value)} : ¬ Node.makeTagged depth tag text number = .ok (.map es) := by
  rw [Node.makeTagged]
  split
  · rename_i made _
    cases made <;> nofun
  · nofun

/-- A mapping is made from pairs. -/
theorem exists_entries_of_make {depth : Nat} {around : Node.Around} {node : Node}
    {es : List (Scalar × Value)} (h : node.make depth around = .ok (.map es)) :
    ∃ pairs, es = Node.entries pairs := by
  cases node with
  | scalar tag text number =>
      rw [Node.make] at h
      split at h
      · cases h
      · exact absurd h makeTagged_ne_map
  | sequence tag items =>
      rw [Node.make] at h
      split_ifs at h
      · obtain ⟨_, hlist⟩ := exists_of_map_eq_ok h
        cases hlist
      · obtain ⟨_, hlist⟩ := exists_of_map_eq_ok h
        cases hlist
      · cases h
      · cases h
  | mapping tag pairs =>
      rw [Node.make] at h
      split_ifs at h
      · obtain ⟨made, hmap⟩ := exists_of_map_eq_ok h
        exact ⟨made, (Value.map.inj hmap).symm⟩
      · obtain ⟨_, hset⟩ := exists_of_map_eq_ok h
        cases hset
      · cases h
      · split at h
        · exact absurd h makeTagged_ne_map
        · cases h
  | enclosing isMapping up =>
      cases isMapping with
      | false =>
          rw [Node.make] at h
          cases h
      | true =>
          rw [Node.make] at h
          split_ifs at h
          · obtain ⟨made, hmap⟩ := exists_of_map_eq_ok h
            exact ⟨made, (Value.map.inj hmap).symm⟩
          · cases h

/-- **A document has each text key once.** -/
theorem nodup_textKeys_read {cs : List Char} {es : List (Scalar × Value)}
    (h : read cs = .ok (.map es)) : (Value.textKeys es).Nodup := by
  rw [read] at h
  split at h
  · cases h
  · cases h
  · split at h
    · next hmake =>
        cases h
        obtain ⟨pairs, rfl⟩ := exists_entries_of_make hmake
        exact nodup_textKeys_entries pairs
    · cases h

end Yaml

namespace Settings

/-! ## Laying one mapping over another -/

/-- **What is found after laying over**: the upper value over the lower one, else the lower one. -/
theorem get?_overlayEntries (s : String) : ∀ {upper lower : List (Scalar × Value)},
    (Value.textKeys upper).Nodup → Entries.get? (.text s) (overlayEntries lower upper) =
      match Entries.get? (.text s) upper with
      | some v => some (overlay (Entries.get? (.text s) lower) v)
      | none => Entries.get? (.text s) lower
  | [], _, _ => rfl
  | (k, v) :: rest, lower, h => by
      rw [overlayEntries, get?_overlayEntries s (Value.nodup_textKeys_tail h), Value.get?_putSame,
        Entries.get?_cons]
      by_cases hk : k = .text s
      · subst hk
        have hnone := Value.not_mem_textKeys_iff.mp (List.nodup_cons.mp h).1
        rw [hnone, if_pos rfl, if_pos rfl, Value.lookupSame_text]
      · rw [if_neg hk, if_neg hk]

/-- What is found in a merged document. -/
theorem member?_merge {lower v : Value} {es : List (Scalar × Value)} (s : String)
    (hmap : lower.isMap = true) (hes : (Value.textKeys es).Nodup)
    (h : merge lower (.map es) = .ok v) : v.member? s =
      match Entries.get? (.text s) es with
      | some upper => some (overlay (lower.member? s) upper)
      | none => lower.member? s := by
  cases lower with
  | map bs =>
      obtain rfl := Except.ok.inj h
      exact get?_overlayEntries s hes
  | _ => cases hmap

/-- No key is lost. -/
theorem isSome_get?_overlayEntries {s : String} : ∀ {upper lower : List (Scalar × Value)},
    (Entries.get? (.text s) lower).isSome = true →
      (Entries.get? (.text s) (overlayEntries lower upper)).isSome = true
  | [], _, h => h
  | (k, v) :: rest, lower, h => by
      rw [overlayEntries]
      refine isSome_get?_overlayEntries ?_
      rw [Value.get?_putSame]
      split
      · rfl
      · exact h

/-- A mapping laid over a value is a mapping, with the keys of the value if that is one too. -/
theorem isSome_member?_overlay {lower upper part : Value} {key : String}
    (hlower : (lower.member? key).isSome = true) (hpart : overlay (some lower) upper = part)
    (hmap : part.isMap = true) : (part.member? key).isSome = true := by
  subst hpart
  cases upper with
  | map es =>
      cases lower with
      | map bs =>
          rw [overlay]
          exact isSome_get?_overlayEntries hlower
      | _ => cases hlower
  | _ => cases hmap

/-! ## Complete settings -/

/-- The setting of a section under a key. -/
def setting? (settings : Value) (name key : String) : Option Value :=
  (settings.member? name).bind (·.member? key)

/-- Settings are *complete* if every section that is a mapping has the keys of the built-in one. -/
structure Complete (settings : Value) : Prop where
  mapping : settings.isMap = true
  keys : ∀ {name key : String} {part : Value}, (setting? defaults name key).isSome = true →
    settings.member? name = some part → part.isMap = true → (part.member? key).isSome = true

theorem complete_defaults : Complete defaults where
  mapping := rfl
  keys {name key part} hkey hpart _ := by rwa [setting?, hpart] at hkey

theorem complete_ofDocument {document v : Value} {cs : List Char}
    (hread : Yaml.read cs = .ok document) (h : ofDocument document = .ok v) : Complete v := by
  cases document with
  | map es =>
      have hmerge : merge defaults (.map es) = .ok v := h
      refine ⟨Except.ok.inj hmerge ▸ rfl, fun {name key part} hkey hpart hmap => ?_⟩
      rw [member?_merge name rfl (Yaml.nodup_textKeys_read hread) hmerge] at hpart
      cases hlower : defaults.member? name with
      | none => simp [setting?, hlower] at hkey
      | some lower =>
          rw [setting?, hlower] at hkey
          cases hupper : Entries.get? (.text name) es with
          | none =>
              rw [hupper, hlower] at hpart
              exact Option.some.inj hpart ▸ hkey
          | some upper =>
              rw [hupper, hlower] at hpart
              exact isSome_member?_overlay hkey (Option.some.inj hpart) hmap
  | _ => exact Except.ok.inj h ▸ complete_defaults

/-- **Settings from a file are complete.** -/
theorem complete_ofFile {file : File} {v : Value} (h : ofFile file = .ok v) : Complete v := by
  cases file with
  | missing => exact Except.ok.inj h ▸ complete_defaults
  | directory => exact Except.ok.inj h ▸ complete_defaults
  | bytes bs =>
      rw [ofFile] at h
      split at h
      · cases h
      · split at h
        · next hread => exact complete_ofDocument hread h
        · exact Except.ok.inj h ▸ complete_defaults
        · cases h

end Settings

end AdminConsole
