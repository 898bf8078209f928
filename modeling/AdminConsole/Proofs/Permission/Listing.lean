import AdminConsole.Permission.Table
import AdminConsole.Proofs.Permission.Parity
import AdminConsole.Proofs.Value.Agreement
import Mathlib.Data.Prod.Lex

/-!
# Proofs/Permission/Listing — what the pending table lists

The rows of the pending table are the places, an entity and a permission, at which a pending set and
its baseline store different values (`all_eq_places`), in order and each once (`pairwise_places`).

The pending map goes by what a flag counts as, the table by what is stored.  So every pending entity
has a row for a flag that changed, and besides those the table lists the flags that one side stores
as off and the other leaves out: `listed_iff`.
-/

namespace AdminConsole

/-! ## Sets of truth values -/

/-- A set in which every permission is a text, none occurs twice, and each flag is on or off. -/
structure Flags.Boolean (f : Flags) : Prop where
  textual : Value.Textual f
  flag : ∀ name value, (name, value) ∈ f → ∃ b, value = .bool b

namespace Flags

variable {f g : Flags}

theorem boolean_nil : Boolean [] where
  textual := ⟨List.nodup_nil, nofun⟩
  flag := nofun

/-- Permissions with truth values, none given twice. -/
theorem boolean_of_pairs (ps : List (String × Bool)) (h : (Entries.keys ps).Nodup) :
    Boolean (ps.map fun p => (.text p.1, .bool p.2)) where
  textual := by
    have hkeys : Entries.keys (ps.map fun p => (Scalar.text p.1, Value.bool p.2)) =
        (Entries.keys ps).map Scalar.text := by
      rw [Entries.keys, Entries.keys, List.map_map, List.map_map]
      rfl
    refine ⟨?_, fun k hk => ?_⟩
    · rw [hkeys]
      exact h.map fun _ _ => Scalar.text.inj
    · rw [hkeys] at hk
      obtain ⟨p, -, rfl⟩ := List.mem_map.mp hk
      exact ⟨p, rfl⟩
  flag name value hmem := by
    obtain ⟨p, -, hp⟩ := List.mem_map.mp hmem
    exact ⟨p.2, (Prod.mk.inj hp).2.symm⟩

/-- What a set of truth values has for a flag. -/
theorem Boolean.get?_cases (h : f.Boolean) (name : Scalar) :
    Entries.get? name f = none ∨ ∃ b, Entries.get? name f = some (.bool b) := by
  cases hf : Entries.get? name f with
  | none => exact .inl rfl
  | some value =>
      obtain ⟨b, rfl⟩ := h.flag name value (Entries.mem_of_get? hf)
      exact .inr ⟨b, rfl⟩

theorem Boolean.text_of_mem_names (hf : f.Boolean) (hg : g.Boolean) {name : Scalar}
    (h : name ∈ names f g) : ∃ p, name = .text p :=
  (mem_names.mp h).elim (hf.textual.text name) (hg.textual.text name)

theorem nodup_names (hf : (Entries.keys f).Nodup) (hg : (Entries.keys g).Nodup) :
    (names f g).Nodup := by
  refine List.nodup_append.mpr ⟨hf, hg.filter _, fun a ha b hb hab => ?_⟩
  have hfresh := (List.mem_filter.mp hb).2
  rw [← hab, Entries.has_iff_mem_keys.mpr ha] at hfresh
  nomatch hfresh

/-- **Two flags that count differently are stored differently**, and so are an absent one and one
that is off. -/
theorem get?_ne_iff (hf : f.Boolean) (hg : g.Boolean) (name : Scalar) :
    Entries.get? name f ≠ Entries.get? name g ↔ f.isSet name ≠ g.isSet name ∨
      (Entries.get? name f = none ∧ Entries.get? name g = some (.bool false)) ∨
      (Entries.get? name f = some (.bool false) ∧ Entries.get? name g = none) := by
  unfold isSet stored
  rcases hf.get?_cases name with hf | ⟨b, hf⟩ <;> rcases hg.get?_cases name with hg | ⟨c, hg⟩ <;>
    rw [hf, hg]
  · decide
  · cases c <;> decide
  · cases b <;> decide
  · cases b <;> cases c <;> decide

end Flags

/-! ## Names in order -/

/-- Texts can always be put in order. -/
theorem Scalar.sorted_texts (ss : List String) :
    Scalar.sorted (ss.map .text) = .ok ((sortTexts ss).map .text) := by
  cases ss with
  | nil => rw [sortTexts, List.mergeSort_nil]; rfl
  | cons s rest =>
      have hlike : unlike? (.text s) (rest.map .text) = none := by
        rw [unlike?, List.find?_eq_none]
        intro b hb
        obtain ⟨t, -, rfl⟩ := List.mem_map.mp hb
        exact Bool.false_ne_true
      rw [List.map_cons, sorted, hlike, sortTexts]
      have horder (a b : String) :
          decide (a ≤ b) = (less? (.text b) (.text a) != some true) := by
        change decide (a ≤ b) = (some (decide (b < a)) != some true)
        by_cases h : b < a
        · rw [decide_eq_true h, decide_eq_false (String.not_le.mpr h)]
          rfl
        · rw [decide_eq_false h, decide_eq_true (String.not_lt.mp h)]
          rfl
      exact congrArg Except.ok (List.map_mergeSort (l := s :: rest) fun a _ b _ => horder a b).symm

theorem mapM_eq_ok {α β : Type} {f : α → Except Fault β} {g : α → β} :
    ∀ {xs : List α}, (∀ x ∈ xs, f x = .ok (g x)) → xs.mapM f = .ok (xs.map g)
  | [], _ => rfl
  | x :: xs, h => by
      rw [List.mapM_cons, h x List.mem_cons_self,
        mapM_eq_ok fun y hy => h y (List.mem_cons_of_mem x hy)]
      rfl

theorem pairwise_lt_sortTexts {ss : List String} (h : ss.Nodup) :
    (sortTexts ss).Pairwise (· < ·) := by
  have hne : (sortTexts ss).Pairwise (· ≠ ·) := (sortTexts_perm ss).nodup_iff.mpr h
  refine (pairwise_sortTexts ss).imp₂ (fun a b hle hne => ?_) hne
  exact String.not_le.mp fun hge => hne (String.le_antisymm hle hge)

/-- The texts in order are the only ordered list of them. -/
theorem sortTexts_eq {ss ts : List String} (perm : ts.Perm ss) (ordered : ts.Pairwise (· ≤ ·)) :
    sortTexts ss = ts :=
  ((sortTexts_perm ss).trans perm.symm).eq_of_pairwise (fun _ _ _ _ => String.le_antisymm)
    (pairwise_sortTexts ss) ordered

/-! ## The rows of the table -/

namespace PendingChange

/-- The set of an entity, empty if there is none. -/
def setAt (rows : PermissionRows) (entity : String) : Flags := (Entries.get? entity rows).getD []

/-- The permissions, in order, for which two sets store different values. -/
def changedNames (baseline pending : Flags) : List String :=
  (sortTexts ((Flags.names pending baseline).map Scalar.plain)).filter fun permission =>
    decide (Entries.get? (.text permission) baseline ≠ Entries.get? (.text permission) pending)

/-- The row of a permission, with what two sets store for it. -/
def row (entity : String) (baseline pending : Flags) (permission : String) : PendingChange where
  entity := entity
  permission := .text permission
  before := (Entries.get? (.text permission) baseline).getD .null
  after := (Entries.get? (.text permission) pending).getD .null

/-- **The places of the rows**, by entity and permission. -/
def places (baseline pending : PermissionRows) : List (String × String) :=
  (sortTexts (Entries.keys pending)).flatMap fun entity =>
    (changedNames (setAt baseline entity) (setAt pending entity)).map (Prod.mk entity)

/-- The row at a place. -/
def rowAt (baseline pending : PermissionRows) (place : String × String) : PendingChange :=
  row place.1 (setAt baseline place.1) (setAt pending place.1) place.2

variable {baseline pending : Flags}

theorem texts_of_names (hb : baseline.Boolean) (hp : pending.Boolean) :
    ((Flags.names pending baseline).map Scalar.plain).map Scalar.text =
      Flags.names pending baseline := by
  rw [List.map_map]
  refine (List.map_congr_left fun name hname => ?_).trans (List.map_id _)
  obtain ⟨p, rfl⟩ := hp.text_of_mem_names hb hname
  rfl

theorem pairwise_changedNames (hb : baseline.Boolean) (hp : pending.Boolean) :
    (changedNames baseline pending).Pairwise (· < ·) := by
  refine (pairwise_lt_sortTexts ?_).filter _
  refine List.Nodup.of_map Scalar.text ?_
  rw [texts_of_names hb hp]
  exact Flags.nodup_names hp.textual.distinct hb.textual.distinct

theorem mem_changedNames {permission : String} :
    permission ∈ changedNames baseline pending ↔
      Entries.get? (.text permission) baseline ≠ Entries.get? (.text permission) pending := by
  rw [changedNames, List.mem_filter, decide_eq_true_iff, and_iff_right_iff_imp]
  intro hne
  rw [(sortTexts_perm _).mem_iff]
  have hname : Scalar.text permission ∈ Flags.names pending baseline := by
    by_contra h
    obtain ⟨hp, hb⟩ := not_or.mp (mt Flags.mem_names.mpr h)
    exact hne ((Entries.not_mem_keys_iff.mp hb).trans (Entries.not_mem_keys_iff.mp hp).symm)
  exact List.mem_map_of_mem (f := Scalar.plain) hname

/-- Stored values, null for a missing one, are the same exactly when they are equal. -/
theorem same_stored_iff (baselineFlags : baseline.Boolean) (pendingFlags : pending.Boolean)
    (name : Scalar) :
    ((Entries.get? name baseline).getD .null).same ((Entries.get? name pending).getD .null) = true ↔
      Entries.get? name baseline = Entries.get? name pending := by
  rcases baselineFlags.get?_cases name with hb | ⟨b, hb⟩ <;>
    rcases pendingFlags.get?_cases name with hp | ⟨c, hp⟩ <;> rw [hb, hp]
  · decide
  · cases c <;> decide
  · cases b <;> decide
  · cases b <;> cases c <;> decide

/-- **The rows of one entity.** -/
theorem ofFlags_eq (entity : String) (hb : baseline.Boolean) (hp : pending.Boolean) :
    ofFlags entity baseline pending =
      .ok ((changedNames baseline pending).map (row entity baseline pending)) := by
  rw [ofFlags, ← texts_of_names hb hp, Scalar.sorted_texts]
  refine congrArg Except.ok ?_
  rw [List.filterMap_map, changedNames, ← List.filterMap_eq_map (f := row entity baseline pending),
    List.filterMap_filter]
  refine List.filterMap_congr fun p _ => ?_
  by_cases h : Entries.get? (.text p) baseline = Entries.get? (.text p) pending
  · rw [if_neg (by simpa using h)]
    exact if_pos ((same_stored_iff hb hp _).mpr h)
  · rw [if_pos (by simpa using h)]
    exact if_neg (mt (same_stored_iff hb hp _).mp h)

/-- The sets of all entities hold truth values. -/
def BooleanRows (rows : PermissionRows) : Prop :=
  ∀ entity flags, Entries.get? entity rows = some flags → flags.Boolean

theorem BooleanRows.setAt {rows : PermissionRows} (h : BooleanRows rows) (entity : String) :
    (setAt rows entity).Boolean := by
  rw [PendingChange.setAt]
  cases hflags : Entries.get? entity rows with
  | none => exact Flags.boolean_nil
  | some flags => exact h entity flags hflags

theorem booleanRows_singleton (entity : String) {flags : Flags} (h : flags.Boolean) :
    BooleanRows [(entity, flags)] := by
  intro e f hf
  rw [Entries.get?_cons] at hf
  split at hf
  · exact Option.some.inj hf ▸ h
  · nomatch hf

section Rows

variable {baseline pending : PermissionRows}

/-- **The rows of the table are the places at which pending sets differ from their baselines.** -/
theorem all_eq_places (hb : BooleanRows baseline) (hp : BooleanRows pending) :
    all baseline pending = .ok ((places baseline pending).map (rowAt baseline pending)) := by
  have hrows : (sortTexts (Entries.keys pending)).mapM (fun entity =>
      ofFlags entity (setAt baseline entity) (setAt pending entity)) = .ok _ :=
    mapM_eq_ok fun entity _ => ofFlags_eq entity (hb.setAt entity) (hp.setAt entity)
  unfold setAt at hrows
  rw [all, hrows]
  refine congrArg Except.ok ?_
  rw [places, List.map_flatMap, List.flatMap_def]
  refine congrArg List.flatten (List.map_congr_left fun entity _ => ?_)
  rw [List.map_map]
  rfl

/-- **Rows are in order, each once.** -/
theorem pairwise_places (hb : BooleanRows baseline) (hp : BooleanRows pending)
    (distinct : (Entries.keys pending).Nodup) :
    (places baseline pending).Pairwise (Prod.Lex (· < ·) (· < ·)) := by
  refine List.pairwise_flatMap.mpr ⟨fun entity _ => ?_, ?_⟩
  · rw [List.pairwise_map]
    exact (pairwise_changedNames (hb.setAt entity) (hp.setAt entity)).imp fun h => .right entity h
  · refine (pairwise_lt_sortTexts distinct).imp fun {e e'} hlt a ha b hb => ?_
    obtain ⟨p, -, rfl⟩ := List.mem_map.mp ha
    obtain ⟨q, -, rfl⟩ := List.mem_map.mp hb
    exact .left p q hlt

theorem mem_places {entity permission : String} :
    (entity, permission) ∈ places baseline pending ↔ entity ∈ Entries.keys pending ∧
      Entries.get? (.text permission) (setAt baseline entity) ≠
        Entries.get? (.text permission) (setAt pending entity) := by
  simp [places, List.mem_flatMap, (sortTexts_perm _).mem_iff, mem_changedNames]

end Rows

end PendingChange

namespace Matrix

open PendingChange

/-- All cells and their baselines hold truth values. -/
structure BooleanFlags (m : Matrix) : Prop where
  baseline : BooleanRows m.baseline
  current : BooleanRows m.current

/-- A flag that counts otherwise in its cell than in the baseline. -/
def Changed (m : Matrix) (entity permission : String) : Prop :=
  (flagAt m.baseline entity (.text permission)).truthy ≠
    (flagAt m.current entity (.text permission)).truthy

instance (m : Matrix) (entity permission : String) : Decidable (m.Changed entity permission) :=
  inferInstanceAs (Decidable (_ ≠ _))

/-- A flag that is stored as off on one side, in the cell or in the baseline, and missing on the
other. -/
def OffOnOneSide (m : Matrix) (entity permission : String) : Prop :=
  let before := Entries.get? (.text permission) (setAt m.baseline entity)
  let after := Entries.get? (.text permission) (setAt m.current entity)
  (before = none ∧ after = some (.bool false)) ∨ (before = some (.bool false) ∧ after = none)

/-! ## Pending entries -/

variable {m : Matrix} {entity permission : String}

theorem Consistent.setAt_pending (h : Consistent m) (pending : entity ∈ Entries.keys m.pending) :
    setAt m.pending entity = setAt m.current entity := by
  obtain ⟨held, hheld⟩ := Entries.mem_keys_iff.mp pending
  have hcell := hheld
  rw [h.get?_pending, Option.filter_eq_some_iff] at hcell
  rw [setAt, setAt, hheld, hcell.1]

theorem Consistent.booleanRows_pending (h : Consistent m) (flags : BooleanFlags m) :
    BooleanRows m.pending := by
  intro e held hheld
  rw [h.get?_pending, Option.filter_eq_some_iff] at hheld
  exact flags.current e held hheld.1

/-- **A stored value differs exactly if the flag changed, or is off on one side and missing on the
other.** -/
theorem BooleanFlags.get?_ne_iff (flags : BooleanFlags m) :
    Entries.get? (.text permission) (setAt m.baseline entity) ≠
        Entries.get? (.text permission) (setAt m.current entity) ↔
      m.Changed entity permission ∨ m.OffOnOneSide entity permission :=
  Flags.get?_ne_iff (flags.baseline.setAt entity) (flags.current.setAt entity) (.text permission)

theorem OffOnOneSide.not_changed (h : m.OffOnOneSide entity permission) :
    ¬ m.Changed entity permission := by
  rw [Changed, not_not, flagAt, flagAt, Flags.stored, Flags.stored, ← setAt, ← setAt]
  rcases h with ⟨hb, hc⟩ | ⟨hb, hc⟩
  · rw [hb, hc]; rfl
  · rw [hb, hc]; rfl

/-- **A pending entity has a flag that changed.** -/
theorem exists_changed (consistent : Consistent m) (based : Based m) (flags : BooleanFlags m)
    (pending : entity ∈ Entries.keys m.pending) : ∃ permission, m.Changed entity permission := by
  obtain ⟨held, hheld⟩ := Entries.mem_keys_iff.mp pending
  have hcurrent := (consistent.mem_pending_iff.mp (Entries.mem_of_get? hheld)).1
  have cell := Entries.mem_keys_iff.mpr ⟨held, hcurrent⟩
  obtain ⟨loaded, hloaded⟩ := Entries.mem_keys_iff.mp (based cell)
  obtain ⟨name, hname⟩ := (consistent.mem_keys_pending_iff_of_mem cell (based cell)).mp pending
  -- a flag that neither side stores is off on both
  have hmem : name ∈ Flags.names held loaded := by
    by_contra h
    obtain ⟨h₁, h₂⟩ := not_or.mp (mt Flags.mem_names.mpr h)
    rw [flagAt, flagAt, hcurrent, hloaded] at hname
    exact hname ((Flags.isSet_of_not_mem h₁).trans (Flags.isSet_of_not_mem h₂).symm)
  obtain ⟨p, rfl⟩ := (flags.current entity held hcurrent).text_of_mem_names
    (flags.baseline entity loaded hloaded) hmem
  exact ⟨p, hname.symm⟩

/-- **What the pending table lists.**  Take any matrix that operations can lead to, in whose cells
and baselines each flag is on, off or missing.

* The table has one row for each of some places, in order of entity and permission.
* The places are the flags of pending entities that changed, or are stored as off on one side and
  missing on the other.
* Every pending entity has a row for a flag that changed.
* The rows are the changed flags alone exactly if no pending entity has a flag of the second
  kind. -/
theorem listed_iff (h : Reachable m) (flags : BooleanFlags m) :
    PendingChange.all m.baseline m.pending =
        .ok ((places m.baseline m.pending).map (rowAt m.baseline m.pending)) ∧
      (places m.baseline m.pending).Pairwise (Prod.Lex (· < ·) (· < ·)) ∧
      (∀ e p, (e, p) ∈ places m.baseline m.pending ↔
        e ∈ Entries.keys m.pending ∧ (m.Changed e p ∨ m.OffOnOneSide e p)) ∧
      (∀ e ∈ Entries.keys m.pending, ∃ p, (e, p) ∈ places m.baseline m.pending ∧ m.Changed e p) ∧
      ((∀ e p, (e, p) ∈ places m.baseline m.pending ↔
          e ∈ Entries.keys m.pending ∧ m.Changed e p) ↔
        ∀ e ∈ Entries.keys m.pending, ∀ p, ¬ m.OffOnOneSide e p) := by
  have consistent := h.consistent
  have held := consistent.booleanRows_pending flags
  have hplaces (e p : String) : (e, p) ∈ places m.baseline m.pending ↔
      e ∈ Entries.keys m.pending ∧ (m.Changed e p ∨ m.OffOnOneSide e p) := by
    refine mem_places.trans (and_congr_right fun he => ?_)
    rw [consistent.setAt_pending he]
    exact flags.get?_ne_iff
  refine ⟨all_eq_places flags.baseline held,
    pairwise_places flags.baseline held consistent.distinct, hplaces, fun e he => ?_, ?_, ?_⟩
  · obtain ⟨p, hp⟩ := exists_changed consistent h.based flags he
    exact ⟨p, (hplaces e p).mpr ⟨he, .inl hp⟩, hp⟩
  · intro onlyChanged e he p hoff
    exact hoff.not_changed ((onlyChanged e p).mp ((hplaces e p).mpr ⟨he, .inr hoff⟩)).2
  · intro noneOff e p
    refine (hplaces e p).trans (and_congr_right fun he => ?_)
    exact or_iff_left (noneOff e he p)

/-- A matrix with one cell, in which a flag that was missing has been turned over twice and another
one once. -/
def storedOff : Matrix where
  subject := .text "alice"
  baseline := [("orders", [])]
  current := [("orders", [(.text "read", .bool false), (.text "create", .bool true)])]
  pending := [("orders", [(.text "read", .bool false), (.text "create", .bool true)])]
  sequencer := ⟨1⟩

theorem reachable_storedOff : Reachable storedOff := by
  refine ⟨.int 4, {}, rfl, ?_⟩
  have begun := Run.beginLoad (.nil {}) (.text "alice")
  have loaded := begun.applyBaseline 1 (.object [("orders", .empty)])
  have twice := (loaded.edit (.toggle "orders" "read")).edit (.toggle "orders" "read")
  exact twice.edit (.toggle "orders" "create")

theorem booleanFlags_storedOff : BooleanFlags storedOff where
  baseline := booleanRows_singleton _ Flags.boolean_nil
  current := booleanRows_singleton _
    (Flags.boolean_of_pairs [("read", false), ("create", true)] (by decide))

/-- The table of this matrix has a row for the flag that was turned over twice. -/
theorem listed_iff_storedOff : (Reachable storedOff ∧ BooleanFlags storedOff) ∧
    ("orders", "create") ∈ places storedOff.baseline storedOff.pending ∧
    ("orders", "read") ∈ places storedOff.baseline storedOff.pending ∧
    (places storedOff.baseline storedOff.pending).Pairwise (Prod.Lex (· < ·) (· < ·)) := by
  obtain ⟨-, hsorted, hplaces, -, -⟩ := listed_iff reachable_storedOff booleanFlags_storedOff
  have hpending : "orders" ∈ Entries.keys storedOff.pending := by decide
  exact ⟨⟨reachable_storedOff, booleanFlags_storedOff⟩,
    (hplaces "orders" "create").mpr ⟨hpending, .inl (by decide)⟩,
    (hplaces "orders" "read").mpr ⟨hpending, .inr (.inl (by decide))⟩, hsorted⟩

theorem places_storedOff : places storedOff.baseline storedOff.pending =
    [("orders", "create"), ("orders", "read")] := by
  have hentities : sortTexts (Entries.keys storedOff.pending) = ["orders"] :=
    sortTexts_eq (.refl _) (List.pairwise_singleton _ _)
  have hnames : sortTexts ["read", "create"] = ["create", "read"] :=
    sortTexts_eq (.swap _ _ _) (by decide)
  have hchanged : changedNames (setAt storedOff.baseline "orders")
      (setAt storedOff.pending "orders") = ["create", "read"] := by
    rw [changedNames]
    exact (congrArg (List.filter _) hnames).trans (by decide)
  rw [places, hentities, List.flatMap_singleton, hchanged]
  rfl

/-- **An unchanged flag is listed**: it counts as off in the cell as in the baseline, and the table
shows it as going from null to off. -/
theorem unchanged_listed : Reachable storedOff ∧ BooleanFlags storedOff ∧
    PendingChange.all storedOff.baseline storedOff.pending = .ok [
      ⟨"orders", .text "create", .null, .bool true⟩,
      ⟨"orders", .text "read", .null, .bool false⟩] ∧
    ¬ storedOff.Changed "orders" "read" := by
  have held := reachable_storedOff.consistent.booleanRows_pending booleanFlags_storedOff
  refine ⟨reachable_storedOff, booleanFlags_storedOff, ?_, fun h => h rfl⟩
  rw [all_eq_places booleanFlags_storedOff.baseline held, places_storedOff]
  rfl

end Matrix

end AdminConsole
