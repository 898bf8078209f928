import AdminConsole.Proofs.Permission.Attribution
import AdminConsole.Proofs.Permission.Newest
import Mathlib.Algebra.Ring.Parity

/-!
# Proofs/Permission/Parity — toggles act by parity

A toggle turns one flag over and leaves all others (`flagAt_turnOver`), so after any toggles each
flag is the loaded one, turned over as often as it was toggled (`flagAt_turnedOver`).  The number of
turns does not depend on the order, and a flag counts as before exactly when it is even
(`iterate_not_ne_iff`).

A flag that was missing and was toggled back is stored as off.  The pending map goes by what a flag
counts as, so it does not see the difference (`toggled_by_parity`).
-/

namespace AdminConsole

theorem Flags.stored_flip (f : Flags) (permission name : Scalar) :
    (f.flip permission).stored name =
      if permission = name then .bool (!f.isSet name) else f.stored name := by
  rw [Flags.flip, Flags.stored, Entries.get?_put]
  by_cases h : permission = name
  · subst h
    rw [if_pos rfl, if_pos rfl, Option.getD_some]
  · rw [if_neg h, if_neg (Ne.symm h), Flags.stored]

namespace Matrix

/-- What is stored for a flag of an entity; one that is missing is off. -/
def flagAt (rows : PermissionRows) (entity : String) (name : Scalar) : Value :=
  ((Entries.get? entity rows).getD []).stored name

/-- How often toggles turn a flag of an entity over. -/
def turns (toggles : List (String × String)) (entity : String) (name : Scalar) : Nat :=
  toggles.countP fun t => decide (t.1 = entity ∧ Scalar.text t.2 = name)

/-- A stored flag turned over. -/
def turned (flag : Value) : Value := .bool (!flag.truthy)

/-- Toggles one after another; the first that is refused ends them. -/
def toggleEach (toggles : List (String × String)) (m : Matrix) : Except Fault Matrix :=
  toggles.foldlM (fun m t => (m.toggle t.1 t.2).map Prod.fst) m

variable {m : Matrix} {cells : PermissionRows} {toggles : List (String × String)}
  {entity permission : String}

/-! ## Turning over -/

theorem iterate_turned_bool (n : Nat) (b : Bool) : turned^[n] (.bool b) = .bool (not^[n] b) := by
  have h : Function.Semiconj (fun b => Value.bool b) not turned := fun _ => rfl
  exact (h.iterate_right n b).symm

theorem truthy_iterate_turned (n : Nat) (flag : Value) :
    (turned^[n] flag).truthy = not^[n] flag.truthy := by
  have h : Function.Semiconj Value.truthy turned not := fun _ => rfl
  exact h.iterate_right n flag

theorem iterate_not_ne_iff {n : Nat} {b : Bool} : not^[n] b ≠ b ↔ Odd n := by
  rcases Nat.even_or_odd n with even | odd
  · rw [Bool.involutive_not.iterate_even even]
    exact iff_of_false (fun h => h rfl) (Nat.not_odd_iff_even.mpr even)
  · rw [Bool.involutive_not.iterate_odd odd]
    exact iff_of_true (by simp) odd

/-- The order of toggles does not count. -/
theorem turns_of_perm {order : List (String × String)} (runs : order.Perm toggles) :
    turns order = turns toggles := by
  funext entity name
  exact runs.countP_eq _

/-- Toggles turn over permissions only. -/
theorem exists_odd_turns_iff :
    (∃ name, Odd (turns toggles entity name)) ↔
      ∃ permission : String, Odd (turns toggles entity (.text permission)) := by
  refine ⟨fun ⟨name, odd⟩ => ?_, fun ⟨permission, odd⟩ => ⟨.text permission, odd⟩⟩
  have hmod := Nat.odd_iff.mp odd
  have hpos : 0 < turns toggles entity name := by omega
  obtain ⟨t, -, ht⟩ := List.countP_pos_iff.mp hpos
  obtain ⟨-, rfl⟩ := of_decide_eq_true ht
  exact ⟨t.2, odd⟩

/-! ## Flags after toggles -/

theorem keys_turnOver (h : entity ∈ Entries.keys cells) (permission : String) :
    Entries.keys (turnOver cells entity permission) = Entries.keys cells := by
  obtain ⟨flags, hflags⟩ := Entries.mem_keys_iff.mp h
  rw [turnOver, hflags]
  exact Entries.keys_put_of_mem _ h

/-- **A toggle turns one flag over** and leaves all others. -/
theorem flagAt_turnOver (h : entity ∈ Entries.keys cells) (e : String) (name : Scalar) :
    flagAt (turnOver cells entity permission) e name =
      if entity = e ∧ Scalar.text permission = name then turned (flagAt cells e name)
      else flagAt cells e name := by
  obtain ⟨flags, hflags⟩ := Entries.mem_keys_iff.mp h
  simp only [turnOver, hflags, flagAt, Entries.get?_put]
  by_cases he : entity = e
  · subst he
    simp only [if_true, Option.getD_some, hflags, Flags.stored_flip, true_and]
    rfl
  · rw [if_neg (Ne.symm he), if_neg fun h => he h.1]

/-- **After toggles a flag is turned over as often as it was toggled.** -/
theorem flagAt_turnedOver (loaded : ∀ t ∈ toggles, t.1 ∈ Entries.keys cells) (e : String)
    (name : Scalar) : flagAt (turnedOver toggles cells) e name =
      turned^[turns toggles e name] (flagAt cells e name) := by
  induction toggles generalizing cells with
  | nil => rfl
  | cons t rest ih =>
      obtain ⟨ht, hrest⟩ := List.forall_mem_cons.mp loaded
      have hkeys := keys_turnOver ht t.2
      refine (ih fun u hu => hkeys ▸ hrest u hu).trans ?_
      rw [flagAt_turnOver ht, turns, turns, List.countP_cons]
      by_cases h : t.1 = e ∧ Scalar.text t.2 = name
      · rw [if_pos h, if_pos (decide_eq_true h), Function.iterate_succ_apply]
      · rw [if_neg h, if_neg (by simpa using h), Nat.add_zero]

/-! ## Matrices after toggles -/

/-- **Toggles of loaded entities and known permissions are never refused.** -/
theorem toggleEach_eq_ok (idle : m.loading = false)
    (valid : ∀ t ∈ toggles, t.1 ∈ m.entities ∧ t.2 ∈ Flags.vocabulary) :
    toggleEach toggles m = .ok (m.toggleAll toggles) := by
  induction toggles generalizing m with
  | nil => rfl
  | cons t rest ih =>
      obtain ⟨⟨loaded, known⟩, hrest⟩ := List.forall_mem_cons.mp valid
      obtain ⟨old, hold⟩ := Entries.mem_keys_iff.mp loaded
      have htoggle : (m.toggle t.1 t.2).map Prod.fst = .ok (m.after (m.toggle t.1 t.2)) := by
        rw [toggle, if_neg (by simpa using known), if_neg (by simp [idle]), hold]
        rfl
      have hkeys : (m.after (m.toggle t.1 t.2)).entities = m.entities := by
        rw [entities, current_toggle idle known]
        exact keys_turnOver loaded t.2
      have frame := (Edits.frame (.single (Edit.toggle (m := m) t.1 t.2))).1
      rw [toggleEach, List.foldlM_cons, htoggle]
      exact ih ((eq_of_withoutCells frame).2.2.1.trans idle) fun u hu => by
        rw [hkeys]
        exact hrest u hu

/-- **An entity with a cell and a baseline is pending exactly when some flag counts otherwise in the
one than in the other.** -/
theorem Consistent.mem_keys_pending_iff_of_mem (h : Consistent m) {e : String}
    (cell : e ∈ Entries.keys m.current) (covered : e ∈ Entries.keys m.baseline) :
    e ∈ Entries.keys m.pending ↔
      ∃ name, (flagAt m.current e name).truthy ≠ (flagAt m.baseline e name).truthy := by
  obtain ⟨current, hc⟩ := Entries.mem_keys_iff.mp cell
  obtain ⟨baseline, hb⟩ := Entries.mem_keys_iff.mp covered
  have hdiffers : m.differs e current = true ↔
      ∃ name, current.isSet name ≠ baseline.isSet name := by
    rw [differs, hb, Flags.same?, Bool.not_eq_true', ← Bool.not_eq_true, Flags.same_iff, not_forall]
  rw [Entries.mem_keys_iff, h.get?_pending, hc, Option.filter_some]
  simp only [flagAt, hb, hc, Option.getD_some]
  refine Iff.trans ?_ hdiffers
  cases m.differs e current <;> simp

/-- **An entity is pending exactly when some flag of it counts otherwise than in the baseline.** -/
theorem Consistent.mem_keys_pending_iff (h : Consistent m)
    (cells : Entries.keys m.current = Entries.keys m.baseline) {e : String} :
    e ∈ Entries.keys m.pending ↔
      ∃ name, (flagAt m.current e name).truthy ≠ (flagAt m.baseline e name).truthy := by
  by_cases cell : e ∈ Entries.keys m.current
  · exact h.mem_keys_pending_iff_of_mem cell (cells ▸ cell)
  · have hc := Entries.not_mem_keys_iff.mp cell
    have hb := Entries.not_mem_keys_iff.mp (cells ▸ cell)
    rw [Entries.mem_keys_iff, h.get?_pending]
    simp [flagAt, hb, hc]

/-- **What toggles make of installed rows.** -/
theorem toggleAll_install (m₀ : Matrix) {rows : PermissionRows}
    (valid : ∀ t ∈ toggles, t.1 ∈ Entries.keys rows ∧ t.2 ∈ Flags.vocabulary) :
    toggleEach toggles (m₀.install rows) = .ok ((m₀.install rows).toggleAll toggles) ∧
      (∀ e name, flagAt ((m₀.install rows).toggleAll toggles).current e name =
        turned^[turns toggles e name] (flagAt rows e name)) ∧
      ∀ e, e ∈ Entries.keys ((m₀.install rows).toggleAll toggles).pending ↔
        ∃ permission : String, Odd (turns toggles e (.text permission)) := by
  have idle : (m₀.install rows).loading = false := rfl
  have edits := edits_toggleAll toggles (m₀.install rows)
  have consistent := (consistent_install m₀ rows).edits edits
  have hflag (e : String) (name : Scalar) :
      flagAt ((m₀.install rows).toggleAll toggles).current e name =
        turned^[turns toggles e name] (flagAt rows e name) := by
    rw [current_toggleAll (fun t ht => (valid t ht).2) idle]
    exact flagAt_turnedOver (fun t ht => (valid t ht).1) e name
  refine ⟨toggleEach_eq_ok idle valid, hflag, fun e => ?_⟩
  rw [consistent.mem_keys_pending_iff (edits.keys_current rfl), edits.frame.2,
    ← exists_odd_turns_iff]
  refine exists_congr fun name => ?_
  rw [hflag, truthy_iterate_turned]
  exact iterate_not_ne_iff

/-- **Toggles act by parity.**  Take any rows that were installed, and any toggles of entities that
they have and of permissions that exist.

* No toggle is refused, and the baseline stays.
* Each flag that was on or off, or missing, is turned over once for each toggle of it.
* An entity is pending exactly when some permission of it was toggled an odd number of times.
* The same toggles in another order give the same flags and the same pending entities. -/
theorem toggled_by_parity {m₀ : Matrix} {tag : Int} {rows : Value}
    (installed : m₀.applyBaseline tag rows = .ok (m, true))
    (valid : ∀ t ∈ toggles, t.1 ∈ m.entities ∧ t.2 ∈ Flags.vocabulary) :
    ∃ m', toggleEach toggles m = .ok m' ∧ m'.baseline = m.baseline ∧
      (∀ e name b, flagAt m.baseline e name = .bool b →
        flagAt m'.current e name = .bool (not^[turns toggles e name] b)) ∧
      (∀ e, e ∈ Entries.keys m'.pending ↔
        ∃ permission : String, Odd (turns toggles e (.text permission))) ∧
      ∀ other, other.Perm toggles → ∃ m'', toggleEach other m = .ok m'' ∧
        (∀ e name, flagAt m''.current e name = flagAt m'.current e name) ∧
        ∀ e, e ∈ Entries.keys m''.pending ↔ e ∈ Entries.keys m'.pending := by
  obtain ⟨rows', rfl⟩ : ∃ rows', m = m₀.install rows' := by
    rcases m₀.applyBaseline_cases tag rows with ⟨-, ha⟩ | ⟨-, ⟨f, ha⟩ | ⟨rows', -, ha⟩⟩
    · nomatch installed.symm.trans ha
    · nomatch installed.symm.trans ha
    · exact ⟨rows', (Prod.mk.inj (Except.ok.inj (installed.symm.trans ha))).1⟩
  obtain ⟨hrun, hflag, hpending⟩ := toggleAll_install m₀ valid
  refine ⟨_, hrun, (edits_toggleAll toggles _).frame.2, fun e name b hb => ?_, hpending,
    fun other runs => ?_⟩
  · rw [hflag, ← iterate_turned_bool, ← hb]
    rfl
  · obtain ⟨hrun', hflag', hpending'⟩ :=
      toggleAll_install m₀ fun t ht => valid t (runs.mem_iff.mp ht)
    rw [turns_of_perm runs] at hflag' hpending'
    exact ⟨_, hrun', fun e name => (hflag' e name).trans (hflag e name).symm,
      fun e => (hpending' e).trans (hpending e).symm⟩

/-- Rows with a flag that is missing. -/
def installedRows : Matrix where
  subject := .text "alice"
  baseline := [("orders", [(.text "read", .bool true)]), ("invoices", [])]
  current := [("orders", [(.text "read", .bool true)]), ("invoices", [])]
  sequencer := ⟨1⟩

/-- The missing flag of the orders was toggled back and is stored as off; pending are the invoices
alone. -/
theorem toggled_by_parity_installedRows :
    (({ subject := .text "alice", sequencer := ⟨1⟩, loading := true } : Matrix).applyBaseline 1
        (.object [("orders", .object [("read", .bool true)]), ("invoices", .empty)]) =
      .ok (installedRows, true) ∧
    ∀ t ∈ [("orders", "delete"), ("invoices", "read"), ("orders", "delete")],
      t.1 ∈ installedRows.entities ∧ t.2 ∈ Flags.vocabulary) ∧
    ∃ m', toggleEach [("orders", "delete"), ("invoices", "read"), ("orders", "delete")]
        installedRows = .ok m' ∧
      flagAt m'.current "orders" (.text "delete") = .bool false ∧
      flagAt m'.current "invoices" (.text "read") = .bool true ∧
      "invoices" ∈ Entries.keys m'.pending ∧ m'.pending.length = 1 := by
  have installed : ({ subject := .text "alice", sequencer := ⟨1⟩, loading := true } :
      Matrix).applyBaseline 1
        (.object [("orders", .object [("read", .bool true)]), ("invoices", .empty)]) =
      .ok (installedRows, true) := rfl
  have valid : ∀ t ∈ [("orders", "delete"), ("invoices", "read"), ("orders", "delete")],
      t.1 ∈ installedRows.entities ∧ t.2 ∈ Flags.vocabulary := by decide
  obtain ⟨m', hrun, -, hflag, hpending, -⟩ := toggled_by_parity installed valid
  obtain rfl := Except.ok.inj hrun
  exact ⟨⟨installed, valid⟩, _, hrun, hflag "orders" (.text "delete") false rfl,
    hflag "invoices" (.text "read") false rfl, (hpending "invoices").mpr ⟨"read", by decide⟩, rfl⟩

end Matrix

end AdminConsole
