import AdminConsole.Proofs.Hook.Unchecked

/-!
# Proofs/Hook/Assignments — when the order of edits counts

Values for several members can be assigned in any order, and in one call or in several.  Each
assignment concerns one member, so the draft does not depend on the order (`assignAll_perm`), nor do
the errors, which are found anew for every draft on the way.

The order counts only where a draft on the way cannot be checked, for the assignments after it are
not made.  No assignment leads to such a draft exactly if the event has no parts and the script is a
text or nothing (`Settled`), as after edits with values of the kinds that the editor gives:
`order_free_iff_settled`.
-/

namespace AdminConsole

namespace HookDraft

variable {d : HookDraft} {m n : HookMember} {v w : Value} {as bs : List (HookMember × Value)}

/-! ## Assignments to a draft -/

theorem set_comm (h : m ≠ n) (d : HookDraft) (v w : Value) :
    (d.set m v).set n w = (d.set n w).set m v := by
  cases m <;> cases n <;> first | rfl | exact absurd rfl h

/-- The draft with a value assigned to a member; the same value changes nothing. -/
def assign (d : HookDraft) (m : HookMember) (v : Value) : HookDraft :=
  if (d.get m).same v then d else d.set m v

/-- **The draft after assignments**, one after another. -/
def assignAll (d : HookDraft) (as : List (HookMember × Value)) : HookDraft :=
  as.foldl (fun d a => d.assign a.1 a.2) d

theorem assignAll_cons (d : HookDraft) (a : HookMember × Value) (as : List (HookMember × Value)) :
    d.assignAll (a :: as) = (d.assign a.1 a.2).assignAll as := rfl

/-- An assignment leaves the other members alone. -/
theorem get_assign_of_ne (h : n ≠ m) (d : HookDraft) (v : Value) :
    (d.assign m v).get n = d.get n := by
  rw [assign]
  split
  · rfl
  · exact get_set_of_ne d h v

theorem assign_frame (d : HookDraft) (m : HookMember) (v : Value) :
    (d.assign m v).id = d.id ∧ (d.assign m v).entity = d.entity := by
  rw [assign]
  split
  · exact ⟨rfl, rfl⟩
  · cases m <;> exact ⟨rfl, rfl⟩

theorem assignAll_frame (d : HookDraft) (as : List (HookMember × Value)) :
    (d.assignAll as).id = d.id ∧ (d.assignAll as).entity = d.entity := by
  induction as generalizing d with
  | nil => exact ⟨rfl, rfl⟩
  | cons a rest ih =>
    obtain ⟨hid, hentity⟩ := d.assign_frame a.1 a.2
    rw [assignAll_cons, (ih _).1, (ih _).2]
    exact ⟨hid, hentity⟩

/-- **Assignments to two members commute.** -/
theorem assign_comm (h : m ≠ n) (d : HookDraft) (v w : Value) :
    (d.assign m v).assign n w = (d.assign n w).assign m v := by
  rw [assign, get_assign_of_ne h.symm, assign, assign, assign]
  by_cases hm : (d.get m).same v = true <;> by_cases hn : (d.get n).same w = true
  · simp [hm, hn]
  · simp [hm, hn, get_set_of_ne d h]
  · simp [hm, hn]
  · simp [hm, hn, get_set_of_ne d h, set_comm h]

/-- **The order of assignments does not count.** -/
theorem assignAll_perm (perm : as.Perm bs) (distinct : (Entries.keys as).Nodup) (d : HookDraft) :
    d.assignAll as = d.assignAll bs := by
  refine perm.foldl_eq' (fun a ha b hb d => ?_) d
  by_cases h : a.1 = b.1
  · -- no member is assigned twice
    have hvalue : a.2 = b.2 := by
      have hfirst := Entries.get?_of_mem distinct ha
      rw [h, Entries.get?_of_mem distinct hb] at hfirst
      exact (Option.some.inj hfirst).symm
    rw [h, hvalue]
  · exact assign_comm h d a.2 b.2

theorem get_assignAll_of_not_mem (h : m ∉ Entries.keys as) (d : HookDraft) :
    (d.assignAll as).get m = d.get m := by
  induction as generalizing d with
  | nil => rfl
  | cons a rest ih =>
    obtain ⟨ha, hrest⟩ := not_or.mp (mt List.mem_cons.mpr h)
    rw [assignAll_cons, ih hrest, get_assign_of_ne ha]

/-- **Afterwards each member is the same as its value.** -/
theorem same_get_assignAll (distinct : (Entries.keys as).Nodup)
    (accepted : ∀ a ∈ as, a.1.Accepts a.2) (d : HookDraft) :
    ∀ a ∈ as, ((d.assignAll as).get a.1).same a.2 = true := by
  induction as generalizing d with
  | nil => nofun
  | cons a rest ih =>
    obtain ⟨hfresh, hdistinct⟩ := List.nodup_cons.mp distinct
    obtain ⟨ha, haccepted⟩ := List.forall_mem_cons.mp accepted
    refine List.forall_mem_cons.mpr ⟨?_, fun b hb => ih hdistinct haccepted _ b hb⟩
    rw [assignAll_cons, get_assignAll_of_not_mem hfresh, assign]
    split
    · assumption
    · rw [get_set_self]
      exact ha.same_self

/-! ## Drafts that no assignment makes uncheckable -/

/-- **A draft whose event has no parts, and whose script is a text or nothing.** -/
structure Settled (d : HookDraft) : Prop where
  event : ∃ s, d.event = .scalar s
  script : d.script.truthy = true → ∃ s, d.script = .text s

theorem Settled.not_uncheckable (h : d.Settled) : ¬ d.Uncheckable := by
  rintro ⟨hscript, hparts | ⟨-, hnone⟩⟩
  · obtain ⟨s, hs⟩ := h.event
    exact hparts s hs
  · obtain ⟨s, hs⟩ := h.script hscript
    exact hnone s hs

theorem Settled.assign (h : d.Settled) (hv : m.Accepts v) : (d.assign m v).Settled := by
  rw [HookDraft.assign]
  split
  · exact h
  · cases m with
    | event =>
      obtain ⟨s, rfl⟩ := hv
      exact ⟨⟨.text s, rfl⟩, h.script⟩
    | script =>
      obtain ⟨s, rfl⟩ := hv
      exact ⟨h.event, fun _ => ⟨s, rfl⟩⟩
    | _ => exact ⟨h.event, h.script⟩

theorem Typed.settled (h : d.Typed) : d.Settled := by
  obtain ⟨event, hevent⟩ : ∃ s, d.event = .text s := h.member .event
  obtain ⟨script, hscript⟩ : ∃ s, d.script = .text s := h.member .script
  exact ⟨⟨.text event, hevent⟩, fun _ => ⟨script, hscript⟩⟩

/-- The rules of a draft that is not uncheckable can be checked. -/
theorem exists_problems_eq_ok (h : ¬ d.Uncheckable) : ∃ errors, d.problems = .ok errors := by
  cases hproblems : d.problems with
  | ok errors => exact ⟨errors, rfl⟩
  | error fault => exact absurd (exists_problems_eq_error_iff.mp ⟨fault, hproblems⟩) h

end HookDraft

namespace HookForm

open HookDraft

variable {f : HookForm} {d : HookDraft} {m : HookMember} {v : Value}
  {as : List (HookMember × Value)}

/-! ## Assignments in a form -/

theorem member_of_key (m : HookMember) :
    (Value.text m.key).text?.bind HookMember.ofKey? = some m := by
  cases m <;> decide

theorem setMember_of_same (hd : f.draft = some d) (h : (d.get m).same v = true) :
    f.setMember (.text m.key) v = (.ok f.errors, f) := by
  rw [setMember, hd]
  dsimp only
  rw [member_of_key]
  exact if_pos h

theorem setMember_of_not_same (hd : f.draft = some d) (h : ¬ (d.get m).same v = true) :
    f.setMember (.text m.key) v =
      ({ f with draft := some (d.set m v) } : HookForm).revalidate (d.set m v) := by
  rw [setMember, hd]
  dsimp only
  rw [member_of_key]
  exact if_neg h

/-- A new draft that can be checked takes the place of the old one. -/
theorem setMember_of_checkable (hd : f.draft = some d) (h : ¬ (d.get m).same v = true)
    (checkable : ¬ (d.set m v).Uncheckable) : ∃ errors, (d.set m v).problems = .ok errors ∧
      f.setMember (.text m.key) v =
        (.ok errors, { f with draft := some (d.set m v), errors := errors }) := by
  obtain ⟨errors, hproblems⟩ := exists_problems_eq_ok checkable
  refine ⟨errors, hproblems, ?_⟩
  rw [setMember_of_not_same hd h, revalidate, hproblems]

/-- **A new draft that cannot be checked** makes the edit raise. -/
theorem setMember_of_uncheckable (hd : f.draft = some d) (h : ¬ (d.get m).same v = true)
    (uncheckable : (d.set m v).Uncheckable) :
    ∃ fault, (f.setMember (.text m.key) v).1 = .error fault := by
  obtain ⟨fault, hproblems⟩ := exists_problems_eq_error_iff.mpr uncheckable
  refine ⟨fault, ?_⟩
  rw [setMember_of_not_same hd h, revalidate, hproblems]

/-- **One assignment** to a settled draft whose errors are up to date. -/
theorem setMember_of_settled (hd : f.draft = some d) (checked : d.problems = .ok f.errors)
    (settled : (d.assign m v).Settled) : ∃ errors, (d.assign m v).problems = .ok errors ∧
      f.setMember (.text m.key) v =
        (.ok errors, { f with draft := some (d.assign m v), errors := errors }) := by
  by_cases h : (d.get m).same v = true
  · refine ⟨f.errors, ?_, ?_⟩
    · rw [assign, if_pos h, checked]
    · rw [setMember_of_same hd h, assign, if_pos h, ← hd]
  · rw [assign, if_neg h] at settled ⊢
    exact setMember_of_checkable hd h settled.not_uncheckable

/-- Assignments as a mapping names them. -/
def keyed (as : List (HookMember × Value)) : List (Scalar × Value) :=
  as.map fun a => (.text a.1.key, a.2)

/-- **Assignments to a settled draft** are all made, and the errors are those of the new draft. -/
theorem setMembers_of_settled (accepted : ∀ a ∈ as, a.1.Accepts a.2) (hd : f.draft = some d)
    (checked : d.problems = .ok f.errors) (settled : d.Settled) :
    ∃ errors, (d.assignAll as).problems = .ok errors ∧ setMembers (keyed as) f =
      (.ok errors, { f with draft := some (d.assignAll as), errors := errors }) := by
  induction as generalizing f d with
  | nil =>
    refine ⟨f.errors, checked, ?_⟩
    rw [assignAll, List.foldl_nil, ← hd]
    rfl
  | cons a rest ih =>
    obtain ⟨ha, hrest⟩ := List.forall_mem_cons.mp accepted
    have settled' := settled.assign ha
    obtain ⟨errors, hproblems, hset⟩ := setMember_of_settled hd checked settled'
    obtain ⟨errors', hproblems', hsets⟩ :=
      ih (f := { f with draft := some (d.assign a.1 a.2), errors := errors }) hrest rfl hproblems
        settled'
    refine ⟨errors', hproblems', ?_⟩
    rw [keyed, List.map_cons, setMembers, hset]
    exact hsets

/-! ## Calls -/

/-- **A call that assigns values**: one member is set, or several are updated. -/
inductive Call where
  | set (m : HookMember) (v : Value)
  | update (values : List (HookMember × Value))

/-- What a call assigns. -/
def Call.assigned : Call → List (HookMember × Value)
  | set m v => [(m, v)]
  | update values => values

/-- The answer to a call and the form after it. -/
def Call.make (f : HookForm) : Call → Except Fault (List String) × HookForm
  | set m v => f.setMember (.text m.key) v
  | update values => f.update (.map (keyed values))

/-- Calls one after another; the first that raises ends them. -/
def makeCalls : List Call → HookForm → Except Fault Unit × HookForm
  | [], f => (.ok (), f)
  | call :: rest, f =>
    match call.make f with
    | (.ok _, f) => makeCalls rest f
    | (.error fault, f) => (.error fault, f)

theorem setMembers_append (xs ys : List (Scalar × Value)) (f : HookForm) :
    setMembers (xs ++ ys) f = match setMembers xs f with
      | (.ok _, g) => setMembers ys g
      | (.error fault, g) => (.error fault, g) := by
  induction xs generalizing f with
  | nil => rfl
  | cons x rest ih =>
    rw [List.cons_append, setMembers, setMembers]
    rcases hset : f.setMember (.scalar x.1) x.2 with ⟨_ | _, g⟩
    · rfl
    · exact ih g

/-- A call makes its assignments one after another. -/
theorem Call.make_cases (call : Call) (f : HookForm) :
    (∃ errors errors' g, call.make f = (.ok errors, g) ∧
      setMembers (keyed call.assigned) f = (.ok errors', g)) ∨
    ∃ fault g, call.make f = (.error fault, g) ∧
      setMembers (keyed call.assigned) f = (.error fault, g) := by
  cases call with
  | set m v =>
    rw [make, assigned, keyed, List.map_cons, setMembers]
    rcases f.setMember (.text m.key) v with ⟨fault | errors, g⟩
    · exact .inr ⟨fault, g, rfl, rfl⟩
    · exact .inl ⟨errors, g.errors, g, rfl, rfl⟩
  | update values =>
    rw [make, assigned, HookForm.update]
    rcases setMembers (keyed values) f with ⟨fault | errors, g⟩
    · exact .inr ⟨fault, g, rfl, rfl⟩
    · exact .inl ⟨errors, errors, g, rfl, rfl⟩

/-- **Calls make their assignments one after another**, however these are split. -/
theorem makeCalls_eq (calls : List Call) (f : HookForm) : makeCalls calls f =
    ((setMembers (keyed (calls.flatMap Call.assigned)) f).1.map fun _ => (),
      (setMembers (keyed (calls.flatMap Call.assigned)) f).2) := by
  induction calls generalizing f with
  | nil => rfl
  | cons call rest ih =>
    rw [List.flatMap_cons, keyed, List.map_append, setMembers_append, makeCalls, ← keyed, ← keyed]
    rcases call.make_cases f with ⟨errors, errors', g, hmake, hset⟩ | ⟨fault, g, hmake, hset⟩
    · rw [hmake, hset]
      exact ih g
    · rw [hmake, hset]
      rfl

/-! ## Edited forms -/

/-- **The forms of a loaded hook**: it was loaded into any form and edited since, with any values
and whether an edit raised or not. -/
inductive Edited (h : StoredHook) : HookForm → Prop
  | load (f : HookForm) : Edited h (f.load h.toValue).2
  | setMember {f : HookForm} (edited : Edited h f) (key v : Value) : Edited h (f.setMember key v).2
  | update {f : HookForm} (edited : Edited h f) (values : Value) : Edited h (f.update values).2

/-- The saved copy is the hook, and the draft is another version of it. -/
structure VersionOf (h : StoredHook) (f : HookForm) : Prop where
  saved : f.saved = some (ofStored h)
  draft : ∃ d, f.draft = some d ∧ d.id = (ofStored h).id ∧ d.entity = (ofStored h).entity
  upToDate : UpToDate f

theorem VersionOf.setMember {h : StoredHook} (hf : VersionOf h f) (key v : Value) :
    VersionOf h (f.setMember key v).2 where
  saved := (f.setMember_frame key v).1.trans hf.saved
  draft := by
    rcases f.setMember_cases key v with heq | ⟨d, m, hd, -, heq⟩
    · rw [heq]
      exact hf.draft
    · obtain ⟨d', hd', hid, hentity⟩ := hf.draft
      obtain rfl := Option.some.inj (hd.symm.trans hd')
      rw [heq, (revalidate_frame _ _).1]
      refine ⟨d.set m v, rfl, ?_⟩
      cases m <;> exact ⟨hid, hentity⟩
  upToDate := hf.upToDate.setMember key v

theorem Edited.versionOf {h : StoredHook} (edited : Edited h f) : VersionOf h f := by
  induction edited with
  | load f =>
    obtain ⟨errors, hproblems, heq⟩ := f.load_toValue h
    rw [heq]
    refine ⟨rfl, ⟨_, rfl, rfl, rfl⟩, fun d hd => .inl ?_⟩
    obtain rfl := Option.some.inj hd
    exact hproblems
  | setMember _ key v ih => exact ih.setMember key v
  | update _ values ih => exact update_keeps (fun _ key v hf => hf.setMember key v) values ih

/-! ## When the order counts -/

/-- **Values to assign**: of the members' kinds, and none for a member twice. -/
structure Assignable (as : List (HookMember × Value)) : Prop where
  distinct : (Entries.keys as).Nodup
  accepted : ∀ a ∈ as, a.1.Accepts a.2

/-- **Calls that make these assignments**, in any order and split in any way. -/
def Makes (as : List (HookMember × Value)) (calls : List Call) : Prop :=
  (calls.flatMap Call.assigned).Perm as

/-- **A settled draft takes assignments in any order.** -/
theorem makeCalls_of_settled (assignable : Assignable as) (hd : f.draft = some d)
    (checked : d.problems = .ok f.errors) (settled : d.Settled) :
    ∃ g, g.draft = some (d.assignAll as) ∧ g.saved = f.saved ∧
      (d.assignAll as).problems = .ok g.errors ∧
      (∀ order, order.Perm as → f.update (.map (keyed order)) = (.ok g.errors, g)) ∧
      ∀ calls, Makes as calls → makeCalls calls f = (.ok (), g) := by
  obtain ⟨errors, hproblems, -⟩ := setMembers_of_settled assignable.accepted hd checked settled
  have hupdate : ∀ order, order.Perm as → setMembers (keyed order) f =
      (.ok errors, { f with draft := some (d.assignAll as), errors := errors }) := by
    intro order perm
    obtain ⟨errors', hproblems', hset⟩ := setMembers_of_settled
      (fun a ha => assignable.accepted a (perm.mem_iff.mp ha)) hd checked settled
    -- the draft is the same, so its errors are
    rw [← assignAll_perm perm.symm assignable.distinct] at hproblems' hset
    obtain rfl := Except.ok.inj (hproblems.symm.trans hproblems')
    exact hset
  refine ⟨{ f with draft := some (d.assignAll as), errors := errors }, rfl, rfl, hproblems, hupdate,
    fun calls makes => ?_⟩
  rw [makeCalls_eq, hupdate _ makes]
  rfl

/-- The values of a stored hook. -/
def storedValues (h : StoredHook) : List (HookMember × Value) :=
  HookMember.all.map fun m => (m, (ofStored h).get m)

theorem assignable_storedValues (h : StoredHook) : Assignable (storedValues h) where
  distinct := by
    rw [storedValues, Entries.keys, List.map_map]
    exact (by decide : HookMember.all.Nodup)
  accepted a ha := by
    obtain ⟨m, -, rfl⟩ := List.mem_map.mp ha
    exact (typed_ofStored h).member m

/-- **A draft with the values of the hook** has no unsaved changes. -/
theorem same_assignAll_storedValues {h : StoredHook} (id : d.id = (ofStored h).id)
    (entity : d.entity = (ofStored h).entity) :
    (d.assignAll (storedValues h)).same (ofStored h) = true := by
  obtain ⟨hid, hentity⟩ := d.assignAll_frame (storedValues h)
  refine same_of_agrees ?_ ?_ fun m => Value.agrees_of_same ?_
  · rw [hid, id]
    exact Value.ofText?_agrees_ofText?.mpr rfl
  · rw [hentity, entity]
    exact Value.text_agrees_text.mpr rfl
  · have hm : m ∈ HookMember.all := by cases m <;> decide
    exact same_get_assignAll (assignable_storedValues h).distinct
      (assignable_storedValues h).accepted d (m, (ofStored h).get m) (List.mem_map_of_mem hm)

/-- The order of some assignments counts: in one order they raise, in another they are all made. -/
def OrderCounts (f : HookForm) (as : List (HookMember × Value)) : Prop :=
  ∃ calls calls', Makes as calls ∧ Makes as calls' ∧
    (∃ fault, (makeCalls calls f).1 = .error fault) ∧ (makeCalls calls' f).1 = .ok ()

/-- **Two assignments of which one mends what the other finds.** -/
theorem orderCounts_of_uncheckable {n : HookMember} {w : Value} (hd : f.draft = some d)
    (distinct : m ≠ n) (hm : ¬ (d.get m).same v = true) (hn : ¬ (d.get n).same w = true)
    (broken : (d.set m v).Uncheckable) (mended : ¬ (d.set n w).Uncheckable)
    (both : ¬ ((d.set n w).set m v).Uncheckable) : OrderCounts f [(m, v), (n, w)] := by
  refine ⟨[.set m v, .set n w], [.set n w, .set m v], .refl _, .swap _ _ [], ?_, ?_⟩
  · obtain ⟨fault, hfault⟩ := setMember_of_uncheckable hd hm broken
    refine ⟨fault, ?_⟩
    rw [makeCalls, Call.make]
    rcases hset : f.setMember (.text m.key) v with ⟨answer, g⟩
    obtain rfl : answer = .error fault := by rw [← hfault, hset]
    rfl
  · obtain ⟨errors, -, hset⟩ := setMember_of_checkable hd hn mended
    have hm' : ¬ ((d.set n w).get m).same v = true := by rwa [get_set_of_ne d distinct]
    obtain ⟨errors', -, hset'⟩ := setMember_of_checkable
      (f := { f with draft := some (d.set n w), errors := errors }) rfl hm' both
    rw [makeCalls, Call.make, hset]
    dsimp only
    rw [makeCalls, Call.make, hset']
    rfl

/-- Without a script every draft can be checked. -/
theorem not_uncheckable_of_script {d : HookDraft} (h : d.script.truthy = false) :
    ¬ d.Uncheckable := fun hd => Bool.false_ne_true (h.symm.trans hd.1)

theorem not_same_empty {v : Value} (h : v.truthy = true) : ¬ v.same (.text "") = true := by
  rw [Value.same_text_iff]
  rintro rfl
  nomatch h

/-- Any other member keeps an uncheckable draft uncheckable, and an empty script mends it. -/
theorem orderCounts_of_broken (hd : f.draft = some d) (broken : d.Uncheckable) :
    ∃ s, OrderCounts f [(.name, .text s), (.script, .text "")] := by
  obtain ⟨s, hs⟩ : ∃ s, ¬ d.name.same (.text s) = true := by
    by_cases ha : d.name = .text "a"
    · exact ⟨"b", by rw [Value.same_text_iff, ha]; decide⟩
    · exact ⟨"a", mt Value.same_text_iff.mp ha⟩
  exact ⟨s, orderCounts_of_uncheckable (m := .name) (n := .script) hd (by decide) hs
    (not_same_empty broken.1) broken (not_uncheckable_of_script rfl)
    (not_uncheckable_of_script rfl)⟩

/-- Under an event that is not offered a script that is no text can be checked, and under one that
is offered it cannot. -/
theorem orderCounts_of_script (hd : f.draft = some d) (checkable : ¬ d.Uncheckable)
    (truthy : d.script.truthy = true) (noText : ∀ s, d.script ≠ .text s) :
    OrderCounts f [(.event, .text "post_read"), (.script, .text "")] := by
  have hevent : ¬ d.event.same (.text "post_read") = true := by
    rw [Value.same_text_iff]
    exact fun he => checkable ⟨truthy, .inr ⟨.inl he, noText⟩⟩
  exact orderCounts_of_uncheckable (m := .event) (n := .script) hd (by decide) hevent
    (not_same_empty truthy) ⟨truthy, .inr ⟨.inl rfl, noText⟩⟩ (not_uncheckable_of_script rfl)
    (not_uncheckable_of_script rfl)

/-- Under an event with parts only an empty script can be checked. -/
theorem orderCounts_of_event (hd : f.draft = some d) (checkable : ¬ d.Uncheckable)
    (parts : ∀ s, d.event ≠ .scalar s) :
    OrderCounts f [(.script, .text "x"), (.event, .text "post_read")] := by
  have hscript : d.script.truthy = false :=
    Bool.eq_false_iff.mpr fun truthy => checkable ⟨truthy, .inl parts⟩
  have hne : ¬ d.script.same (.text "x") = true := by
    rw [Value.same_text_iff]
    intro he
    rw [he] at hscript
    exact absurd hscript (by decide)
  exact orderCounts_of_uncheckable (m := .script) (n := .event) hd (by decide) hne
    (mt Value.same_text_iff.mp (parts _)) ⟨rfl, .inl parts⟩
    (not_uncheckable_of_script hscript)
    (Settled.not_uncheckable ⟨⟨.text "post_read", rfl⟩, fun _ => ⟨"x", rfl⟩⟩)

/-- **If the draft is not settled, the order of some assignments counts.** -/
theorem exists_orderCounts (hd : f.draft = some d) (unsettled : ¬ d.Settled) :
    ∃ as, Assignable as ∧ OrderCounts f as := by
  by_cases broken : d.Uncheckable
  · obtain ⟨s, hs⟩ := orderCounts_of_broken hd broken
    exact ⟨_, ⟨by simp [Entries.keys], by simp [HookMember.Accepts]⟩, hs⟩
  · by_cases parts : ∀ s, d.event ≠ .scalar s
    · exact ⟨_, ⟨by decide, by simp [HookMember.Accepts]⟩, orderCounts_of_event hd broken parts⟩
    · obtain ⟨event, hevent⟩ : ∃ s, d.event = .scalar s := by simpa using parts
      obtain ⟨truthy, noText⟩ : d.script.truthy = true ∧ ∀ s, d.script ≠ .text s := by
        by_contra h
        refine unsettled ⟨⟨event, hevent⟩, fun truthy => ?_⟩
        simpa using not_and.mp h truthy
      exact ⟨_, ⟨by decide, by simp [HookMember.Accepts]⟩,
        orderCounts_of_script hd broken truthy noText⟩

/-- **When the order of assignments counts.**  Take any form of a loaded hook, after edits with any
values, and look at assignments of values of the members' kinds to distinct members.

* Their order, and how they are split over calls, never counts exactly if the draft is settled.
* After runs in which only values of the members' kinds were set, it is settled.
* All of them are then made: the draft has the values, the errors are those of this draft, and the
  answer of an update is these errors, in whatever order.
* Assigning the values of the hook then leaves no unsaved changes. -/
theorem order_free_iff_settled {h : StoredHook} (edited : Edited h f) :
    ∃ d, f.draft = some d ∧
      ((∀ as, Assignable as → ∃ result, ∀ calls, Makes as calls → makeCalls calls f = result) ↔
        d.Settled) ∧
      (Run f → d.Settled) ∧
      (d.Settled → ∀ as, Assignable as → ∃ g, g.draft = some (d.assignAll as) ∧
        (d.assignAll as).problems = .ok g.errors ∧
        (∀ order, order.Perm as → f.update (.map (keyed order)) = (.ok g.errors, g)) ∧
        ∀ calls, Makes as calls → makeCalls calls f = (.ok (), g)) ∧
      (d.Settled → ∀ calls, Makes (storedValues h) calls →
        ∃ g, makeCalls calls f = (.ok (), g) ∧ g.hasUnsavedChanges = false) := by
  obtain ⟨hsaved, ⟨d, hd, hid, hentity⟩, upToDate⟩ := edited.versionOf
  have checked (settled : d.Settled) : d.problems = .ok f.errors :=
    (upToDate d hd).resolve_right settled.not_uncheckable
  have free (settled : d.Settled) {as : List (HookMember × Value)} (assignable : Assignable as) :=
    makeCalls_of_settled assignable hd (checked settled) settled
  refine ⟨d, hd, ⟨fun same => ?_, fun settled as assignable => ?_⟩,
    fun run => (run.checked.draft d hd).1.settled, fun settled as assignable => ?_,
    fun settled calls makes => ?_⟩
  · by_contra unsettled
    obtain ⟨as, assignable, calls, calls', hcalls, hcalls', ⟨fault, hraised⟩, hmade⟩ :=
      exists_orderCounts hd unsettled
    obtain ⟨result, hresult⟩ := same as assignable
    rw [hresult calls hcalls] at hraised
    rw [hresult calls' hcalls', hraised] at hmade
    nomatch hmade
  · obtain ⟨g, -, -, -, -, hcalls⟩ := free settled assignable
    exact ⟨_, hcalls⟩
  · obtain ⟨g, hdraft, -, hproblems, hupdate, hcalls⟩ := free settled assignable
    exact ⟨g, hdraft, hproblems, hupdate, hcalls⟩
  · obtain ⟨g, hdraft, hkept, -, -, hcalls⟩ := free settled (assignable_storedValues h)
    refine ⟨g, hcalls calls makes, ?_⟩
    rw [hasUnsavedChanges, hdraft, hkept, hsaved]
    dsimp only
    rw [same_assignAll_storedValues hid hentity]
    rfl

/-- Another event and a script that fits it. -/
def preRead : List (HookMember × Value) :=
  [(.event, .text "pre_read"), (.script, .text "function preRead(entity) {}")]

/-- In one call or in two, and in either order, the hook gets another event with its script. -/
theorem order_free_iff_settled_loweredStamp :
    Edited stampHook loweredStamp ∧ Assignable preRead ∧
      ∃ g, loweredStamp.update (.map (keyed preRead)) = (.ok g.errors, g) ∧
        loweredStamp.update (.map (keyed preRead.reverse)) = (.ok g.errors, g) ∧
        makeCalls (preRead.map fun a => .set a.1 a.2) loweredStamp = (.ok (), g) := by
  have edited : Edited stampHook loweredStamp :=
    (Edited.load {}).setMember (.text "priority") (.int 7)
  have assignable : Assignable preRead := ⟨by decide, by simp [preRead, HookMember.Accepts]⟩
  obtain ⟨d, hd, -, -, hmade, -⟩ := order_free_iff_settled edited
  have settled : d.Settled := by
    cases hd
    exact ⟨⟨_, rfl⟩, fun _ => ⟨_, rfl⟩⟩
  obtain ⟨g, -, -, hupdate, hcalls⟩ := hmade settled preRead assignable
  exact ⟨edited, assignable, g, hupdate _ (.refl _), hupdate _ (preRead.reverse_perm),
    hcalls _ (.refl _)⟩

/-- A stored hook without a script. -/
def unscripted : StoredHook where
  id := some "h1"
  entity := "orders"
  name := "stamp"
  event := "post_read"
  priority := 1
  language := "javascript"
  script := ""
  bypassAcl := false
  enabled := true

/-- The form with this hook after its script was set to a number, which raised. -/
def miscast : HookForm :=
  ((({} : HookForm).load unscripted.toValue).2.setMember (.text "script") (.int 5)).2

/-- **The order counts after an edit that raised**: another name is refused as long as the script is
the number, and is taken after the script was emptied.  Nor can all values of the hook be assigned
again once the name is another one. -/
theorem order_counts_miscast :
    Edited unscripted miscast ∧ Assignable [(.name, .text "renamed"), (.script, .text "")] ∧
    (miscast.update (.map (keyed [(.name, .text "renamed"), (.script, .text "")]))).1 =
      .error (.noAttribute (.int 5) "startswith") ∧
    (miscast.update (.map (keyed [(.script, .text ""), (.name, .text "renamed")]))).1 = .ok [] ∧
    Edited unscripted (miscast.setMember (.text "name") (.text "renamed")).2 ∧
    (makeCalls [.update (storedValues unscripted)]
      (miscast.setMember (.text "name") (.text "renamed")).2).2.hasUnsavedChanges = true := by
  have edited : Edited unscripted miscast := (Edited.load {}).setMember (.text "script") (.int 5)
  exact ⟨edited, ⟨by decide, by simp [HookMember.Accepts]⟩, by decide, by decide,
    edited.setMember (.text "name") (.text "renamed"), by decide⟩

end HookForm

end AdminConsole
