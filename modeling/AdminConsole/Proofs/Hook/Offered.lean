import AdminConsole.Proofs.Hook.Assignments

/-!
# Proofs/Hook/Offered — drafts as the editor can show them

The editor shows a draft in widgets that offer a list of events, the one language and a range of
priorities.  What it shows instead of a draft is the draft that is `offered` for it, and putting all
of that back into the draft gives the offered one (`Typed.assignAll_shown`).

The offered draft is shown as it is.  The draft of a stored hook is its own offered one exactly if
event, language and priority of the hook are on offer (`offered_ofStored_iff`).
-/

namespace AdminConsole

namespace HookDraft

variable {d : HookDraft} {m : HookMember} {v : Value} {as : List (HookMember × Value)}

/-! ## Assignments of typed values -/

theorem Typed.assign (h : Typed d) (hv : m.Accepts v) : Typed (d.assign m v) := by
  rw [HookDraft.assign]
  split
  · exact h
  · exact h.set hv

theorem Typed.assignAll (accepted : ∀ a ∈ as, a.1.Accepts a.2) :
    ∀ {d : HookDraft}, Typed d → Typed (d.assignAll as) := by
  induction as with
  | nil => exact fun h => h
  | cons a rest ih =>
    obtain ⟨ha, hrest⟩ := List.forall_mem_cons.mp accepted
    exact fun h => ih hrest (h.assign ha)

/-- **Afterwards each member of a typed draft has its value.** -/
theorem Typed.get_assignAll (h : Typed d) (distinct : (Entries.keys as).Nodup)
    (accepted : ∀ a ∈ as, a.1.Accepts a.2) : ∀ a ∈ as, (d.assignAll as).get a.1 = a.2 :=
  fun a ha => Accepts.eq_of_agrees ((Typed.assignAll accepted h).member a.1) (accepted a ha)
    (Value.agrees_of_same (same_get_assignAll distinct accepted d a ha))

/-! ## What the editor offers -/

/-- The event that is shown for one: itself if it is on offer, else the first that is. -/
def offeredEvent (event : Value) : Value :=
  if event ∈ StoredHook.events.map Value.text then event else .text "pre_read"

/-- The priority that is shown for one: the nearest that is on offer. -/
def offeredPriority : Value → Value
  | .int n => .int (min (max n StoredHook.minPriority) StoredHook.maxPriority)
  | v => v

/-- **The draft that the editor shows**: the event, the language and the priority are on offer. -/
def offered (d : HookDraft) : HookDraft :=
  { d with
    event := offeredEvent d.event
    priority := offeredPriority d.priority
    language := .text "javascript" }

/-- The members of a draft that the editor shows, in its order. -/
def shown (d : HookDraft) : List (HookMember × Value) :=
  [.enabled, .bypassAcl, .language, .event, .priority, .name, .script].map fun m =>
    (m, d.offered.get m)

/-- Whatever is stored, an event on offer is shown. -/
theorem offeredEvent_mem (event : Value) :
    ∃ s ∈ StoredHook.events, offeredEvent event = .text s := by
  rw [offeredEvent]
  split
  · rename_i h
    obtain ⟨s, hs, rfl⟩ := List.mem_map.mp h
    exact ⟨s, hs, rfl⟩
  · exact ⟨"pre_read", by decide, rfl⟩

theorem Typed.offered (h : Typed d) : Typed d.offered where
  id := h.id
  entity := h.entity
  member m := by
    cases m with
    | event =>
      obtain ⟨s, -, hs⟩ := offeredEvent_mem d.event
      exact ⟨s, hs⟩
    | priority =>
      obtain ⟨n, hn⟩ : ∃ n, d.priority = .int n := h.member .priority
      exact ⟨_, congrArg offeredPriority hn⟩
    | language => exact ⟨_, rfl⟩
    | name => exact h.member .name
    | script => exact h.member .script
    | bypassAcl => exact h.member .bypassAcl
    | enabled => exact h.member .enabled

theorem Typed.accepts_shown (h : Typed d) : ∀ a ∈ d.shown, a.1.Accepts a.2 := by
  intro a ha
  obtain ⟨m, -, rfl⟩ := List.mem_map.mp ha
  exact h.offered.member m

/-- **Putting back what is shown** makes the draft the offered one. -/
theorem Typed.assignAll_shown (h : Typed d) : d.assignAll d.shown = d.offered := by
  have distinct : (Entries.keys d.shown).Nodup := by
    simp [shown, Entries.keys]
  obtain ⟨id, entity⟩ := d.assignAll_frame d.shown
  refine eq_of_get id entity fun m => ?_
  exact h.get_assignAll distinct h.accepts_shown (m, d.offered.get m)
    (List.mem_map.mpr ⟨m, by cases m <;> decide, rfl⟩)

theorem offeredEvent_eq_self_iff {event : String} :
    offeredEvent (.text event) = .text event ↔ event ∈ StoredHook.events := by
  constructor
  · intro h
    obtain ⟨s, hs, hoffered⟩ := offeredEvent_mem (.text event)
    obtain rfl := Value.text_injective (hoffered.symm.trans h)
    exact hs
  · exact fun h => if_pos (List.mem_map_of_mem h)

theorem offeredPriority_eq_self_iff {n : Int} : offeredPriority (.int n) = .int n ↔
    StoredHook.minPriority ≤ n ∧ n ≤ StoredHook.maxPriority := by
  simp only [offeredPriority, StoredHook.minPriority, StoredHook.maxPriority, Value.scalar.injEq,
    Scalar.int.injEq]
  omega

/-- **The offered draft is shown as it is.** -/
theorem Typed.offered_offered (h : Typed d) : d.offered.offered = d.offered := by
  have event : offeredEvent (offeredEvent d.event) = offeredEvent d.event := by
    obtain ⟨s, hs, hoffered⟩ := offeredEvent_mem d.event
    rw [hoffered, offeredEvent_eq_self_iff.mpr hs]
  have priority : offeredPriority (offeredPriority d.priority) = offeredPriority d.priority := by
    obtain ⟨n, hn⟩ : ∃ n, d.priority = .int n := h.member .priority
    rw [hn]
    refine offeredPriority_eq_self_iff.mpr ?_
    simp only [StoredHook.minPriority, StoredHook.maxPriority]
    omega
  simp only [HookDraft.offered, event, priority]

end HookDraft

/-- **What the editor offers for a stored hook is what is stored**: an event and a language of the
lists, or none, and a priority within the bounds. -/
structure StoredHook.Offered (h : StoredHook) : Prop where
  event : h.event = "" ∨ h.event ∈ events
  language : h.language = "" ∨ h.language ∈ languages
  priority : minPriority ≤ h.priority ∧ h.priority ≤ maxPriority

namespace HookDraft

theorem offered_ofStored_iff (h : StoredHook) : (ofStored h).offered = ofStored h ↔ h.Offered := by
  have event : offeredEvent (ofStored h).event = (ofStored h).event ↔
      h.event = "" ∨ h.event ∈ StoredHook.events := by
    rw [ofStored]
    dsimp only
    rw [offeredEvent_eq_self_iff]
    by_cases hempty : h.event = ""
    · simp [hempty, StoredHook.events]
    · simp [hempty]
  have language : .text "javascript" = (ofStored h).language ↔
      h.language = "" ∨ h.language ∈ StoredHook.languages := by
    rw [@eq_comm Value]
    by_cases hempty : h.language = ""
    · simp [ofStored, hempty]
    · simp [ofStored, hempty, StoredHook.languages]
  have priority : offeredPriority (ofStored h).priority = (ofStored h).priority ↔
      StoredHook.minPriority ≤ h.priority ∧ h.priority ≤ StoredHook.maxPriority :=
    offeredPriority_eq_self_iff
  rw [offered, mk.injEq]
  simp only [event, language, priority, true_and, and_true]
  constructor
  · rintro ⟨he, hp, hl⟩
    exact ⟨he, hl, hp⟩
  · rintro ⟨he, hl, hp⟩
    exact ⟨he, hp, hl⟩

end HookDraft

end AdminConsole
