import AdminConsole.Hook.Draft
import AdminConsole.Proofs.Value.Agreement

/-!
# Proofs/Hook/Rules — which drafts may be sent

A draft is *typed* when its members hold values of the kinds that the editor gives them, whatever
these values are.  For such a draft the rules can always be checked, the record's own rules reduce
to those of event, priority and language, and the script rule depends on event and script together.
No rule is broken exactly when the draft is `Saveable` (`problems_eq`).
-/

namespace AdminConsole

/-- The values that the editor gives a member. -/
def HookMember.Accepts : HookMember → Value → Prop
  | .name, v | .event, v | .language, v | .script, v => ∃ s, v = .text s
  | .priority, v => ∃ n, v = .int n
  | .bypassAcl, v | .enabled, v => ∃ b, v = .bool b

/-- A value of a member's kind is the same as itself. -/
theorem HookMember.Accepts.same_self {m : HookMember} {v : Value} (h : m.Accepts v) :
    v.same v = true := by
  cases m <;> obtain ⟨a, rfl⟩ := h <;> simp [Value.same, Scalar.same, Scalar.integer?]

/-! ## Record checks -/

namespace Record

variable {α : Type} {name : String} {c : Except String α}

theorem messages_located_eq_nil_iff : messages (located name c) = [] ↔ ∃ a, c = .ok a := by
  cases c <;> simp [messages, located]

theorem exists_oneOf_iff {choices : List String} {named s : String} :
    (∃ a, oneOf choices named (.text s) = .ok a) ↔ s ∈ choices := by
  by_cases h : s ∈ choices <;> simp [oneOf, h]

theorem exists_integerBetween_iff {low high n : Int} :
    (∃ a, integerBetween low high (.int n) = .ok a) ↔ low ≤ n ∧ n ≤ high := by
  by_cases hlow : n < low
  · simp [integerBetween, integer, hlow, Int.not_le.mpr hlow]
  · by_cases hhigh : high < n
    · simp [integerBetween, integer, hlow, hhigh]
    · simp [integerBetween, integer, hlow, hhigh, Int.not_lt.mp hlow, Int.not_lt.mp hhigh]

end Record

namespace StoredHook

/-- The messages of all fields of a record, in their order. -/
def fieldMessages (rules : Rules) (es : List (Scalar × Value)) : List String :=
  Record.messages (Record.optional es "id" none Record.optionalText) ++
    Record.messages (Record.required es "entity" Record.text) ++
    Record.messages (Record.optional es "name" "" Record.textOrNull) ++
    Record.messages (Record.optional es "event" "post_read" rules.event) ++
    Record.messages (Record.optional es "priority" 1 rules.priority) ++
    Record.messages (Record.optional es "language" "javascript" rules.language) ++
    Record.messages (Record.optional es "script" "" Record.textOrNull) ++
    Record.messages (Record.optional es "bypass_acl" false Record.flag) ++
    Record.messages (Record.optional es "enabled" true Record.flag)

/-- **A record is refused with the messages of its fields**, and taken if there are none. -/
theorem check_cases (rules : Rules) (es : List (Scalar × Value)) :
    (∃ h, check rules (.map es) = .ok h ∧ fieldMessages rules es = []) ∨
      ∃ e, check rules (.map es) = .error e ∧ e.messages = fieldMessages rules es := by
  unfold check
  dsimp only
  split
  · rename_i hid hentity hname hevent hpriority hlanguage hscript hbypass henabled
    refine .inl ⟨_, rfl, ?_⟩
    rw [fieldMessages, hid, hentity, hname, hevent, hpriority, hlanguage, hscript, hbypass,
      henabled]
    rfl
  · exact .inr ⟨_, rfl, rfl⟩

end StoredHook

/-! ## The script rule -/

namespace HookScript

variable {event script : String}

theorem startsWith_iff {s start : String} :
    startsWith s start = true ↔ ∃ rest, s = start ++ rest := by
  rw [startsWith, List.isPrefixOf_iff_prefix]
  constructor
  · rintro ⟨rest, h⟩
    exact ⟨String.ofList rest, String.toList_injective (by simp [← h])⟩
  · rintro ⟨rest, rfl⟩
    exact ⟨rest.toList, by simp⟩

theorem check_text (event script : String) :
    check (.text event) (.text script) = .ok (problem? event script) := by
  by_cases h : script.isEmpty
  · simp [check, problem?, Value.truthy, h]
  · simp [check, Value.truthy, h]

/-- **The script rule**: nothing was written yet, or the declaration of the event comes first. -/
theorem problem?_eq_none_iff : problem? event script = none ↔
    script = "" ∨ ∃ declaration body, declarations.lookup event = some declaration ∧
      script = declaration ++ body := by
  rw [problem?]
  by_cases he : script.isEmpty
  · simp [String.isEmpty_iff.mp he]
  · have hne : script ≠ "" := fun h => he (String.isEmpty_iff.mpr h)
    rw [if_neg he]
    cases hd : declarations.lookup event with
    | none => simp [hne]
    | some declaration =>
        by_cases hs : startsWith script declaration
        · simpa [hs, hne] using startsWith_iff.mp hs
        · simpa [hs, hne] using mt startsWith_iff.mpr hs

theorem append_ne_empty {s t : String} (h : s ≠ "") : s ++ t ≠ "" := fun he =>
  h (String.append_eq_empty_iff.mp he).1

theorem unknownEvent_ne_empty (event : Value) : unknownEvent event ≠ "" :=
  append_ne_empty (append_ne_empty (by decide))

theorem wrongStart_ne_empty (event declaration : String) : wrongStart event declaration ≠ "" :=
  append_ne_empty (append_ne_empty (append_ne_empty (append_ne_empty (by decide))))

theorem ne_empty_of_problem? {message : String} (h : problem? event script = some message) :
    message ≠ "" := by
  rw [problem?] at h
  split at h
  · nomatch h
  · split at h
    · exact Option.some.inj h ▸ unknownEvent_ne_empty _
    · split at h
      · nomatch h
      · exact Option.some.inj h ▸ wrongStart_ne_empty _ _

end HookScript

/-! ## Drafts -/

namespace HookDraft

variable {d : HookDraft}

/-- **A draft with well-typed members.** -/
structure Typed (d : HookDraft) : Prop where
  id : ∃ s, d.id = .ofText? s
  entity : ∃ s, d.entity = .text s
  member : ∀ m : HookMember, m.Accepts (d.get m)

/-- **The rules for sending a draft.** -/
structure Saveable (d : HookDraft) : Prop where
  event : d.event = .text "pre_read" ∨ d.event = .text "post_read"
  priority : ∃ n, d.priority = .int n ∧ 1 ≤ n ∧ n ≤ 100
  language : d.language = .text "javascript"
  script : d.script = .text "" ∨ ∃ event declaration body, d.event = .text event ∧
    HookScript.declarations.lookup event = some declaration ∧
      d.script = .text (declaration ++ body)

theorem Typed.set {m : HookMember} {v : Value} (h : Typed d) (hv : m.Accepts v) :
    Typed (d.set m v) where
  id := by cases m <;> exact h.id
  entity := by cases m <;> exact h.entity
  member n := by
    by_cases hn : n = m
    · subst hn
      rwa [get_set_self]
    · rw [get_set_of_ne d hn]
      exact h.member n

/-- The draft of a stored hook: a copy, with an event and a language where these are empty. -/
def ofStored (h : StoredHook) : HookDraft where
  id := .ofText? h.id
  entity := .text h.entity
  name := .text h.name
  event := .text (if h.event.isEmpty then "post_read" else h.event)
  priority := .int h.priority
  language := .text (if h.language.isEmpty then "javascript" else h.language)
  script := .text h.script
  bypassAcl := .bool h.bypassAcl
  enabled := .bool h.enabled

theorem text_orElse_text (s t : String) :
    (Value.text s).orElse (.text t) = .text (if s.isEmpty then t else s) := by
  by_cases h : s.isEmpty <;> simp [Value.orElse, Value.truthy, h]

theorem text_orElse_empty (s : String) : (Value.text s).orElse (.text "") = .text s := by
  rw [text_orElse_text]
  by_cases h : s.isEmpty
  · rw [if_pos h, String.isEmpty_iff.mp h]
  · rw [if_neg h]

theorem ofRecord_toValue (h : StoredHook) : ofRecord h.toValue = .ok (ofStored h) := by
  have hdraft : ofRecord h.toValue = .ok {
      id := .ofText? h.id
      entity := (Value.text h.entity).orElse (.text "")
      name := (Value.text h.name).orElse (.text "")
      event := (Value.text h.event).orElse (.text "post_read")
      priority := .int h.priority
      language := (Value.text h.language).orElse (.text "javascript")
      script := (Value.text h.script).orElse (.text "")
      bypassAcl := .bool h.bypassAcl
      enabled := .bool h.enabled } := rfl
  rw [hdraft, text_orElse_empty, text_orElse_empty, text_orElse_empty, text_orElse_text,
    text_orElse_text, ofStored]

/-- **The draft of a stored hook is typed.** -/
theorem typed_ofStored (h : StoredHook) : Typed (ofStored h) where
  id := ⟨_, rfl⟩
  entity := ⟨_, rfl⟩
  member m := by cases m <;> exact ⟨_, rfl⟩

/-- The messages of a draft are those of its members, whatever they hold. -/
theorem recordProblems_eq (d : HookDraft) : d.recordProblems =
    Record.messages (Record.located "id" (Record.optionalText d.id)) ++
      Record.messages (Record.located "entity" (Record.text d.entity)) ++
      Record.messages (Record.located "name" (Record.textOrNull d.name)) ++
      Record.messages (Record.located "event" (StoredHook.strict.event d.event)) ++
      Record.messages (Record.located "priority" (StoredHook.strict.priority d.priority)) ++
      Record.messages (Record.located "language" (StoredHook.strict.language d.language)) ++
      Record.messages (Record.located "script" (Record.textOrNull d.script)) ++
      Record.messages (Record.located "bypass_acl" (Record.flag d.bypassAcl)) ++
      Record.messages (Record.located "enabled" (Record.flag d.enabled)) := by
  let es := d.toValue.entries?.getD []
  have hvalue : d.toValue = .map es := rfl
  refine Eq.trans (b := StoredHook.fieldMessages StoredHook.strict es) ?_ rfl
  rw [recordProblems, hvalue]
  rcases StoredHook.check_cases StoredHook.strict es with ⟨r, hr, hnil⟩ | ⟨e, he, heq⟩
  · rw [hr, hnil]
  · rw [he, ← heq]

/-- **Of a typed draft, only event, priority and language can break the record's rules.** -/
theorem Typed.recordProblems (h : Typed d) : d.recordProblems =
    Record.messages (Record.located "event" (StoredHook.strict.event d.event)) ++
      Record.messages (Record.located "priority" (StoredHook.strict.priority d.priority)) ++
      Record.messages (Record.located "language" (StoredHook.strict.language d.language)) := by
  obtain ⟨id, hid⟩ := h.id
  obtain ⟨entity, hentity⟩ := h.entity
  obtain ⟨name, hname⟩ : ∃ s, d.name = .text s := h.member .name
  obtain ⟨script, hscript⟩ : ∃ s, d.script = .text s := h.member .script
  obtain ⟨bypassAcl, hbypassAcl⟩ : ∃ b, d.bypassAcl = .bool b := h.member .bypassAcl
  obtain ⟨enabled, henabled⟩ : ∃ b, d.enabled = .bool b := h.member .enabled
  have hidOk : Record.optionalText (.ofText? id) = .ok id := by
    cases id <;> rfl
  rw [recordProblems_eq, hid, hentity, hname, hscript, hbypassAcl, henabled, hidOk]
  simp [Record.messages, Record.located, Record.text, Record.textOrNull, Record.flag]

theorem hasKnownEvent_iff {event : String} (h : d.event = .text event) :
    d.hasKnownEvent = true ↔ event ∈ StoredHook.events := by
  simp [hasKnownEvent, h, Value.same, Scalar.same, Scalar.integer?]

/-- The rules of a draft with a text as event and a text as script. -/
theorem problems_text {event script : String} (hevent : d.event = .text event)
    (hscript : d.script = .text script) : d.problems = .ok (d.recordProblems ++
      if event ∈ StoredHook.events then (HookScript.problem? event script).toList else []) := by
  rw [problems, hevent, hscript, HookScript.check_text]
  cases hp : HookScript.problem? event script with
  | none =>
      rw [Option.toList_none, ite_self, List.append_nil]
      rfl
  | some message =>
      have hguard : (!message.isEmpty && d.hasKnownEvent) = true ↔ event ∈ StoredHook.events := by
        simp [HookScript.ne_empty_of_problem? hp, hasKnownEvent_iff hevent]
      refine (if_congr hguard rfl rfl).trans ?_
      by_cases hknown : event ∈ StoredHook.events
      · rw [if_pos hknown, if_pos hknown]
        rfl
      · rw [if_neg hknown, if_neg hknown, List.append_nil]
        rfl

/-- The rules for sending a draft, for the texts and the number that it holds. -/
theorem saveable_iff {event language script : String} {priority : Int}
    (hevent : d.event = .text event) (hpriority : d.priority = .int priority)
    (hlanguage : d.language = .text language) (hscript : d.script = .text script) :
    Saveable d ↔ event ∈ StoredHook.events ∧
      (StoredHook.minPriority ≤ priority ∧ priority ≤ StoredHook.maxPriority) ∧
      language ∈ StoredHook.languages ∧ HookScript.problem? event script = none := by
  have hknown : event ∈ StoredHook.events ↔
      (d.event = .text "pre_read" ∨ d.event = .text "post_read") := by
    simp [hevent, StoredHook.events]
  have hbounds : (StoredHook.minPriority ≤ priority ∧ priority ≤ StoredHook.maxPriority) ↔
      ∃ n, d.priority = .int n ∧ 1 ≤ n ∧ n ≤ 100 := by
    simp [hpriority, StoredHook.minPriority, StoredHook.maxPriority]
  have hoffered : language ∈ StoredHook.languages ↔ d.language = .text "javascript" := by
    simp [hlanguage, StoredHook.languages]
  have hstart : HookScript.problem? event script = none ↔
      (d.script = .text "" ∨ ∃ event declaration body, d.event = .text event ∧
        HookScript.declarations.lookup event = some declaration ∧
          d.script = .text (declaration ++ body)) := by
    simp [HookScript.problem?_eq_none_iff, hevent, hscript]
  rw [hknown, hbounds, hoffered, hstart]
  exact ⟨fun h => ⟨h.event, h.priority, h.language, h.script⟩,
    fun ⟨he, hp, hl, hs⟩ => ⟨he, hp, hl, hs⟩⟩

/-- **The rules of a typed draft can be checked, and it breaks none exactly if it may be sent.** -/
theorem Typed.problems_eq (h : Typed d) :
    ∃ errors, d.problems = .ok errors ∧ (errors = [] ↔ Saveable d) := by
  obtain ⟨event, hevent⟩ : ∃ s, d.event = .text s := h.member .event
  obtain ⟨priority, hpriority⟩ : ∃ n, d.priority = .int n := h.member .priority
  obtain ⟨language, hlanguage⟩ : ∃ s, d.language = .text s := h.member .language
  obtain ⟨script, hscript⟩ : ∃ s, d.script = .text s := h.member .script
  refine ⟨_, problems_text hevent hscript, ?_⟩
  rw [saveable_iff hevent hpriority hlanguage hscript, h.recordProblems, hevent, hpriority,
    hlanguage, List.append_eq_nil_iff, List.append_eq_nil_iff, List.append_eq_nil_iff,
    Record.messages_located_eq_nil_iff, Record.messages_located_eq_nil_iff,
    Record.messages_located_eq_nil_iff, StoredHook.strict, Record.exists_oneOf_iff,
    Record.exists_oneOf_iff, Record.exists_integerBetween_iff, and_assoc, and_assoc]
  refine and_congr_right fun hknown => ?_
  rw [if_pos hknown, Option.toList_eq_nil_iff]

/-! ## Comparing drafts -/

theorem Accepts.eq_of_agrees {m : HookMember} {v w : Value} (hv : m.Accepts v) (hw : m.Accepts w)
    (h : v.agrees w = true) : v = w := by
  cases m <;> obtain ⟨a, rfl⟩ := hv <;> obtain ⟨b, rfl⟩ := hw <;> simpa using h

theorem member?_toValue (d : HookDraft) (m : HookMember) :
    d.toValue.member? m.key = some (d.get m) := by
  cases m <;> rfl

theorem eq_of_get {a b : HookDraft} (id : a.id = b.id) (entity : a.entity = b.entity)
    (get : ∀ m, a.get m = b.get m) : a = b := by
  obtain ⟨_, _, _, _, _, _, _, _, _⟩ := a
  obtain ⟨_, _, _, _, _, _, _, _, _⟩ := b
  simp only [mk.injEq]
  exact ⟨id, entity, get .name, get .event, get .priority, get .language, get .script,
    get .bypassAcl, get .enabled⟩

/-- Drafts of one hook whose members agree have the same content. -/
theorem same_of_agrees {a b : HookDraft} (id : a.id.agrees b.id = true)
    (entity : a.entity.agrees b.entity = true)
    (get : ∀ m, (a.get m).agrees (b.get m) = true) : a.same b = true := by
  have hname := get .name
  have hevent := get .event
  have hpriority := get .priority
  have hlanguage := get .language
  have hscript := get .script
  have hbypassAcl := get .bypassAcl
  have henabled := get .enabled
  simp only [HookDraft.get] at hname hevent hpriority hlanguage hscript hbypassAcl henabled
  rw [same, Bool.or_eq_true]
  refine .inr ?_
  simp [toValue, Value.same, Value.object, Value.agrees, Value.agreeEntries, Value.lookupSame,
    Scalar.agrees, Scalar.same, Scalar.integer?, *]

/-- **A draft has the same content as a typed one exactly if its members agree.** -/
theorem Typed.same_iff_agrees {a b : HookDraft} (hb : Typed b) : a.same b = true ↔
    a.id.agrees b.id = true ∧ a.entity.agrees b.entity = true ∧
      ∀ m, (a.get m).agrees (b.get m) = true := by
  refine ⟨fun h => ?_, fun ⟨id, entity, get⟩ => same_of_agrees id entity get⟩
  rcases (Bool.or_eq_true _ _).mp h with h | h
  · obtain rfl := beq_iff_eq.mp h
    obtain ⟨s, hs⟩ := hb.id
    obtain ⟨t, ht⟩ := hb.entity
    exact ⟨by simp [hs], by simp [ht], fun m => Value.agrees_of_same (hb.member m).same_self⟩
  · have agree (key : String) {v w : Value} (hv : a.toValue.member? key = some v)
        (hw : b.toValue.member? key = some w) : v.agrees w = true := by
      obtain ⟨w', hw', hvw⟩ := Value.exists_member?_of_agrees h hv
      rwa [Option.some.inj (hw.symm.trans hw')]
    exact ⟨agree "id" rfl rfl, agree "entity" rfl rfl,
      fun m => agree m.key (member?_toValue a m) (member?_toValue b m)⟩

/-- **Typed drafts have the same content only if they are equal.** -/
theorem Typed.same_iff {a b : HookDraft} (ha : Typed a) (hb : Typed b) :
    a.same b = true ↔ a = b := by
  refine ⟨fun h => ?_, fun h => by simp [same, h]⟩
  obtain ⟨id, entity, get⟩ := hb.same_iff_agrees.mp h
  refine eq_of_get ?_ ?_ fun m => Accepts.eq_of_agrees (ha.member m) (hb.member m) (get m)
  · obtain ⟨s, hs⟩ := ha.id
    obtain ⟨t, ht⟩ := hb.id
    rw [hs, ht] at id ⊢
    rw [Value.ofText?_agrees_ofText?.mp id]
  · obtain ⟨s, hs⟩ := ha.entity
    obtain ⟨t, ht⟩ := hb.entity
    rw [hs, ht] at entity ⊢
    rw [Value.text_agrees_text.mp entity]

end HookDraft

end AdminConsole
