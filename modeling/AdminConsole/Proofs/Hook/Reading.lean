import AdminConsole.Proofs.Hook.Rules
import AdminConsole.Proofs.Record.Check

/-!
# Proofs/Hook/Reading — two ways to read a record into a draft

A draft is made from the record as the server sent it, or from what the check of a stored hook makes
of that record.  The check converts numbers and flags, and fills in what is missing; the draft of a
raw record takes the priority as it is, a flag as whether something is given, and fills in what is
missing or empty (`ofRaw`).

All other members are the same either way.  The drafts have the same content exactly if the record
is `Literal`: no text stands for its priority, and no word for false for a flag
(`readings_agree_iff`).
-/

namespace AdminConsole

namespace StoredHook

variable {es : List (Scalar × Value)} {rules : Rules} {h : StoredHook} {v : Value}

/-- **A record that passes** passes the check of each field. -/
structure Passed (rules : Rules) (es : List (Scalar × Value)) (h : StoredHook) : Prop where
  id : Record.optional es "id" none Record.optionalText = .ok h.id
  entity : Record.required es "entity" Record.text = .ok h.entity
  name : Record.optional es "name" "" Record.textOrNull = .ok h.name
  event : Record.optional es "event" "post_read" rules.event = .ok h.event
  priority : Record.optional es "priority" 1 rules.priority = .ok h.priority
  language : Record.optional es "language" "javascript" rules.language = .ok h.language
  script : Record.optional es "script" "" Record.textOrNull = .ok h.script
  bypassAcl : Record.optional es "bypass_acl" false Record.flag = .ok h.bypassAcl
  enabled : Record.optional es "enabled" true Record.flag = .ok h.enabled

theorem exists_passed_of_check (accepted : check rules v = .ok h) :
    ∃ es, v = .map es ∧ Passed rules es h := by
  unfold check at accepted
  split at accepted
  · next es =>
    dsimp only at accepted
    split at accepted
    · obtain rfl := Except.ok.inj accepted
      exact ⟨es, rfl, ⟨by assumption, by assumption, by assumption, by assumption, by assumption,
        by assumption, by assumption, by assumption, by assumption⟩⟩
    · nomatch accepted
  · nomatch accepted

end StoredHook

namespace HookDraft

/-- The value under a name in a raw record, null if there is none. -/
def rawMember (es : List (Scalar × Value)) (name : String) : Value :=
  (Entries.get? (.text name) es).getD .null

/-- The draft of a raw record. -/
def ofRaw (es : List (Scalar × Value)) : HookDraft where
  id := rawMember es "id"
  entity := (rawMember es "entity").orElse (.text "")
  name := (rawMember es "name").orElse (.text "")
  event := (rawMember es "event").orElse (.text "post_read")
  priority := if (rawMember es "priority").isNull then .int 1 else rawMember es "priority"
  language := (rawMember es "language").orElse (.text "javascript")
  script := (rawMember es "script").orElse (.text "")
  bypassAcl := .bool ((Entries.get? (.text "bypass_acl") es).getD (.bool false)).truthy
  enabled := .bool ((Entries.get? (.text "enabled") es).getD (.bool true)).truthy

theorem ofRecord_map (es : List (Scalar × Value)) : ofRecord (.map es) = .ok (ofRaw es) := by
  cases es <;> rfl

/-! ## Member by member -/

section Members

variable {es : List (Scalar × Value)} {name s default : String} {n : Int} {b flag : Bool}

theorem rawMember_of_optionalText {s : Option String}
    (h : Record.optional es name none Record.optionalText = .ok s) :
    rawMember es name = .ofText? s := by
  rw [rawMember]
  rcases Record.optional_eq_ok_iff.mp h with ⟨hnone, rfl⟩ | ⟨v, hv, htext⟩
  · rw [hnone]
    rfl
  · rw [hv, Option.getD_some, Record.optionalText_eq_ok_iff.mp htext]

theorem orElse_of_required (h : Record.required es name Record.text = .ok s) :
    (rawMember es name).orElse (.text "") = .text s := by
  obtain ⟨v, hv, htext⟩ := Record.required_eq_ok_iff.mp h
  rw [rawMember, hv, Option.getD_some, Record.text_eq_ok_iff.mp htext, text_orElse_empty]

/-- A text that is missing, null or empty is the empty one either way. -/
theorem orElse_of_textOrNull (h : Record.optional es name "" Record.textOrNull = .ok s) :
    (rawMember es name).orElse (.text "") = .text s := by
  rw [rawMember]
  rcases Record.optional_eq_ok_iff.mp h with ⟨hnone, rfl⟩ | ⟨v, hv, htext⟩
  · rw [hnone]
    rfl
  · rw [hv, Option.getD_some]
    rcases Record.textOrNull_eq_ok_iff.mp htext with rfl | ⟨rfl, rfl⟩
    · exact text_orElse_empty s
    · rfl

/-- A text that is missing or empty is the default either way. -/
theorem orElse_of_text (hdefault : default.isEmpty = false)
    (h : Record.optional es name default Record.text = .ok s) :
    (rawMember es name).orElse (.text default) = .text (if s.isEmpty then default else s) := by
  rw [rawMember]
  rcases Record.optional_eq_ok_iff.mp h with ⟨hnone, rfl⟩ | ⟨v, hv, htext⟩
  · rw [hnone, hdefault]
    rfl
  · rw [hv, Option.getD_some, Record.text_eq_ok_iff.mp htext, text_orElse_text]

/-- **A priority is the same either way**, unless a text stands for it. -/
theorem priority_agrees_iff (h : Record.optional es name 1 Record.integer = .ok n) :
    (if (rawMember es name).isNull then .int 1 else rawMember es name).agrees (.int n) = true ↔
      ∀ s, Entries.get? (.text name) es ≠ some (.text s) := by
  rw [rawMember]
  rcases Record.optional_eq_ok_iff.mp h with ⟨hnone, rfl⟩ | ⟨v, hv, hinteger⟩
  · simp [hnone, Value.isNull]
  · have given : v.isNull = false := by
      unfold Value.isNull
      split
      · nomatch hinteger
      · rfl
    rw [hv, Option.getD_some, given, if_neg Bool.false_ne_true,
      Record.integer_agrees_iff hinteger]
    simp

/-- **A flag is the same either way**, unless a word for false stands for it. -/
theorem flag_agrees_iff (h : Record.optional es name flag Record.flag = .ok b) :
    (Value.bool ((Entries.get? (.text name) es).getD (.bool flag)).truthy).agrees (.bool b) = true ↔
      ∀ s, Entries.get? (.text name) es = some (.text s) → Record.flag (.text s) = .ok true := by
  rw [Value.bool_agrees_bool]
  rcases Record.optional_eq_ok_iff.mp h with ⟨hnone, rfl⟩ | ⟨v, hv, hflag⟩
  · simp [hnone, Value.truthy]
  · rw [hv, Option.getD_some, Record.flag_truthy_iff hflag]
    refine forall_congr' fun s => ?_
    rw [Option.some.injEq]
    refine imp_congr_right ?_
    rintro rfl
    rw [hflag, Except.ok.injEq]

end Members

/-! ## The two drafts -/

/-- The members that the check of a record converts. -/
def convertedMembers : List HookMember := [.priority, .bypassAcl, .enabled]

/-- **A record whose values are what they are read as**: no text stands for the priority, and no
word for false for a flag. -/
structure Literal (raw : Value) : Prop where
  priority : ∀ s, raw.member? "priority" ≠ some (.text s)
  bypassAcl : ∀ s, raw.member? "bypass_acl" = some (.text s) → Record.flag (.text s) = .ok true
  enabled : ∀ s, raw.member? "enabled" = some (.text s) → Record.flag (.text s) = .ok true

section Drafts

variable {es : List (Scalar × Value)} {h : StoredHook}

/-- **All members that are not converted are the same either way.** -/
theorem ofRaw_frame (passed : StoredHook.Passed StoredHook.lenient es h) :
    (ofRaw es).id = (ofStored h).id ∧ (ofRaw es).entity = (ofStored h).entity ∧
      ∀ m, m ∉ convertedMembers → (ofRaw es).get m = (ofStored h).get m := by
  refine ⟨rawMember_of_optionalText passed.id, orElse_of_required passed.entity, fun m hm => ?_⟩
  cases m with
  | name => exact orElse_of_textOrNull passed.name
  | event => exact orElse_of_text (by decide) passed.event
  | language => exact orElse_of_text (by decide) passed.language
  | script => exact orElse_of_textOrNull passed.script
  | priority => exact absurd (by decide) hm
  | bypassAcl => exact absurd (by decide) hm
  | enabled => exact absurd (by decide) hm

/-- The drafts agree if the members do that are converted. -/
theorem same_ofRaw_iff (passed : StoredHook.Passed StoredHook.lenient es h) :
    (ofRaw es).same (ofStored h) = true ↔
      ∀ m ∈ convertedMembers, ((ofRaw es).get m).agrees ((ofStored h).get m) = true := by
  have typed := typed_ofStored h
  obtain ⟨hid, hentity, hget⟩ := ofRaw_frame passed
  rw [typed.same_iff_agrees]
  refine ⟨fun ⟨_, _, get⟩ m _ => get m, fun get => ⟨?_, ?_, fun m => ?_⟩⟩
  · rw [hid]
    exact Value.ofText?_agrees_ofText?.mpr rfl
  · rw [hentity]
    exact Value.text_agrees_text.mpr rfl
  · by_cases hm : m ∈ convertedMembers
    · exact get m hm
    · rw [hget m hm]
      exact Value.agrees_of_same (typed.member m).same_self

end Drafts

/-- **The two ways to read a record agree exactly if it is literal.**  Take any record that passes
the check of a stored hook.

* A draft can be made from the record as it is, and from the checked one.
* Both hold the same apart from priority and flags.
* They have the same content exactly if no text stands for the priority, and no word for false for a
  flag. -/
theorem readings_agree_iff {raw : Value} {h : StoredHook}
    (accepted : StoredHook.ofValue raw = .ok h) :
    ∃ d d', ofRecord raw = .ok d ∧ ofRecord h.toValue = .ok d' ∧
      (d.id = d'.id ∧ d.entity = d'.entity ∧ ∀ m, m ∉ convertedMembers → d.get m = d'.get m) ∧
      (d.same d' = true ↔ Literal raw) := by
  obtain ⟨es, rfl, passed⟩ := StoredHook.exists_passed_of_check accepted
  refine ⟨ofRaw es, ofStored h, ofRecord_map es, ofRecord_toValue h, ofRaw_frame passed, ?_⟩
  have priority := priority_agrees_iff passed.priority
  have bypassAcl := flag_agrees_iff passed.bypassAcl
  have enabled := flag_agrees_iff passed.enabled
  rw [same_ofRaw_iff passed]
  constructor
  · intro get
    exact ⟨priority.mp (get .priority (by decide)), bypassAcl.mp (get .bypassAcl (by decide)),
      enabled.mp (get .enabled (by decide))⟩
  · intro literal m hm
    cases m with
    | priority => exact priority.mpr literal.priority
    | bypassAcl => exact bypassAcl.mpr literal.bypassAcl
    | enabled => exact enabled.mpr literal.enabled
    | _ => exact absurd hm (by decide)

/-- A record with a truth value as priority, a number and a word as flags, and no name. -/
def laxRecord : Value := .object [("id", .text "h1"), ("entity", .text "orders"), ("name", .null),
  ("priority", .bool true), ("bypass_acl", .int 1), ("enabled", .text "Yes"), ("note", .list [])]

/-- A record that says in words that it is not enabled. -/
def disabledRecord : Value := .object [("entity", .text "orders"), ("enabled", .text "false")]

/-- The drafts of the lax record have the same content, those of the other one do not. -/
theorem readings_agree_iff_laxRecord :
    (∃ h d d', StoredHook.ofValue laxRecord = .ok h ∧ ofRecord laxRecord = .ok d ∧
      ofRecord h.toValue = .ok d' ∧ d.same d' = true) ∧
    ∃ h d d', StoredHook.ofValue disabledRecord = .ok h ∧ ofRecord disabledRecord = .ok d ∧
      ofRecord h.toValue = .ok d' ∧ d.entity = d'.entity ∧ d.same d' = false := by
  obtain ⟨lax, hlax⟩ : ∃ h, StoredHook.ofValue laxRecord = .ok h := ⟨_, rfl⟩
  obtain ⟨disabled, hdisabled⟩ : ∃ h, StoredHook.ofValue disabledRecord = .ok h := ⟨_, rfl⟩
  refine ⟨?_, ?_⟩
  · obtain ⟨d, d', hd, hd', -, agree⟩ := readings_agree_iff hlax
    refine ⟨lax, d, d', hlax, hd, hd', agree.mpr ⟨nofun, nofun, fun s hs => ?_⟩⟩
    obtain rfl : "Yes" = s := Value.text_injective (Option.some.inj hs)
    decide
  · obtain ⟨d, d', hd, hd', ⟨-, hentity, -⟩, agree⟩ := readings_agree_iff hdisabled
    refine ⟨disabled, d, d', hdisabled, hd, hd', hentity, Bool.eq_false_iff.mpr fun hsame => ?_⟩
    exact absurd ((agree.mp hsame).enabled "false" rfl) (by decide)

/-- **The word for false is read as true**: a record whose flag is the text `false` passes the check
with the flag off, and its own draft has it on. -/
theorem word_for_false_read_as_true : ∃ h d d', StoredHook.ofValue disabledRecord = .ok h ∧
    ofRecord disabledRecord = .ok d ∧ ofRecord h.toValue = .ok d' ∧
      d.enabled = .bool true ∧ d'.enabled = .bool false ∧ d.same d' = false :=
  ⟨_, _, _, rfl, rfl, rfl, rfl, rfl, by decide⟩

end HookDraft

end AdminConsole
