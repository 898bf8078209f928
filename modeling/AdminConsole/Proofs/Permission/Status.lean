import AdminConsole.Proofs.Permission.Newest

/-!
# Proofs/Permission/Status — what the answers to a load leave

Whether a load runs, how it failed and what it brought are kept apart.  An answer that is taken sets
the cells and not the error, a failure sets the error and not the cells, so what came first is still
there.  `LoadRun` are the runs in which loads are begun and answered in any order, along with the
calls that were made.

* The error is that of the failure taken last, the cells are those of the rows taken last, both
  since the latest load was begun (`LoadRun.reflects`).
* So an answer leaves the matrix loaded exactly if no failure of its load was taken before, and a
  failure leaves exactly those cells open to edits that an answer to its load brought before
  (`loaded_and_editable_iff`).  `late_answer_not_loaded` is an answer after a failure.
-/

namespace AdminConsole.Matrix

/-! ## Calls about loads -/

/-- A call about a load; an answer or a failure is taken or ignored. -/
inductive LoadCall where
  | began (tag : Int) (subject : Value)
  | answered (tag : Int) (rows : Value) (taken : Bool)
  | failed (tag : Int) (error : Fault) (taken : Bool)

namespace LoadCall

def isBegin : LoadCall → Bool
  | began .. => true
  | _ => false

def isTaken : LoadCall → Bool
  | answered _ _ taken | failed _ _ taken => taken
  | _ => false

/-- The rows of an answer that was taken. -/
def rows? : LoadCall → Option PermissionRows
  | answered _ rows true => (readRows rows).toOption
  | _ => none

/-- The error of a failure that was taken. -/
def error? : LoadCall → Option Fault
  | failed _ error true => some error
  | _ => none

end LoadCall

/-- The calls since the latest load was begun, the last one first. -/
def sinceBegun (calls : List LoadCall) : List LoadCall := calls.takeWhile fun c => !c.isBegin

/-- **What the latest load brought**: the rows that were taken last. -/
def shown (calls : List LoadCall) : PermissionRows :=
  ((sinceBegun calls).findSome? LoadCall.rows?).getD []

/-- Whether an answer was taken; one that cannot be read raises and is not. -/
def wasTaken : Except Fault (Matrix × Bool) → Bool
  | .ok (_, taken) => taken
  | .error _ => false

/-- **Runs of loads**, with the calls so far.  Answers and failures come under any tags, in any order
and any number of times. -/
inductive LoadRun : Matrix → List LoadCall → Prop
  | new {n : Value} {m : Matrix} (created : create n = .ok m) : LoadRun m []
  | beginLoad {m : Matrix} {calls : List LoadCall} (run : LoadRun m calls) (subject : Value) :
      LoadRun (m.beginLoad subject).1 (.began (m.beginLoad subject).2 subject :: calls)
  | applyBaseline {m : Matrix} {calls : List LoadCall} (run : LoadRun m calls) (tag : Int)
      (rows : Value) : LoadRun (m.after (m.applyBaseline tag rows))
        (.answered tag rows (wasTaken (m.applyBaseline tag rows)) :: calls)
  | failLoad {m : Matrix} {calls : List LoadCall} (run : LoadRun m calls) (tag : Int)
      (error : Fault) : LoadRun (m.failLoad tag error).1
        (.failed tag error (m.failLoad tag error).2 :: calls)

variable {m : Matrix} {calls later earlier : List LoadCall}

theorem sinceBegun_cons_of_not_begin {c : LoadCall} (h : c.isBegin = false)
    (calls : List LoadCall) : sinceBegun (c :: calls) = c :: sinceBegun calls :=
  List.takeWhile_cons_of_pos (by simp [h])

/-- A call that is not taken brings no rows and no error. -/
theorem LoadCall.eq_none_of_ignored {c : LoadCall} (h : c.isTaken = false) :
    c.rows? = none ∧ c.error? = none := by
  cases c with
  | began => exact ⟨rfl, rfl⟩
  | answered => obtain rfl : _ = false := h; exact ⟨rfl, rfl⟩
  | failed => obtain rfl : _ = false := h; exact ⟨rfl, rfl⟩

/-- The error of a call is that of a failure. -/
theorem LoadCall.error?_eq_none_iff {c : LoadCall} :
    c.error? = none ↔ ∀ tag error, c ≠ .failed tag error true := by
  rcases c with _ | _ | ⟨tag, error, _ | _⟩ <;> simp [LoadCall.error?]

/-- A call without rows leaves what is shown. -/
theorem shown_cons_of_rows?_eq_none {c : LoadCall} (begin : c.isBegin = false)
    (rows : c.rows? = none) : shown (c :: calls) = shown calls := by
  rw [shown, sinceBegun_cons_of_not_begin begin calls, List.findSome?_cons, rows]
  rfl

/-! ## What a matrix keeps of its calls -/

/-- The error and the cells are those that were taken last, and a load that has an end is over. -/
structure Reflects (calls : List LoadCall) (m : Matrix) : Prop where
  error : m.loadError = (sinceBegun calls).findSome? LoadCall.error?
  cells : m.current = shown calls
  idle : ∀ c ∈ sinceBegun calls, c.isTaken = true → m.loading = false

/-- A call that is ignored leaves nothing. -/
theorem Reflects.ignored (h : Reflects calls m) {c : LoadCall} (begin : c.isBegin = false)
    (ignored : c.isTaken = false) : Reflects (c :: calls) m := by
  obtain ⟨hrows, herror⟩ := LoadCall.eq_none_of_ignored ignored
  have hsince := sinceBegun_cons_of_not_begin begin calls
  refine ⟨?_, ?_, ?_⟩
  · rw [hsince, List.findSome?_cons, herror]
    exact h.error
  · rw [shown_cons_of_rows?_eq_none begin hrows]
    exact h.cells
  · rw [hsince]
    refine List.forall_mem_cons.mpr ⟨fun htaken => ?_, h.idle⟩
    nomatch ignored.symm.trans htaken

theorem Reflects.beginLoad (calls : List LoadCall) (m : Matrix) (subject : Value) :
    Reflects (.began (m.beginLoad subject).2 subject :: calls) (m.beginLoad subject).1 :=
  ⟨rfl, rfl, nofun⟩

theorem Reflects.applyBaseline (h : Reflects calls m) (tag : Int) (rows : Value) :
    Reflects (.answered tag rows (wasTaken (m.applyBaseline tag rows)) :: calls)
      (m.after (m.applyBaseline tag rows)) := by
  rcases m.applyBaseline_cases tag rows with ⟨-, ha⟩ | ⟨-, ⟨f, ha⟩ | ⟨rows', hr, ha⟩⟩
  · rw [ha]
    exact h.ignored rfl rfl
  · rw [ha]
    exact h.ignored rfl rfl
  · have hsince := sinceBegun_cons_of_not_begin (c := .answered tag rows true) rfl calls
    have hrows : LoadCall.rows? (.answered tag rows true) = some rows' := by
      rw [LoadCall.rows?, hr]
      rfl
    rw [ha]
    change Reflects (.answered tag rows true :: calls) (m.install rows')
    refine ⟨?_, ?_, fun _ _ _ => rfl⟩
    · rw [hsince]
      exact h.error
    · rw [shown, hsince, List.findSome?_cons, hrows]
      rfl

theorem Reflects.failLoad (h : Reflects calls m) (tag : Int) (error : Fault) :
    Reflects (.failed tag error (m.failLoad tag error).2 :: calls) (m.failLoad tag error).1 := by
  rw [Matrix.failLoad]
  split
  · refine ⟨?_, ?_, fun _ _ _ => rfl⟩
    · rw [sinceBegun_cons_of_not_begin rfl calls]
      rfl
    · rw [shown_cons_of_rows?_eq_none rfl rfl]
      exact h.cells
  · exact h.ignored rfl rfl

theorem LoadRun.reflects (run : LoadRun m calls) : Reflects calls m := by
  induction run with
  | new created =>
      rw [eq_of_create created]
      exact ⟨rfl, rfl, nofun⟩
  | beginLoad _ subject _ => exact .beginLoad _ _ subject
  | applyBaseline _ tag rows ih => exact ih.applyBaseline tag rows
  | failLoad _ tag error ih => exact ih.failLoad tag error

/-! ## Cells that can be edited -/

/-- Some flag of an entity can be turned over. -/
def Editable (m : Matrix) (entity : String) : Prop :=
  ∃ permission answer, m.toggle entity permission = .ok answer

theorem editable_iff {entity : String} :
    m.Editable entity ↔ m.loading = false ∧ entity ∈ Entries.keys m.current := by
  constructor
  · rintro ⟨permission, answer, htoggle⟩
    rcases m.toggle_cases entity permission with ⟨reason, hrefused⟩ | ⟨old, hold, hloading, -⟩
    · nomatch htoggle.symm.trans hrefused
    · exact ⟨hloading, Entries.mem_keys_iff.mpr ⟨old, hold⟩⟩
  · rintro ⟨hloading, hentity⟩
    obtain ⟨old, hold⟩ := Entries.mem_keys_iff.mp hentity
    have hread : Flags.vocabulary.contains "read" = true := by decide
    rw [Editable]
    refine ⟨"read", ?_⟩
    rw [toggle, hread, hloading, hold]
    exact ⟨_, rfl⟩

/-- **The cells that can be edited are those that the latest load brought.** -/
theorem Reflects.editable_iff_mem (h : Reflects calls m) {entity : String} :
    m.Editable entity ↔ entity ∈ Entries.keys (shown calls) := by
  rw [editable_iff, h.cells]
  refine and_iff_right_of_imp fun hentity => ?_
  rw [shown] at hentity
  cases hrows : (sinceBegun calls).findSome? LoadCall.rows? with
  | none =>
      rw [hrows] at hentity
      nomatch hentity
  | some rows =>
      -- rows came with an answer that was taken
      obtain ⟨c, hc, hsome⟩ := List.exists_of_findSome?_eq_some hrows
      refine h.idle c hc (Bool.not_eq_false _ |>.mp fun hignored => ?_)
      nomatch hsome.symm.trans (LoadCall.eq_none_of_ignored hignored).1

/-- **Calls that bring no rows** leave what is shown, unless another load is begun. -/
theorem mem_shown_append_iff {entity : String} (rows : ∀ c ∈ later, c.rows? = none) :
    entity ∈ Entries.keys (shown (later ++ earlier)) ↔
      (∀ c ∈ later, c.isBegin = false) ∧ entity ∈ Entries.keys (shown earlier) := by
  induction later with
  | nil => simp
  | cons c later ih =>
      obtain ⟨hrows, hlater⟩ := List.forall_mem_cons.mp rows
      rw [List.forall_mem_cons, List.cons_append]
      cases hbegin : c.isBegin with
      | false =>
          rw [shown_cons_of_rows?_eq_none hbegin hrows, ih hlater]
          simp
      | true => simp [shown, sinceBegun, hbegin]

/-! ## The status after an answer -/

/-- **The status of a load follows what came first.**  After any run of loads:

* when an answer was taken last, there is no error exactly if no failure of the same load was taken
  before, and the matrix is loaded exactly if it has a subject too;
* when a failure was taken, and no answer after it, an entity can be edited exactly if no load was
  begun since and an answer to the failed load had brought it before. -/
theorem loaded_and_editable_iff (run : LoadRun m calls) :
    (∀ tag rows earlier, calls = .answered tag rows true :: earlier →
      (m.loadError = none ↔ ∀ tag error, .failed tag error true ∉ sinceBegun earlier) ∧
      (m.loaded = true ↔ m.subject.isNull = false ∧
        ∀ tag error, .failed tag error true ∉ sinceBegun earlier)) ∧
    ∀ later tag error earlier, calls = later ++ .failed tag error true :: earlier →
      (∀ tag rows, .answered tag rows true ∉ later) → ∀ entity,
        (m.Editable entity ↔ (∀ tag subject, .began tag subject ∉ later) ∧
          entity ∈ Entries.keys (shown earlier)) := by
  have h := run.reflects
  refine ⟨?_, ?_⟩
  · rintro tag rows earlier rfl
    have hsince := sinceBegun_cons_of_not_begin (c := .answered tag rows true) rfl earlier
    have hidle : m.loading = false := h.idle _ (hsince ▸ List.mem_cons_self) rfl
    have herror : m.loadError = none ↔
        ∀ tag error, .failed tag error true ∉ sinceBegun earlier := by
      -- the answer itself has no error
      have hbefore : m.loadError = (sinceBegun earlier).findSome? LoadCall.error? := by
        rw [h.error, hsince]
        rfl
      rw [hbefore, List.findSome?_eq_none_iff]
      refine ⟨fun hnone tag error hfailed => ?_, fun hnone c hc => ?_⟩
      · exact LoadCall.error?_eq_none_iff.mp (hnone _ hfailed) tag error rfl
      · exact LoadCall.error?_eq_none_iff.mpr fun tag error hfailed => hnone tag error (hfailed ▸ hc)
    refine ⟨herror, ?_⟩
    rw [← herror, loaded, hidle]
    simp
  · rintro later tag error earlier rfl notaken entity
    have hlater : ∀ c ∈ later, c.rows? = none := by
      rintro (_ | ⟨tag, rows, _ | _⟩ | _) hc
      · rfl
      · rfl
      · exact absurd hc (notaken tag rows)
      · rfl
    rw [h.editable_iff_mem, mem_shown_append_iff hlater, shown_cons_of_rows?_eq_none rfl rfl]
    refine and_congr_left' ⟨fun hbegin tag subject hbegan => ?_, fun hbegan c hc => ?_⟩
    · nomatch hbegin _ hbegan
    · cases c with
      | began tag subject => exact absurd hc (hbegan tag subject)
      | answered => rfl
      | failed => rfl

/-! ## A load that times out -/

/-- The server did not answer in time. -/
def timeout : Fault :=
  .console (.connection "GET" "/api/acl/alice" ⟨"ReadTimeout", "timed out", none⟩ none)

/-- The rows of alice. -/
def lateRows : Value := .object [("orders", .object [("read", .bool false)])]

/-- The matrix in which the load of the rows of alice timed out. -/
def timedOut : Matrix where
  subject := .text "alice"
  sequencer := ⟨1⟩
  loadError := some timeout

/-- The matrix of alice after an answer and a timeout of the same load, in either order. -/
def answeredAndTimedOut : Matrix where
  subject := .text "alice"
  baseline := [("orders", [(.text "read", .bool false)])]
  current := [("orders", [(.text "read", .bool false)])]
  sequencer := ⟨1⟩
  loadError := some timeout

/-- The matrix of alice after the load that timed out was begun again and answered. -/
def retried : Matrix where
  subject := .text "alice"
  baseline := [("orders", [(.text "read", .bool false)])]
  current := [("orders", [(.text "read", .bool false)])]
  sequencer := ⟨2⟩

theorem began_alice : LoadRun { subject := .text "alice", sequencer := ⟨1⟩, loading := true }
    [.began 1 (.text "alice")] :=
  .beginLoad (.new (n := .int 4) rfl) (.text "alice")

/-- A timeout leaves nothing to edit unless an answer came before, and another load is loaded. -/
theorem loaded_and_editable_iff_timedOut :
    LoadRun timedOut [.failed 1 timeout true, .began 1 (.text "alice")] ∧
    (∀ entity, ¬ timedOut.Editable entity) ∧
    LoadRun answeredAndTimedOut
      [.failed 1 timeout true, .answered 1 lateRows true, .began 1 (.text "alice")] ∧
    answeredAndTimedOut.Editable "orders" ∧
    LoadRun retried [.answered 2 lateRows true, .began 2 (.text "alice"), .failed 1 timeout true,
      .began 1 (.text "alice")] ∧
    retried.loaded = true := by
  have failed : LoadRun timedOut _ := began_alice.failLoad 1 timeout
  have answered : LoadRun answeredAndTimedOut _ :=
    (began_alice.applyBaseline 1 lateRows).failLoad 1 timeout
  have again : LoadRun retried _ := (failed.beginLoad (.text "alice")).applyBaseline 2 lateRows
  refine ⟨failed, fun entity => ?_, answered, ?_, again, ?_⟩
  · rw [(loaded_and_editable_iff failed).2 [] 1 timeout _ rfl nofun entity]
    rintro ⟨-, hentity⟩
    nomatch hentity
  · refine ((loaded_and_editable_iff answered).2 [] 1 timeout _ rfl nofun "orders").mpr ⟨nofun, ?_⟩
    exact List.mem_singleton.mpr rfl
  · exact ((loaded_and_editable_iff again).1 2 lateRows _ rfl).2.mpr ⟨rfl, fun _ _ => nofun⟩

/-- **The late answer to a load that timed out** is taken, and the matrix is not loaded: the error of
the timeout stays. -/
theorem late_answer_not_loaded :
    LoadRun answeredAndTimedOut
      [.answered 1 lateRows true, .failed 1 timeout true, .began 1 (.text "alice")] ∧
    answeredAndTimedOut.loaded = false ∧ answeredAndTimedOut.loadError = some timeout := by
  have answered : LoadRun answeredAndTimedOut _ :=
    (began_alice.failLoad 1 timeout).applyBaseline 1 lateRows
  exact ⟨answered, rfl, rfl⟩

end AdminConsole.Matrix
