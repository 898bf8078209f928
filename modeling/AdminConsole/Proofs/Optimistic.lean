import AdminConsole.Proofs.Entries
import AdminConsole.Proofs.Faults
import AdminConsole.Session.Steps
import Mathlib.Logic.Relation

/-!
# Proofs/Optimistic — what a change leaves behind

A change of a value that is not shown yet goes through its writer, and the answer decides what is
left (`apply_of_changed`).  Two things leave a field that is not settled: a fault that is no console
error passes through the change and leaves it in flight, and a null that was written is not taken
for a value in flight, so it is never committed.  Every other change is committed or taken back.

A session hands its role fields out again and again.  A field without a change in flight takes the
role that it is handed out with, and one with a change in flight stays as it is, so a change that
was broken off is shown from then on (`Holds.handsOut`).  Both together are `settled_iff`.
-/

namespace AdminConsole

open Relation (ReflTransGen)

namespace OptimisticField

variable {σ κ : Type} {f after : OptimisticField} {v : Value}

/-! ## The ways a change ends -/

/-- The field while a value is written. -/
def proposed (f : OptimisticField) (v : Value) : OptimisticField :=
  { f with previous := f.committed, pending := v }

/-- The field after the writer answered. -/
def ended (f : OptimisticField) (v : Value) : Except Fault Unit → OptimisticField
  | .ok () => (f.proposed v).confirm
  | .error (.console _) => (f.proposed v).rollback
  | .error _ => f.proposed v

/-- The same writer, with the values that it was asked to write. -/
def Writer.noted (writer : Writer σ) : Writer (σ × List Value) := fun v f st =>
  let (answer, st') := writer v f st.1
  (answer, st', st.2 ++ [v])

/-- A writer returns, raises a console error, or raises something else. -/
theorem answer_cases (answer : Except Fault Unit) :
    answer = .ok () ∨ (∃ e, answer = .error (.console e)) ∨
      ∃ fault, answer = .error fault ∧ fault.isConsole = false := by
  match answer with
  | .ok () => exact .inl rfl
  | .error (.console e) => exact .inr (.inl ⟨e, rfl⟩)
  | .error (.invalid r) => exact .inr (.inr ⟨_, rfl, rfl⟩)
  | .error (.mishap m) => exact .inr (.inr ⟨_, rfl, rfl⟩)

/-- **A value that is shown already** is not written. -/
theorem apply_of_shown (h : v.same f.displayed = true) (writer : Writer σ) (st : σ) :
    f.apply writer v st = (.ok (.skipped (Text.capitalize f.label ++ " unchanged")), f, st) := by
  simp [apply, propose, h]

/-- **Any other value** is written, while it is shown. -/
theorem apply_of_changed (h : v.same f.displayed = false) {writer : Writer σ} {st st' : σ}
    {answer : Except Fault Unit} (written : writer v (f.proposed v) st = (answer, st')) :
    ∃ result, f.apply writer v st = (result, f.ended v answer, st') := by
  have hpropose : f.propose v = (f.proposed v, true) := by simp [propose, proposed, h]
  match answer with
  | .ok () => exact ⟨_, by simp only [apply, hpropose, written]; rfl⟩
  | .error (.console e) => exact ⟨_, by simp only [apply, hpropose, written]; rfl⟩
  | .error (.invalid r) => exact ⟨_, by simp only [apply, hpropose, written]; rfl⟩
  | .error (.mishap m) => exact ⟨_, by simp only [apply, hpropose, written]; rfl⟩

/-! ## Settled fields -/

/-- **The change ended**: nothing is in flight, and the field holds and shows what was written if
the writer returned, and what it held and showed before if it raised. -/
structure Settled (before : OptimisticField) (v : Value) (answer : Except Fault Unit)
    (after : OptimisticField) : Prop where
  idle : after.inFlight = false
  stored : answer = .ok () → after.committed = v ∧ after.displayed = v
  restored : ∀ fault, answer = .error fault →
    after.committed = before.committed ∧ after.displayed = before.displayed

theorem displayed_of_idle (idle : f.inFlight = false) : f.displayed = f.committed := by
  simp [displayed, idle]

theorem inFlight_proposed : (f.proposed v).inFlight = !v.isNull := rfl

/-- Null is nothing in flight: a null that was proposed is neither confirmed nor taken back. -/
theorem ended_of_isNull (h : v.isNull = true) (answer : Except Fault Unit) :
    f.ended v answer = f.proposed v := by
  have idle : (f.proposed v).inFlight = false := by rw [inFlight_proposed, h]; rfl
  match answer with
  | .ok () => simp [ended, confirm, idle]
  | .error (.console e) => simp [ended, rollback, idle]
  | .error (.invalid r) => rfl
  | .error (.mishap m) => rfl

example : (OptimisticField.apply (fun _ _ _ => (.ok (), ())) { committed := .text "user" }
    .null ()).2.1.committed = .text "user" := by decide

/-- A value that was written is committed. -/
theorem ended_ok (h : v.isNull = false) :
    f.ended v (.ok ()) = { f with committed := v, pending := .null, previous := .null } := by
  have flying : (f.proposed v).inFlight = true := by rw [inFlight_proposed, h]; rfl
  rw [ended, confirm, if_pos flying]
  rfl

/-- After a console error, the value is taken back. -/
theorem ended_console (h : v.isNull = false) (e : ConsoleError) :
    f.ended v (.error (.console e)) = { f with pending := .null, previous := .null } := by
  have flying : (f.proposed v).inFlight = true := by rw [inFlight_proposed, h]; rfl
  rw [ended, rollback, if_pos flying]
  rfl

/-- After any other fault, the value is left in flight. -/
theorem ended_of_not_isConsole {fault : Fault} (h : fault.isConsole = false) :
    f.ended v (.error fault) = f.proposed v := by
  cases fault with
  | console e => cases h
  | invalid r => rfl
  | mishap m => rfl

/-- **Something stays in flight** exactly if it is a value whose write was broken off. -/
theorem inFlight_ended_iff (answer : Except Fault Unit) :
    (f.ended v answer).inFlight = true ↔
      v.isNull = false ∧ ¬ FaultsPass Fault.isConsole answer := by
  cases hnull : v.isNull with
  | true =>
    rw [ended_of_isNull hnull, inFlight_proposed, hnull]
    simp
  | false =>
    rcases answer_cases answer with rfl | ⟨e, rfl⟩ | ⟨fault, rfl, hfault⟩
    · rw [ended_ok hnull]
      exact iff_of_false nofun fun h => h.2 (faultsPass_ok ())
    · rw [ended_console hnull]
      exact iff_of_false nofun fun h => h.2 (faultsPass_error_iff.mpr rfl)
    · rw [ended_of_not_isConsole hfault, inFlight_proposed, hnull, faultsPass_error_iff, hfault]
      simp

theorem eq_null_of_isNull (h : v.isNull = true) : v = .null := by
  cases v with
  | scalar s => cases s <;> first | rfl | cases h
  | _ => cases h

/-- **A change settles the field** unless it writes a null or is broken off. -/
theorem settled_ended_iff (idle : f.inFlight = false) (changed : v.same f.displayed = false)
    (answer : Except Fault Unit) : Settled f v answer (f.ended v answer) ↔
      if v.isNull then answer ≠ .ok () else FaultsPass Fault.isConsole answer := by
  have shown := displayed_of_idle idle
  cases hnull : v.isNull with
  | true =>
    obtain rfl := eq_null_of_isNull hnull
    rw [ended_of_isNull hnull, if_pos rfl]
    -- the value that was held is not null, or the change would have been skipped
    have hcommitted : f.committed ≠ .null := by
      rw [← shown]
      intro h
      rw [h] at changed
      exact absurd changed (by decide)
    constructor
    · rintro ⟨-, stored, -⟩ returned
      exact hcommitted (stored returned).1
    · intro raised
      exact ⟨rfl, fun returned => absurd returned raised, fun _ _ => ⟨rfl, shown.symm⟩⟩
  | false =>
    rw [if_neg Bool.false_ne_true]
    rcases answer_cases answer with rfl | ⟨e, rfl⟩ | ⟨fault, rfl, hfault⟩
    · rw [ended_ok hnull]
      exact iff_of_true ⟨rfl, fun _ => ⟨rfl, rfl⟩, nofun⟩ (faultsPass_ok ())
    · rw [ended_console hnull]
      exact iff_of_true ⟨rfl, nofun, fun _ _ => ⟨rfl, shown.symm⟩⟩ (faultsPass_error_iff.mpr rfl)
    · have broken : ¬ FaultsPass Fault.isConsole (.error fault : Except Fault Unit) := by
        rw [faultsPass_error_iff, hfault]
        exact Bool.false_ne_true
      refine iff_of_false (fun settled => ?_) broken
      have flying := (inFlight_ended_iff (f := f) (.error fault)).mpr ⟨hnull, broken⟩
      exact absurd (settled.idle.symm.trans flying) Bool.false_ne_true

/-! ## Fields that a session hands out -/

/-- The field is in step with a role: it holds and shows the role, with no change in flight. -/
structure InStep (f : OptimisticField) (role : Value) : Prop where
  idle : f.inFlight = false
  committed : f.committed = role
  displayed : f.displayed = role

/-- A session that handed out one role field more. -/
def HandsOut (s s' : Session κ) : Prop := ∃ user role, s' = (s.roleField user role).2

/-- The session holds a field of the user, in flight exactly if `f` is, and then it is `f`. -/
def Holds (s : Session κ) (user : String) (f : OptimisticField) : Prop :=
  ∃ g, Entries.get? user s.roleFields = some g ∧ g.inFlight = f.inFlight ∧
    (f.inFlight = true → g = f)

variable {s s' : Session κ} {user : String}

/-- A field that is held, as it is handed out. -/
theorem roleField_of_get? {g : OptimisticField} (h : Entries.get? user s.roleFields = some g)
    (role : Value) :
    (s.roleField user role).1 = if g.inFlight then g else { g with committed := role } := by
  simp [Session.roleField, h]

/-- **Handing out a field** leaves the fields of the other users, and one with a change in flight
as it is. -/
theorem Holds.roleField (h : Holds s user f) (other : String) (role : Value) :
    Holds (s.roleField other role).2 user f := by
  obtain ⟨g, hg, hflight, heq⟩ := h
  have hfields : (s.roleField other role).2.roleFields =
      Entries.put other (s.roleField other role).1 s.roleFields := rfl
  by_cases hu : user = other
  · subst hu
    refine ⟨(s.roleField user role).1, by rw [hfields, Entries.get?_put_self], ?_⟩
    rw [roleField_of_get? hg role]
    cases hf : f.inFlight with
    | true => simp [hf, heq hf]
    | false =>
      have hg : g.inFlight = false := hflight.trans hf
      rw [if_neg (by simp [hg])]
      exact ⟨hg, nofun⟩
  · exact ⟨g, by rw [hfields, Entries.get?_put_of_ne hu, hg], hflight, heq⟩

theorem Holds.handsOut (h : Holds s user f) (later : ReflTransGen HandsOut s s') :
    Holds s' user f := by
  induction later with
  | refl => exact h
  | tail _ step ih =>
    obtain ⟨other, role, rfl⟩ := step
    exact ih.roleField other role

/-- A field with a change in flight is handed out as it is. -/
theorem Holds.roleField_eq (h : Holds s user f) (flying : f.inFlight = true) (role : Value) :
    (s.roleField user role).1 = f := by
  obtain ⟨g, hg, -, heq⟩ := h
  obtain rfl := heq flying
  rw [roleField_of_get? hg, if_pos flying]

/-- **A field takes the role of the server** exactly if it has no change in flight. -/
theorem Holds.inStep_iff (h : Holds s user f) (role : Value) :
    InStep (s.roleField user role).1 role ↔ f.inFlight = false := by
  obtain ⟨g, hg, hflight, -⟩ := h
  rw [roleField_of_get? hg, ← hflight]
  cases hf : g.inFlight with
  | true => exact iff_of_false (fun h => absurd (h.idle.symm.trans hf) Bool.false_ne_true) nofun
  | false => exact iff_of_true ⟨hf, rfl, displayed_of_idle hf⟩ rfl

/-- **A change settles its field unless it writes a null or is broken off.**  Take any field
without a change in flight, any writer and any value.

* A value that is shown already is not written, and nothing changes.
* Any other value is written once.  The field is settled exactly if the value is not null and the
  writer returned or raised a console error, or the value is null and the writer raised.
* However often its session hands out role fields afterwards, the field takes the role of the
  server exactly unless the write of a value that is not null was broken off; then it is handed out
  as the change left it. -/
theorem settled_iff (idle : f.inFlight = false) (writer : Writer σ) (v : Value) (st : σ) :
    (v.same f.displayed = true → f.apply writer.noted v (st, []) =
      (.ok (.skipped (Text.capitalize f.label ++ " unchanged")), f, st, [])) ∧
    (v.same f.displayed = false → ∃ answer st' result after,
      writer v (f.proposed v) st = (answer, st') ∧
      f.apply writer.noted v (st, []) = (result, after, st', [v]) ∧
      (Settled f v answer after ↔
        if v.isNull then answer ≠ .ok () else FaultsPass Fault.isConsole answer) ∧
      ∀ {κ : Type} {s s' : Session κ} (user : String) (role : Value),
        Entries.get? user s.roleFields = some after → ReflTransGen HandsOut s s' →
        (InStep (s'.roleField user role).1 role ↔
          v.isNull = true ∨ FaultsPass Fault.isConsole answer) ∧
        (¬ InStep (s'.roleField user role).1 role → (s'.roleField user role).1 = after)) := by
  refine ⟨fun shown => apply_of_shown shown writer.noted (st, []), fun changed => ?_⟩
  rcases written : writer v (f.proposed v) st with ⟨answer, st'⟩
  have noted : writer.noted v (f.proposed v) (st, []) = (answer, st', [v]) := by
    simp [Writer.noted, written]
  obtain ⟨result, happly⟩ := apply_of_changed changed noted
  refine ⟨answer, st', result, f.ended v answer, rfl, happly, settled_ended_iff idle changed answer,
    fun user role held later => ?_⟩
  have holds := Holds.handsOut ⟨_, held, rfl, fun _ => rfl⟩ later
  have hstep := holds.inStep_iff role
  refine ⟨?_, fun behind => holds.roleField_eq ?_ role⟩
  · rw [hstep, ← Bool.not_eq_true, inFlight_ended_iff, ← Bool.not_eq_true]
    tauto
  · rwa [hstep, Bool.not_eq_false] at behind

/-- The role of a user, as the server reported it. -/
def userRole : OptimisticField := { committed := .text "user", label := "role" }

/-- A writer that raises a fault. -/
def refusing (fault : Fault) : Writer Unit := fun _ _ _ => (.error fault, ())

/-- A session with one role field. -/
def sessionWith (f : OptimisticField) : Session Unit := { roles := .held [("alice", f)] }

/-- A refused change is taken back, and the field takes the role that the server reports later. -/
theorem settled_iff_refused : ∃ after,
    (userRole.apply (refusing (.console (.general "busy" .empty []))).noted (.text "admin")
      ((), [])).2 = (after, (), [.text "admin"]) ∧
    Settled userRole (.text "admin") (.error (.console (.general "busy" .empty []))) after ∧
    InStep (((sessionWith after).roleField "alice" (.text "user")).2.roleField "alice"
      (.text "guest")).1 (.text "guest") := by
  obtain ⟨-, changed⟩ := settled_iff (f := userRole) rfl
    (refusing (.console (.general "busy" .empty []))) (.text "admin") ()
  obtain ⟨answer, st', result, after, hasked, happly, hsettled, hlater⟩ := changed (by decide)
  obtain ⟨rfl, rfl⟩ := Prod.mk.inj hasked
  have regular : FaultsPass Fault.isConsole
      (.error (.console (.general "busy" .empty [])) : Except Fault Unit) := by decide
  exact ⟨after, by rw [happly], hsettled.mpr regular,
    (hlater (s := sessionWith after) "alice" (.text "guest") rfl
      (.single ⟨"alice", .text "user", rfl⟩)).1.mpr (.inr regular)⟩

/-- The field after a change that was broken off. -/
def stuckRole : OptimisticField :=
  { userRole with pending := .text "admin", previous := .text "user" }

/-- **A change stays in flight after its writer raised**: the field shows the value that was not
stored, and does not take the role of the server. -/
theorem broken_change_stays_in_flight :
    userRole.inFlight = false ∧ (Value.text "admin").same userRole.displayed = false ∧
    userRole.apply (refusing .unreadInteger) (.text "admin") () =
      (.error .unreadInteger, stuckRole, ()) ∧
    stuckRole.inFlight = true ∧ stuckRole.displayed = .text "admin" ∧
    ((sessionWith stuckRole).roleField "alice" (.text "user")).1 = stuckRole := by
  decide

end OptimisticField

end AdminConsole
