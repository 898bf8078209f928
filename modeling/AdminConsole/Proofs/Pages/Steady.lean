import AdminConsole.Proofs.Pages.Harmless
import Mathlib.Logic.Basic

/-!
# Proofs/Pages/Steady — pages that sign nobody in or out

The standing of a session is its account, and whether there is a connection.  A page is `Steady` if
a run of it keeps the standing, whatever the server answers, and does not end with a refusal.

Steady pages make up steady pages: one rule for each way of putting pages together, and one for
each step of a page.  What a page does with the result of a call is told by the call alone: console
errors are values (`ask`), and any other fault is no refusal (`Gives`, `Harmless`).
-/

namespace AdminConsole

/-! ## The standing of a session -/

namespace Session

variable {s : Session Client}

/-- Who is signed in, and whether there is a connection. -/
def standing (s : Session Client) : Value × Bool := (s.account, s.client.get?.isSome)

theorem standing_setNote {name : String} (h : name ≠ accountKey) (v : Value) :
    (s.setNote name v).standing = s.standing :=
  congrArg (·, s.client.get?.isSome) (note_setNote_of_ne s h.symm v)

theorem standing_dropNote {name : String} (h : name ≠ accountKey) :
    (s.dropNote name).standing = s.standing := by
  simp only [standing, account, note, note?, dropNote, Entries.get?_erase_of_ne h.symm]

/-- A first note keeps the standing unless it is an account. -/
theorem standing_ensureNote {name : String} {v : Value} (h : name ≠ accountKey ∨ v = .null) :
    (s.ensureNote name v).standing = s.standing := by
  unfold ensureNote
  split_ifs with hhas
  · rfl
  · by_cases hname : name = accountKey
    · obtain rfl := h.resolve_left (not_not_intro hname)
      have hnone : s.note? accountKey = none := by
        simpa [Entries.has, hname, note?] using hhas
      simp only [standing, account, hname, note_setNote_self]
      rw [note, hnone]
      rfl
    · exact standing_setNote hname v

theorem standing_start : s.start.standing = s.standing := by
  have hnotes : ∀ (ps : List (String × Value)) {s : Session Client},
      (∀ p ∈ ps, p.1 ≠ accountKey ∨ p.2 = .null) →
      (ps.foldl (fun s p => s.ensureNote p.1 p.2) s).standing = s.standing := by
    intro ps
    induction ps with
    | nil => exact fun _ => rfl
    | cons p rest ih =>
        exact fun h => (ih fun q hq => h q (List.mem_cons_of_mem p hq)).trans
          (standing_ensureNote (h p List.mem_cons_self))
  have hid : ∀ s : Session Client, s.ensureId.standing = s.standing := by
    intro s
    unfold ensureId
    split_ifs
    · rfl
    · exact standing_setNote (by decide) _
  refine (hid _).trans (Eq.trans ?_ (hnotes firstNotes (by decide)))
  simp only [standing, account, note, note?, Slot.get?_orEmpty]

end Session

/-- A step of a session that keeps its standing. -/
class Leaves (step : Session Client → Session Client) : Prop where
  standing_eq : ∀ s, (step s).standing = s.standing

namespace Leaves

instance setNote {name : String} [h : Fact (name ≠ Session.accountKey)] (v : Value) :
    Leaves fun s => s.setNote name v := ⟨fun _ => Session.standing_setNote h.out v⟩

instance dropNote {name : String} [h : Fact (name ≠ Session.accountKey)] :
    Leaves fun s => s.dropNote name := ⟨fun _ => Session.standing_dropNote h.out⟩

instance start : Leaves Session.start := ⟨fun _ => Session.standing_start⟩

instance setPage (page : Value) : Leaves fun s => s.setPage page := ⟨fun s => by
  unfold Session.setPage
  split_ifs
  · rfl
  · exact Session.standing_setNote (by decide) page⟩

instance openSchema (tree : SchemaTree) : Leaves fun s => s.openSchema tree :=
  ⟨fun _ => Session.standing_setNote (by decide) _⟩

instance closeSchema : Leaves Session.closeSchema :=
  ⟨fun _ => Session.standing_setNote (by decide) _⟩

instance setSchema (t : SchemaSession) : Leaves fun s => s.setSchema t := ⟨fun _ => rfl⟩

instance editSchema (step : SchemaSession → SchemaSession) : Leaves fun s => s.editSchema step :=
  ⟨fun s => by
    unfold Session.editSchema
    split <;> rfl⟩

instance setMatrix (m : Matrix) : Leaves fun s => s.setMatrix m := ⟨fun _ => rfl⟩

instance setForm (f : HookForm) : Leaves fun s => s.setForm f := ⟨fun _ => rfl⟩

instance setHookId (id : Value) : Leaves fun s => s.setHookId id :=
  ⟨fun _ => Session.standing_setNote (by decide) id⟩

instance clearForm : Leaves fun s => (s.setForm s.form.clear).setHookId .null :=
  ⟨fun s => (setHookId .null).standing_eq (s.setForm s.form.clear)⟩

instance setHookEntity (entity : Value) : Leaves fun s => s.setHookEntity entity := ⟨fun s => by
  unfold Session.setHookEntity
  split_ifs
  · rfl
  · exact (Session.standing_setNote (by decide) _).trans (Session.standing_setNote (by decide) _)⟩

instance setRoleField (user : String) (f : OptimisticField) :
    Leaves fun s => s.setRoleField user f := ⟨fun _ => rfl⟩

instance dropRoleField (user : String) : Leaves fun s => s.dropRoleField user := ⟨fun s => by
  unfold Session.dropRoleField
  split <;> rfl⟩

end Leaves

namespace Page

variable {σ α β γ ε : Type} {e : Surroundings σ}

/-- One page after another ends with the first one, or goes on with its value. -/
theorem run_bind_cases (p : Page σ α) (f : α → Page σ β) (e : Surroundings σ) (w : World σ) :
    (∃ h, (p.run e w).1 = .error h ∧ (p >>= f).run e w = (.error h, (p.run e w).2)) ∨
      ∃ a, (p.run e w).1 = .ok a ∧ (p >>= f).run e w = (f a).run e (p.run e w).2 := by
  rw [run_bind]
  rcases p.run e w with ⟨h | a, w'⟩
  · exact .inl ⟨h, rfl, rfl⟩
  · exact .inr ⟨a, rfl, rfl⟩

/-! ## What a run keeps -/

/-- A page *keeps* a property of sessions if a run from a session that has it leads to one that has
it, with a value as it should be, and does not end with a refusal. -/
structure Keeps (e : Surroundings σ) (I : Session Client → Prop) (P : α → Prop) (p : Page σ α) :
    Prop where
  holds : ∀ w, I w.session → I (p.run e w).2.session
  gives : ∀ w, I w.session → ∀ a, (p.run e w).1 = .ok a → P a
  isRefusal_eq_false :
    ∀ w, I w.session → ∀ f, (p.run e w).1 = .error (.fault f) → f.isRefusal = false

/-- **One page after another** keeps what both keep; the second one may rely on what the first one
gives. -/
theorem Keeps.bind {I : Session Client → Prop} {P : α → Prop} {Q : β → Prop} {p : Page σ α}
    {f : α → Page σ β} (hp : Keeps e I P p) (hf : ∀ a, P a → Keeps e I Q (f a)) :
    Keeps e I Q (p >>= f) where
  holds w hw := by
    obtain ⟨h, -, hrun⟩ | ⟨a, ha, hrun⟩ := run_bind_cases p f e w
    · rw [hrun]
      exact hp.holds w hw
    · rw [hrun]
      exact (hf a (hp.gives w hw a ha)).holds _ (hp.holds w hw)
  gives w hw b hb := by
    obtain ⟨h, -, hrun⟩ | ⟨a, ha, hrun⟩ := run_bind_cases p f e w
    · rw [hrun] at hb
      cases hb
    · exact (hf a (hp.gives w hw a ha)).gives _ (hp.holds w hw) b (hrun ▸ hb)
  isRefusal_eq_false w hw x hx := by
    obtain ⟨h, hend, hrun⟩ | ⟨a, ha, hrun⟩ := run_bind_cases p f e w
    · obtain rfl := Except.error.inj (hrun ▸ hx)
      exact hp.isRefusal_eq_false w hw x hend
    · exact (hf a (hp.gives w hw a ha)).isRefusal_eq_false _ (hp.holds w hw) x (hrun ▸ hx)

/-- A page whose fault is caught keeps what it keeps. -/
theorem Keeps.attempt {I : Session Client → Prop} {P : α → Prop} {p : Page σ α}
    (hp : Keeps e I P p) : Keeps e I Harmless (Page.attempt p) := by
  have hrun (w : World σ) : ((Page.attempt p).run e w).2 = (p.run e w).2 := by
    simp only [Page.run, Page.attempt]
    rcases p e w with ⟨(_ | _) | _, _⟩ <;> rfl
  refine ⟨fun w hw => hrun w ▸ hp.holds w hw, fun w hw r hr => ?_, fun w _ f hf => ?_⟩
  · have hfault := hp.isRefusal_eq_false w hw
    simp only [Page.run, Page.attempt] at hr hfault
    rcases h : p e w with ⟨(_ | f) | a, w'⟩
    · simp [h] at hr
    · simp only [h, Except.ok.injEq] at hr hfault
      exact hr ▸ Harmless.error (hfault f rfl)
    · simp only [h, Except.ok.injEq] at hr
      exact hr ▸ Harmless.ok a
  · simp only [Page.run, Page.attempt] at hf
    rcases h : p e w with ⟨(_ | _) | _, _⟩ <;> simp [h] at hf

/-! ## Pages that give values of a kind -/

/-- A page all of whose values have a property. -/
class Gives (e : Surroundings σ) (P : α → Prop) (p : Page σ α) : Prop where
  holds : ∀ w a, (p.run e w).1 = .ok a → P a

namespace Gives

variable {P : α → Prop} {Q : β → Prop}

theorem pure {a : α} (h : P a) : Gives e P (Pure.pure a) where
  holds _ _ hrun := Except.ok.inj hrun ▸ h

theorem ofResult {r : Except Fault α} (h : ∀ a, r = .ok a → P a) :
    Gives e P (Page.ofResult r) where
  holds _ a hrun := by
    cases r with
    | ok b => exact h a (congrArg Except.ok (Except.ok.inj hrun))
    | error f => cases hrun

/-- One page after another gives what the second one gives. -/
theorem bind_of {p : Page σ α} {f : α → Page σ β} [hp : Gives e P p]
    (hf : ∀ a, P a → Gives e Q (f a)) : Gives e Q (p >>= f) where
  holds w b hrun := by
    obtain ⟨h, -, hbind⟩ | ⟨a, ha, hbind⟩ := run_bind_cases p f e w
    · rw [hbind] at hrun
      cases hrun
    · exact (hf a (hp.holds w a ha)).holds _ b (hbind ▸ hrun)

instance anything (p : Page σ α) : Gives e (fun _ => True) p := ⟨fun _ _ _ => trivial⟩

theorem bind {p : Page σ α} {f : α → Page σ β} (hf : ∀ a, Gives e Q (f a)) : Gives e Q (p >>= f) :=
  bind_of fun a (_ : True) => hf a

end Gives

/-! ## Steady pages -/

/-- A page that keeps the standing of the session and does not end with a refusal. -/
class Steady (e : Surroundings σ) (p : Page σ α) : Prop where
  standing_eq : ∀ w, (p.run e w).2.session.standing = w.session.standing
  isRefusal_eq_false : ∀ w f, (p.run e w).1 = .error (.fault f) → f.isRefusal = false

/-- A property of sessions that is told by their standing. -/
def OfStanding (I : Session Client → Prop) : Prop :=
  ∀ ⦃s t : Session Client⦄, t.standing = s.standing → I s → I t

theorem Keeps.of_steady {I : Session Client → Prop} {P : α → Prop} (hI : OfStanding I)
    (p : Page σ α) [hp : Steady e p] [hP : Gives e P p] : Keeps e I P p where
  holds w := hI (hp.standing_eq w)
  gives w _ := hP.holds w
  isRefusal_eq_false w _ := hp.isRefusal_eq_false w

/-- A steady page before another one. -/
theorem Keeps.steady_bind {I : Session Client → Prop} {Q : β → Prop} (hI : OfStanding I)
    {p : Page σ α} {f : α → Page σ β} [Steady e p] (hf : ∀ a, Keeps e I Q (f a)) :
    Keeps e I Q (p >>= f) :=
  (of_steady hI p).bind fun a (_ : True) => hf a

namespace Steady

theorem of_keeps {P : α → Prop} {p : Page σ α}
    (h : ∀ standing, Keeps e (·.standing = standing) P p) : Steady e p where
  standing_eq w := (h w.session.standing).holds w rfl
  isRefusal_eq_false w := (h w.session.standing).isRefusal_eq_false w rfl

/-! ### Pages put together -/

instance pure (a : α) : Steady e (Pure.pure a : Page σ α) where
  standing_eq _ := rfl
  isRefusal_eq_false _ _ := nofun

theorem bind_of {P : α → Prop} {p : Page σ α} {f : α → Page σ β} [Steady e p] [Gives e P p]
    (hf : ∀ a, P a → Steady e (f a)) : Steady e (p >>= f) :=
  of_keeps fun _ =>
    (Keeps.of_steady (fun _ _ h hs => h.trans hs) p).bind fun a ha =>
      haveI := hf a ha
      Keeps.of_steady (P := fun _ => True) (fun _ _ h hs => h.trans hs) (f a)

instance (priority := low) bind {p : Page σ α} {f : α → Page σ β} [Steady e p]
    [hf : ∀ a, Steady e (f a)] : Steady e (p >>= f) :=
  bind_of fun a (_ : True) => hf a

/-- A page that goes on with an answer or an error. -/
instance bind_except {p : Page σ (Except ε α)} {f : Except ε α → Page σ β} [Steady e p]
    [hok : ∀ a, Steady e (f (.ok a))] [herror : ∀ x, Steady e (f (.error x))] :
    Steady e (p >>= f) :=
  haveI : ∀ r, Steady e (f r)
    | .ok a => hok a
    | .error x => herror x
  bind

/-- A page that goes on when it is told that something was done, or with an error. -/
instance bind_exceptUnit {p : Page σ (Except ε Unit)} {f : Except ε Unit → Page σ β} [Steady e p]
    [hok : Steady e (f (.ok ()))] [herror : ∀ x, Steady e (f (.error x))] : Steady e (p >>= f) :=
  haveI : ∀ r, Steady e (f r)
    | .ok () => hok
    | .error x => herror x
  bind

/-- A page that goes on with a list or an error. -/
instance bind_exceptList {p : Page σ (Except ε (List α))} {f : Except ε (List α) → Page σ β}
    [Steady e p] [hnil : Steady e (f (.ok []))] [hcons : ∀ a as, Steady e (f (.ok (a :: as)))]
    [herror : ∀ x, Steady e (f (.error x))] : Steady e (p >>= f) :=
  haveI : ∀ r, Steady e (f r)
    | .ok [] => hnil
    | .ok (a :: as) => hcons a as
    | .error x => herror x
  bind

/-- A page that goes on with a value or none. -/
instance bind_option {p : Page σ (Option α)} {f : Option α → Page σ β} [Steady e p]
    [hnone : Steady e (f none)] [hsome : ∀ a, Steady e (f (some a))] : Steady e (p >>= f) :=
  haveI : ∀ r, Steady e (f r)
    | none => hnone
    | some a => hsome a
  bind

/-- A page that goes on with an answer of the user. -/
instance bind_optionBool {p : Page σ (Option Bool)} {f : Option Bool → Page σ β} [Steady e p]
    [hnone : Steady e (f none)] [hfalse : Steady e (f (some false))]
    [htrue : Steady e (f (some true))] : Steady e (p >>= f) :=
  haveI : ∀ r, Steady e (f r)
    | none => hnone
    | some false => hfalse
    | some true => htrue
  bind

/-- A page that goes on with a result. -/
instance bind_result {p : Page σ (Except Fault α)} {f : Except Fault α → Page σ β} [Steady e p]
    [Gives e Harmless p] [hf : ∀ r : Harmless.Result α, Steady e (f r.1)] : Steady e (p >>= f) :=
  bind_of fun r (hr : Harmless r) => hf ⟨r, hr⟩

/-- A page that goes on with a result and something else. -/
instance bind_resultWith {p : Page σ (Except Fault α × γ)} {f : Except Fault α × γ → Page σ β}
    [Steady e p] [Gives e (fun r => Harmless r.1) p]
    [hf : ∀ (r : Harmless.Result α) (c : γ), Steady e (f (r.1, c))] : Steady e (p >>= f) :=
  bind_of fun x (hx : Harmless x.1) => hf ⟨x.1, hx⟩ x.2

instance ite {c : Prop} [Decidable c] {p q : Page σ α} [hp : Steady e p] [hq : Steady e q] :
    Steady e (if c then p else q) := by
  split
  · exact hp
  · exact hq

/-! ### Ends of a run -/

instance rerun : Steady e (Page.rerun : Page σ α) where
  standing_eq _ := rfl
  isRefusal_eq_false _ _ := nofun

theorem fail {f : Fault} (h : f.isRefusal = false) : Steady e (Page.fail f : Page σ α) where
  standing_eq _ := rfl
  isRefusal_eq_false _ _ hf := by cases hf; exact h

instance ofResult (r : Except Fault α) [h : Harmless r] : Steady e (Page.ofResult r) := by
  cases r with
  | ok a => exact pure a
  | error f => exact fail (h.isRefusal_eq_false rfl)

/-! ### Steps of a page -/

section Steps

variable (w : Widget) (v : Value) (name : String)

instance display (x : Element) : Steady e (Page.display x) where
  standing_eq _ := rfl
  isRefusal_eq_false _ _ := nofun

instance displayAll (xs : List Element) : Steady e (Page.displayAll xs) where
  standing_eq _ := rfl
  isRefusal_eq_false _ _ := nofun

instance session : Steady e Page.session where
  standing_eq _ := rfl
  isRefusal_eq_false _ _ := nofun

instance modifySession {step : Session Client → Session Client} [h : Leaves step] :
    Steady e (Page.modifySession step) where
  standing_eq w := h.standing_eq w.session
  isRefusal_eq_false _ _ := nofun

instance note : Steady e (Page.note name) where
  standing_eq _ := rfl
  isRefusal_eq_false _ _ := nofun

instance setNote [Fact (name ≠ Session.accountKey)] : Steady e (Page.setNote name v) :=
  modifySession

instance touched? : Steady e (Page.touched? name) where
  standing_eq _ := rfl
  isRefusal_eq_false _ _ := nofun

instance withNames {step : (Nat → String) → α × Nat} : Steady e (Page.withNames step) where
  standing_eq _ := rfl
  isRefusal_eq_false _ _ := nofun

instance withSettings {step : Settings.Cache → Except Fault α × Settings.Cache}
    [h : ∀ c, Harmless (step c).1] : Steady e (Page.withSettings step) where
  standing_eq w := by
    simp only [Page.run, Page.withSettings]
    split <;> rfl
  isRefusal_eq_false w f hf := by
    simp only [Page.run, Page.withSettings] at hf
    split at hf
    · cases hf
    · next hstep =>
        cases hf
        exact (h w.settings).isRefusal_eq_false (congrArg Prod.fst hstep)

instance setting (key : String) : Steady e (Page.setting name key v) := withSettings

instance awaitMark : Steady e Page.awaitMark := bind

/-- **Asking the server** keeps the connection that it needs. -/
instance withServer {step : Http.Wire σ → Client × σ → α × (Client × σ)} :
    Steady e (Page.withServer step) where
  standing_eq w := by
    simp only [Page.run, Page.withServer]
    split
    · rfl
    · next hclient =>
        simp only [Session.standing, hclient, Slot.get?_held, Option.isSome_some]
        rfl
  isRefusal_eq_false w f hf := by
    simp only [Page.run, Page.withServer] at hf
    split at hf
    · cases hf; rfl
    · cases hf

theorem gives_withServer {P : α → Prop} {step : Http.Wire σ → Client × σ → α × (Client × σ)}
    (h : ∀ wire st, P (step wire st).1) : Gives e P (Page.withServer step) where
  holds w a ha := by
    simp only [Page.run, Page.withServer] at ha
    split at ha
    · cases ha
    · cases ha
      exact h e.wire _

/-- The result of a step with the server, with something else. -/
instance withServer_resultWith
    {step : Http.Wire σ → Client × σ → (Except Fault α × γ) × (Client × σ)}
    [h : ∀ wire st, Harmless (step wire st).1.1] :
    Gives e (fun r => Harmless r.1) (Page.withServer step) :=
  gives_withServer h

instance ask (call : Call α) : Steady e (Page.ask call) := by
  have hanswer (r : Except Fault α) : Steady e (match r with
      | .ok a => (Pure.pure (.ok a) : Page σ (Except ConsoleError α))
      | .error (.console x) => Pure.pure (.error x)
      | .error f => Page.fail f) := by
    split
    · infer_instance
    · infer_instance
    · next h => exact fail (Fault.isRefusal_of_ne h)
  exact bind

instance load (call : Call α) : Steady e (Page.load call) := bind

end Steps

/-! ### Widgets, numbers of editors, and feedback -/

section Widgets

variable (w : Widget) (v : Value)

instance respond : Steady e (Page.respond w v) := bind

instance pressed : Steady e (Page.pressed w) := bind

instance chosen : Steady e (Page.chosen w v) := respond _ v

instance typed : Steady e (Page.typed w v) := bind

instance selected (options : List Value) (index : Nat) :
    Steady e (Page.selected w options index) := respond _ _

instance trimmed : Steady e (Page.trimmed v) := ofResult _

instance editTable (t : Table) (key : String) (isDisabled : Bool) :
    Steady e (Page.editTable t key isDisabled) := bind

instance nonce (key : String) : Steady e (Page.nonce key) := bind

instance renew (key : String) [Fact (key ≠ Session.accountKey)] : Steady e (Page.renew key) := bind

end Widgets

section Feedback

instance notify (kind : Notice) (text : String) : Steady e (Page.notify kind text) := display _

instance showRules (line : String → Element) (heading : String) (rules : Value) :
    Steady e (Page.showRules line heading rules) := by
  unfold Page.showRules
  infer_instance

instance showErrors (errors : Value) : Steady e (Page.showErrors errors) := showRules _ _ errors

instance showValidation (errors warnings : Value) :
    Steady e (Page.showValidation errors warnings) := bind

instance confirmed? (q : Question) : Steady e (Page.confirmed? q) := bind

instance showOutcome (o : Outcome) : Steady e (Page.showOutcome o) := by
  unfold Page.showOutcome
  split <;> infer_instance

instance showBatch (b : BatchOutcome) : Steady e (Page.showBatch b) := by
  unfold Page.showBatch
  infer_instance

instance report (r : Report) (f : Fault) : Steady e (Page.report r f) := displayAll _

instance reportIn (context : String) (f : Fault) : Steady e (Page.reportIn context f) := report _ f

end Feedback

end Steady

end Page

end AdminConsole
