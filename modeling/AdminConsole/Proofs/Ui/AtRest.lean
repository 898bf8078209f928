import AdminConsole.Proofs.Value.Agreement
import AdminConsole.Ui.Feedback
import AdminConsole.Ui.Nonce

/-!
# Proofs/Ui/AtRest — pages that nobody touches

A widget is *at rest* if it answers with the value that it was made with, and a button if it is not
pressed.  What a page does then is told by the session alone: a page `Leads` from one session to
another with a value or an end, and adds elements to the page.

There is one rule for each way of putting pages together, and one for each step of a page.
-/

namespace AdminConsole.Page

variable {σ α β : Type} {e : Surroundings σ} {s s' s'' : Session Client}

/-! ## Where a page leads -/

/-- From the session `s` a run of the page leads to `s'` and ends with `r`.  The rest of the world
stays as it is, with more on the page. -/
def Leads (e : Surroundings σ) (s s' : Session Client) (p : Page σ α) (r : Except Halt α) : Prop :=
  ∀ w : World σ, w.session = s →
    ∃ part, p.run e w = (r, { w with session := s', shown := w.shown ++ part })

namespace Leads

variable {p : Page σ α} {f : α → Page σ β} {a : α} {r : Except Halt β} {h : Halt}

/-- The session after a run. -/
theorem session_eq {r : Except Halt α} (hp : Leads e s s' p r) {w : World σ}
    (hw : w.session = s) : (p.run e w).1 = r ∧ (p.run e w).2.session = s' := by
  obtain ⟨part, hrun⟩ := hp w hw
  rw [hrun]
  exact ⟨rfl, rfl⟩

/-! ### Pages put together -/

theorem pure (a : α) : Leads e s s (Pure.pure a) (.ok a) := by
  rintro w rfl
  exact ⟨[], by rw [run_pure, List.append_nil]⟩

/-- **One page after another.** -/
theorem bind (hp : Leads e s s' p (.ok a)) (hf : Leads e s' s'' (f a) r) :
    Leads e s s'' (p >>= f) r := by
  intro w hw
  obtain ⟨part, hrun⟩ := hp w hw
  obtain ⟨more, hmore⟩ := hf { w with session := s', shown := w.shown ++ part } rfl
  exact ⟨part ++ more, by rw [run_bind, hrun, ← List.append_assoc]; exact hmore⟩

/-- Nothing comes after the end of a run. -/
theorem halt (hp : Leads e s s' p (.error h)) : Leads e s s' (p >>= f) (.error h) := by
  intro w hw
  obtain ⟨part, hrun⟩ := hp w hw
  exact ⟨part, by rw [run_bind, hrun]⟩

theorem rerun : Leads e s s (Page.rerun : Page σ α) (.error .rerun) := by
  rintro w rfl
  exact ⟨[], by rw [List.append_nil]; rfl⟩

theorem ofResult {x : Except Fault α} (hx : x = .ok a) : Leads e s s (Page.ofResult x) (.ok a) := by
  rw [hx]
  exact pure a

/-! ### Steps of a page -/

theorem display (x : Element) : Leads e s s (Page.display x) (.ok ()) := by
  rintro w rfl
  exact ⟨[x], rfl⟩

theorem displayAll (xs : List Element) : Leads e s s (Page.displayAll xs) (.ok ()) := by
  rintro w rfl
  exact ⟨xs, rfl⟩

theorem session : Leads e s s Page.session (.ok s) := by
  rintro w rfl
  exact ⟨[], by rw [List.append_nil]; rfl⟩

theorem modifySession (step : Session Client → Session Client) :
    Leads e s (step s) (Page.modifySession step) (.ok ()) := by
  rintro w rfl
  exact ⟨[], by rw [List.append_nil]; rfl⟩

theorem note (name : String) : Leads e s s (Page.note name) (.ok (s.note name)) := by
  rintro w rfl
  exact ⟨[], by rw [List.append_nil]; rfl⟩

/-- The number of an editor. -/
theorem nonce (key : String) :
    Leads e s s (Page.nonce key) (.ok ((s.note? key).getD (.int 0))) :=
  session.bind (pure _)

theorem showRules (line : String → Element) (heading : String) (texts : List String) :
    Leads e s s (Page.showRules line heading (.texts texts)) (.ok ()) := by
  unfold Page.showRules
  split
  · exact pure ()
  · exact (display _).bind ((ofResult rfl).bind (displayAll _))

end Leads

/-! ## Widgets -/

/-- What a widget answers that was made with a value. -/
def answer (e : Surroundings σ) (name : String) (v : Value) : Value :=
  (Entries.get? name e.touched).getD v

/-- **A widget that answers with the value that it was made with.** -/
def Echoes (e : Surroundings σ) (name : String) (v : Value) : Prop := answer e name v = v

/-- **A text field that answers with the text that it was made with**, and so does not show a note
that says something else. -/
def EchoesText (e : Surroundings σ) (s : Session Client) (name : String) (v : Value) : Prop :=
  answer e name ((s.note? name).getD v) = v

/-- **A button that is not pressed.** -/
def Unpressed (e : Surroundings σ) (name : String) : Prop :=
  (answer e name (.bool false)).truthy = false

/-! ### Widgets that were never touched -/

section Untouched

variable {name : String} {v : Value}

theorem answer_of_untouched (h : e.touched = []) : answer e name v = v := by
  rw [answer, h, Entries.get?_nil, Option.getD_none]

theorem echoes_of_untouched (h : e.touched = []) : Echoes e name v := answer_of_untouched h

theorem echoesText_of_untouched (h : e.touched = []) (hs : s.note? name = none) :
    EchoesText e s name v := by
  rw [EchoesText, hs, answer_of_untouched h, Option.getD_none]

theorem unpressed_of_untouched (h : e.touched = []) : Unpressed e name := by
  rw [Unpressed, answer_of_untouched h]
  rfl

end Untouched

/-- Nobody touches anything, and no server answers. -/
def nobody : Surroundings Unit where
  wire := fun _ st => (.error (.badAddress "no server"), st)

namespace Leads

variable {w : Widget} {v v' : Value} {p q : Page σ α} {r : Except Halt α}

theorem respond (h : answer e w.name v = v') : Leads e s s (Page.respond w v) (.ok v') := by
  rintro w' rfl
  exact ⟨[w.element], congrArg (fun v => (Except.ok v, _)) h⟩

theorem chosen (h : Echoes e w.name v) : Leads e s s (Page.chosen w v) (.ok v) := respond h

/-- A list from which nobody chose. -/
theorem selected {options : List Value} {index : Nat} (hv : options.getD index .null = v)
    (h : Echoes e w.name v) : Leads e s s (Page.selected w options index) (.ok v) := by
  subst hv
  exact respond h

theorem typed {key : String} (hkey : w.key = some key) (h : EchoesText e s key v) :
    Leads e s s (Page.typed w v) (.ok v) := by
  have hname : (w.withOption "value" v).name = key := by
    change w.key.getD w.label = key
    rw [hkey, Option.getD_some]
  refine session.bind (respond ?_)
  rw [hname, hkey]
  exact h

theorem pressed (h : Unpressed e w.name) : Leads e s s (Page.pressed w) (.ok false) := by
  have answered : Leads e s s (Page.pressed w) (.ok (answer e w.name (.bool false)).truthy) :=
    (respond rfl).bind (pure _)
  rw [Unpressed] at h
  rwa [h] at answered

/-- **A page goes on after a button that is not pressed.** -/
theorem unpressed (h : Unpressed e w.name) (hq : Leads e s s' q r) :
    Leads e s s' (Page.pressed w >>= fun b => if b = true then p else q) r :=
  (pressed h).bind (by rwa [if_neg Bool.false_ne_true])

/-- A question without an answer. -/
theorem confirmed? {q : Question} (hyes : Unpressed e (q.key ++ "_confirm"))
    (hno : Unpressed e (q.key ++ "_cancel")) : Leads e s s (Page.confirmed? q) (.ok none) :=
  (display _).bind ((pressed hyes).bind ((pressed hno).bind (pure _)))

end Leads

/-! ## Lists of options -/

/-- **The place of an option is its place.** -/
theorem getD_placeOf {text : String} {options : List Value} (h : .text text ∈ options) :
    options.getD (placeOf (.text text) options) .null = .text text := by
  have hlt : (options.findIdx fun o => o.same (.text text)) < options.length :=
    List.findIdx_lt_length_of_exists ⟨_, h, Value.same_text_iff.mpr rfl⟩
  have hfound := List.findIdx_getElem (w := hlt)
  rw [placeOf, if_pos hlt, List.getD_eq_getElem?_getD, List.getElem?_eq_getElem hlt,
    Option.getD_some]
  exact Value.same_text_iff.mp hfound

/-- A value that is not among the options has the place of the first one. -/
theorem placeOf_of_not_mem {text : String} {options : List Value} (h : .text text ∉ options) :
    placeOf (.text text) options = 0 := by
  have hge : ¬ (options.findIdx fun o => o.same (.text text)) < options.length := by
    intro hlt
    have hfound := List.findIdx_getElem (w := hlt)
    exact h (Value.same_text_iff.mp hfound ▸ List.getElem_mem hlt)
  exact if_neg hge

end AdminConsole.Page
