import AdminConsole.Ui.Nonce
import AdminConsole.Ui.Widget

/-!
# Proofs/Ui/Keyed — the keys of the widgets on a page

A widget with a key is told apart from all others by it.  A page `Adds` certain keys, in their
order, if every run of it puts widgets with just these keys on the page, whatever the user has
touched, and also when it ends early; a run that goes on has not changed the session.

There is one rule for each step of a page.  One page after another adds the keys of both if the
first one goes on (`Adds.bind`); what has no keys of its own may follow a page however it ends
(`Adds.bind_nil`).
-/

namespace AdminConsole

/-- The keys on a page, in the order of its elements. -/
def keysOn (xs : List Element) : List Value := xs.filterMap fun x => Entries.get? "key" x.options

theorem keysOn_append (xs ys : List Element) : keysOn (xs ++ ys) = keysOn xs ++ keysOn ys :=
  List.filterMap_append

theorem keysOn_concat (xs : List Element) (x : Element) :
    keysOn (xs ++ [x]) = keysOn xs ++ (Entries.get? "key" x.options).toList := by
  cases h : Entries.get? "key" x.options <;> simp [keysOn, h]

theorem Widget.get?_key_options {w : Widget} {key : String} (h : w.key = some key) :
    Entries.get? "key" w.element.options = some (.text key) := by
  rw [Widget.element, h]
  exact if_pos rfl

namespace Page

variable {σ α β : Type} {e : Surroundings σ} {s : Session Client}

/-- **From the session `s` a page adds keys**, and keeps the session unless the run ends. -/
def Adds (e : Surroundings σ) (s : Session Client) (p : Page σ α) (ks : List Value) : Prop :=
  ∀ w : World σ, w.session = s → keysOn (p.run e w).2.shown = keysOn w.shown ++ ks ∧
    ∀ a, (p.run e w).1 = .ok a → (p.run e w).2.session = s

/-- A page that goes on whatever the user has touched. -/
def GoesOn (e : Surroundings σ) (p : Page σ α) : Prop := ∀ w, ∃ a, (p.run e w).1 = .ok a

namespace Adds

variable {p : Page σ α} {f : α → Page σ β} {ks more : List Value}

/-! ### Pages put together -/

theorem pure (a : α) : Adds e s (Pure.pure a) [] :=
  fun _ hw => ⟨(List.append_nil _).symm, fun _ _ => hw⟩

/-- **One page after another.** -/
theorem bind (hp : Adds e s p ks) (goes : GoesOn e p) (hf : ∀ a, Adds e s (f a) more) :
    Adds e s (p >>= f) (ks ++ more) := by
  intro w hw
  obtain ⟨a, ha⟩ := goes w
  obtain ⟨hkeys, hsession⟩ := hp w hw
  obtain ⟨hmore, hkept⟩ := hf a (p.run e w).2 (hsession a ha)
  have hrun : (p >>= f).run e w = (f a).run e (p.run e w).2 := by
    rw [run_bind]
    generalize p.run e w = result at ha ⊢
    obtain ⟨r, w'⟩ := result
    obtain rfl : r = .ok a := ha
    rfl
  rw [hrun]
  exact ⟨by rw [hmore, hkeys, List.append_assoc], hkept⟩

/-- What follows has no keys, so the first page may end the run. -/
theorem bind_nil (hp : Adds e s p ks) (hf : ∀ a, Adds e s (f a) []) : Adds e s (p >>= f) ks := by
  intro w hw
  obtain ⟨hkeys, hsession⟩ := hp w hw
  rw [run_bind]
  generalize p.run e w = result at hkeys hsession ⊢
  obtain ⟨h | a, w'⟩ := result
  · exact ⟨hkeys, nofun⟩
  · obtain ⟨hmore, hkept⟩ := hf a w' (hsession a rfl)
    exact ⟨by rw [hmore, List.append_nil, hkeys], hkept⟩

theorem ite {c : Prop} [Decidable c] {q : Page σ α} (hp : Adds e s p ks) (hq : Adds e s q ks) :
    Adds e s (if c then p else q) ks := by
  split
  · exact hp
  · exact hq

theorem ofResult (result : Except Fault α) : Adds e s (Page.ofResult result) [] := by
  cases result with
  | ok a => exact pure a
  | error h => exact fun _ _ => ⟨(List.append_nil _).symm, nofun⟩

/-! ### Steps of a page -/

/-- An element without a key. -/
theorem display {x : Element} (h : Entries.get? "key" x.options = none) :
    Adds e s (Page.display x) [] := by
  refine fun w hw => ⟨(keysOn_concat w.shown x).trans ?_, fun _ _ => hw⟩
  rw [h, Option.toList_none]

/-- A page goes on with what the session says. -/
theorem session {f : Session Client → Page σ β} (h : Adds e s (f s) ks) :
    Adds e s (Page.session >>= f) ks := by
  rintro w rfl
  exact h w rfl

/-- A page goes on with the number of an editor. -/
theorem nonce {f : Value → Page σ β} {key : String}
    (h : Adds e s (f ((s.note? key).getD (.int 0))) ks) : Adds e s (Page.nonce key >>= f) ks := by
  rintro w rfl
  exact h w rfl

/-! ### Widgets -/

variable {w : Widget} {key : String}

/-- **A widget adds its key.** -/
theorem respond (h : w.key = some key) (v : Value) : Adds e s (Page.respond w v) [.text key] := by
  refine fun w' hw => ⟨(keysOn_concat w'.shown w.element).trans ?_, fun _ _ => hw⟩
  rw [Widget.get?_key_options h, Option.toList_some]

theorem pressed (h : w.key = some key) : Adds e s (Page.pressed w) [.text key] :=
  (respond h _).bind_nil fun _ => pure _

theorem chosen (h : w.key = some key) (v : Value) : Adds e s (Page.chosen w v) [.text key] :=
  respond (w := w.withOption "value" v) h v

theorem typed (h : w.key = some key) (v : Value) : Adds e s (Page.typed w v) [.text key] :=
  session (respond (w := w.withOption "value" v) h _)

theorem selected (h : w.key = some key) (options : List Value) (index : Nat) :
    Adds e s (Page.selected w options index) [.text key] :=
  respond (w := (w.withOption "options" (.list options)).withOption "index" (.int index)) h _

end Adds

end Page

end AdminConsole
