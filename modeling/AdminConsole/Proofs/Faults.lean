import AdminConsole.Fault.Basic

/-!
# Proofs/Faults — results whose fault passes a test

What a result can end with is told by a test of its fault.  `FaultsPass` goes through every way in
which results are put together: a value or a fault, a changed value, one result after another, and
the results of a list.
-/

namespace AdminConsole

/-- Whether a fault is a mishap. -/
def Fault.isMishap : Fault → Bool
  | .mishap _ => true
  | _ => false

/-- Whether a fault is one of the console's own errors. -/
def Fault.isConsole : Fault → Bool
  | .console _ => true
  | _ => false

/-- The fault of an answer with an integer too long to be read, which is no console error. -/
def Fault.unreadInteger : Fault := .mishap (.digitLimit 4301)

/-- A result whose fault, if it is one, passes a test. -/
def FaultsPass {α : Type} (test : Fault → Bool) (result : Except Fault α) : Prop :=
  ∀ f, result = .error f → test f = true

section Faults

variable {α β : Type} {test : Fault → Bool}

theorem faultsPass_ok (a : α) : FaultsPass test (.ok a) := nofun

theorem faultsPass_error_iff {f : Fault} :
    FaultsPass test (.error f : Except Fault α) ↔ test f = true :=
  ⟨fun h => h f rfl, fun h _ hf => Except.error.inj hf ▸ h⟩

instance : (result : Except Fault α) → Decidable (FaultsPass test result)
  | .ok a => isTrue (faultsPass_ok a)
  | .error _ => decidable_of_iff _ faultsPass_error_iff.symm

theorem faultsPass_map_iff {result : Except Fault α} {f : α → β} :
    FaultsPass test (result.map f) ↔ FaultsPass test result := by
  cases result with
  | ok a => exact iff_of_true (faultsPass_ok _) (faultsPass_ok a)
  | error e => exact faultsPass_error_iff.trans faultsPass_error_iff.symm

theorem faultsPass_bind_iff {result : Except Fault α} {f : α → Except Fault β} :
    FaultsPass test (result.bind f) ↔
      FaultsPass test result ∧ ∀ a, result = .ok a → FaultsPass test (f a) := by
  cases result with
  | ok a => simp [Except.bind, faultsPass_ok]
  | error e => simp [Except.bind, faultsPass_error_iff]

theorem faultsPass_mapM {f : α → Except Fault β} : ∀ {xs : List α},
    (∀ x ∈ xs, FaultsPass test (f x)) → FaultsPass test (xs.mapM f)
  | [], _ => faultsPass_ok []
  | x :: xs, h => by
      rw [List.mapM_cons]
      refine faultsPass_bind_iff.mpr ⟨h x List.mem_cons_self, fun b _ => ?_⟩
      exact faultsPass_map_iff.mpr (faultsPass_mapM fun y hy => h y (List.mem_cons_of_mem _ hy))

end Faults

end AdminConsole
