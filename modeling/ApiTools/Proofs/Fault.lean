/-
  ApiTools.Proofs.Fault
  ─────────────────────
  **WHICH FAULTS A STEP CAN HAVE.**

  `FaultsIn` says that all faults of a step are of a given kind.  Its rules
  follow the way in which steps are put together, so the faults of a function
  are known from those of the functions that it calls.
-/
import ApiTools.Report

namespace ApiTools

section Steps

variable {ε α β : Type} {kind kind' : ε → Prop} {x y : Except ε α}

/-- Whatever fault a step has is of a given kind. -/
def FaultsIn (kind : ε → Prop) (x : Except ε α) : Prop := ∀ f, x = .error f → kind f

theorem FaultsIn.ok (a : α) : FaultsIn kind (.ok a : Except ε α) :=
  fun _ failed => absurd failed (by simp)

theorem FaultsIn.error {f : ε} (h : kind f) : FaultsIn kind (.error f : Except ε α) := by
  intro g failed
  injection failed with same
  rwa [← same]

theorem FaultsIn.mono (h : FaultsIn kind x) (le : ∀ f, kind f → kind' f) : FaultsIn kind' x :=
  fun f failed => le f (h f failed)

/-- A second step is only taken if the first has an answer. -/
theorem FaultsIn.bind {f : α → Except ε β} (h : FaultsIn kind x)
    (next : ∀ a, x = .ok a → FaultsIn kind (f a)) : FaultsIn kind (x >>= f) := by
  cases x with
  | ok a => exact next a rfl
  | error e => exact .error (h e rfl)

theorem FaultsIn.map {f : α → β} (h : FaultsIn kind x) : FaultsIn kind (x.map f) := by
  cases x with
  | ok a => exact .ok (f a)
  | error e => exact .error (h e rfl)

theorem FaultsIn.ite {c : Prop} [Decidable c] (h : c → FaultsIn kind x)
    (h' : ¬ c → FaultsIn kind y) : FaultsIn kind (if c then x else y) := by
  split
  next yes => exact h yes
  next no => exact h' no

/-- The fault of steps for the items of a list is the fault of one of these. -/
theorem FaultsIn.mapM {f : α → Except ε β} {items : List α}
    (h : ∀ a ∈ items, FaultsIn kind (f a)) : FaultsIn kind (items.mapM f) := by
  induction items with
  | nil => exact .ok []
  | cons a items ih =>
      rw [List.forall_mem_cons] at h
      rw [List.mapM_cons]
      exact h.1.bind fun b _ => (ih h.2).bind fun bs _ => .ok (b :: bs)

end Steps

namespace Reported

variable {α β : Type} {kind : Fault → Prop} {r : Reported α}

theorem faultsIn_bind {f : α → Reported β} (h : FaultsIn kind r.outcome)
    (next : ∀ a, r.outcome = .ok a → FaultsIn kind (f a).outcome) :
    FaultsIn kind (r >>= f).outcome := by
  rw [outcome_bind]
  exact h.bind next

end Reported

end ApiTools
