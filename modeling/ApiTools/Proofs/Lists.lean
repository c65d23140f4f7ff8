/-
  ApiTools.Proofs.Lists
  ─────────────────────
  **FIRST ONES AND COUNTERPARTS.**

  What is left of a list when everything goes that is like an earlier element
  are its first ones.  They grow at the end only: a further element is one
  more of them, or is like one of them (`eraseDupsBy_concat`).  So no two of
  them are alike, and every element is like one of them.

  In lists whose elements correspond one by one, every element has a
  counterpart (`exists_of_mem_left`, `exists_of_mem_right`), and what holds
  between two elements may carry over (`pairwise_of_counterparts`).
-/
import Mathlib.Data.List.Forall2
import Mathlib.Data.List.Induction

namespace ApiTools

/-! ## §1. First ones. -/

section FirstOnes

variable {α : Type} {r : α → α → Bool}

theorem loop_append_eraseDupsBy (xs ys seen : List α) :
    List.eraseDupsBy.loop r (xs ++ ys) seen
      = List.eraseDupsBy.loop r ys (List.eraseDupsBy.loop r xs seen).reverse := by
  induction xs generalizing seen with
  | nil =>
      show _ = List.eraseDupsBy.loop r ys seen.reverse.reverse
      rw [List.reverse_reverse]
      rfl
  | cons x xs ih =>
      rw [List.cons_append, List.eraseDupsBy.loop, List.eraseDupsBy.loop]
      cases seen.any (r x) with
      | true => exact ih seen
      | false => exact ih (x :: seen)

/-- A further element is one of the first ones, unless it is like one of them. -/
theorem eraseDupsBy_concat (xs : List α) (x : α) :
    (xs ++ [x]).eraseDupsBy r
      = if (xs.eraseDupsBy r).any (r x) then xs.eraseDupsBy r else xs.eraseDupsBy r ++ [x] := by
  unfold List.eraseDupsBy
  rw [loop_append_eraseDupsBy, List.eraseDupsBy.loop, List.any_reverse]
  cases (List.eraseDupsBy.loop r xs []).any (r x) with
  | true => exact List.reverse_reverse _
  | false =>
      show (x :: (List.eraseDupsBy.loop r xs []).reverse).reverse = _
      rw [List.reverse_cons, List.reverse_reverse]
      rfl

/-- No two of the first ones are alike. -/
theorem pairwise_eraseDupsBy (xs : List α) :
    (xs.eraseDupsBy r).Pairwise fun x y => r y x = false := by
  induction xs using List.reverseRecOn with
  | nil => exact List.Pairwise.nil
  | append_singleton xs x ih =>
      rw [eraseDupsBy_concat]
      split
      next => exact ih
      next new =>
        refine List.pairwise_append.mpr ⟨ih, List.pairwise_singleton _ _, fun y hy z hz => ?_⟩
        rw [List.mem_singleton.mp hz, ← Bool.not_eq_true]
        exact fun alike => new (List.any_eq_true.mpr ⟨y, hy, alike⟩)

/-- Every element that is like itself is like one of the first ones. -/
theorem exists_mem_eraseDupsBy {xs : List α} {x : α} (mem : x ∈ xs) (alike : r x x = true) :
    ∃ y ∈ xs.eraseDupsBy r, r x y = true := by
  induction xs using List.reverseRecOn with
  | nil => exact absurd mem List.not_mem_nil
  | append_singleton xs z ih =>
      rw [eraseDupsBy_concat]
      rcases List.mem_append.mp mem with before | last
      · obtain ⟨y, hy, same⟩ := ih before
        split
        next => exact ⟨y, hy, same⟩
        next => exact ⟨y, List.mem_append_left _ hy, same⟩
      · obtain rfl := List.mem_singleton.mp last
        split
        next found => exact List.any_eq_true.mp found
        next => exact ⟨x, List.mem_append_right _ (List.mem_singleton_self x), alike⟩

end FirstOnes

/-! ## §2. Counterparts. -/

section Counterparts

variable {α β : Type} {R : α → β → Prop} {xs : List α} {ys : List β}

theorem exists_of_mem_right (h : List.Forall₂ R xs ys) {y : β} (mem : y ∈ ys) :
    ∃ x ∈ xs, R x y := by
  induction h with
  | nil => exact absurd mem List.not_mem_nil
  | cons first _ ih =>
      rcases List.mem_cons.mp mem with rfl | later
      · exact ⟨_, List.mem_cons_self, first⟩
      · obtain ⟨x, hx, related⟩ := ih later
        exact ⟨x, List.mem_cons_of_mem _ hx, related⟩

theorem exists_of_mem_left (h : List.Forall₂ R xs ys) {x : α} (mem : x ∈ xs) :
    ∃ y ∈ ys, R x y := by
  obtain ⟨y, hy, related⟩ := exists_of_mem_right h.flip mem
  exact ⟨y, hy, related⟩

/-- What holds between elements, the earlier one first, holds between their counterparts if it
carries over from any two. -/
theorem pairwise_of_counterparts {S : α → α → Prop} {T : β → β → Prop}
    (h : List.Forall₂ R xs ys) (pairwise : xs.Pairwise S)
    (carries : ∀ x x' y y', R x y → R x' y' → S x x' → T y y') : ys.Pairwise T := by
  induction h with
  | nil => exact List.Pairwise.nil
  | @cons x y xs ys first rest ih =>
      obtain ⟨later, pairwise⟩ := List.pairwise_cons.mp pairwise
      refine List.pairwise_cons.mpr ⟨fun y' hy' => ?_, ih pairwise⟩
      obtain ⟨x', hx', related⟩ := exists_of_mem_right rest hy'
      exact carries x x' y y' first related (later x' hx')

end Counterparts

end ApiTools
