/-
  ApiTools.Proofs.Tool.Notices
  ────────────────────────────
  **WHAT COMPILING REPORTS.**

  Compiling a document reports what compiling its operations reports, one
  operation after the other (`filter_notices_document`); of its own it adds the
  replacement of tools and, in the end, the numbers of tools and paths.  An
  operation reports only what merging its parameters reports
  (`notices_report`).
-/
import ApiTools.Proofs.Tool.Operations

namespace ApiTools

open Compile

/-! ## §1. One operation. -/

namespace Operation

/-- Compiling the operation, with its notices. -/
def report (c : Context) (o : Operation) : Reported (Tool × Request) :=
  operation c o.path o.method o.declared o.common

end Operation

/-- Work without notices of its own before work that has none. -/
theorem Reported.notices_ofExcept_bind {α β : Type} {x : Except Fault α} {f : α → Reported β}
    (h : ∀ a, (f a).notices = []) : (ofExcept x >>= f).notices = [] := by
  cases x with
  | error e => rfl
  | ok a => exact h a

namespace Operation

variable {c : Context} {o : Operation} {t : Tool} {r : Request}

/-- **An operation reports what merging its parameters reports.** -/
theorem notices_report (h : o.compile c = .ok (t, r)) :
    (o.report c).notices = o.merging.notices := by
  obtain ⟨ds, _, _, _, steps⟩ := exists_steps_of_compile h
  obtain ⟨own, stated, own_eq⟩ := steps.stated
  unfold report operation
  rw [stated, Reported.ofExcept_ok_bind, own_eq]
  show (o.merging >>= _).notices = _
  rw [Reported.bind_of_ok steps.merged]
  -- what follows the merging says nothing
  apply List.append_right_eq_self.mpr
  iterate 8
    apply Reported.notices_ofExcept_bind
    intro _
  rfl

end Operation

/-! ## §2. A document. -/

/-- Notices that only operations give. -/
structure OfOperations (p : Notice → Bool) : Prop where
  replaced : ∀ name integration method path, p (.toolReplaced name integration method path) = false
  compiled : ∀ tools paths integration, p (.documentCompiled tools paths integration) = false

namespace Compile

variable {p : Notice → Bool} {c : Context} {path common : Value} {done done' : Compiled}

/-- An entry of a path reports what its operation reports, if it is one. -/
theorem filter_notices_entry (hp : OfOperations p) {key op : Value}
    (h : (entry c path common done key op).outcome = .ok done') :
    (entry c path common done key op).notices.filter p
      = (Operation.ofKey? path common (key, op)).toList.flatMap fun o =>
          (o.report c).notices.filter p := by
  unfold Operation.ofKey?
  rw [entry, Reported.outcome_bind, Reported.outcome_ofExcept] at h
  obtain ⟨found, method_eq, h⟩ := bind_eq_ok.mp h
  rw [entry, method_eq, Reported.ofExcept_ok_bind]
  cases found with
  | none => rfl
  | some method =>
      dsimp only at h ⊢
      rw [Reported.outcome_bind] at h
      obtain ⟨⟨tool, request⟩, compiled, _⟩ := bind_eq_ok.mp h
      rw [Reported.bind_of_ok compiled, List.filter_append]
      -- what is said of a replacement does not count
      have silent : ∀ rest : Reported Compiled, rest.notices = []
          ∨ (∃ name i m path, rest.notices = [.toolReplaced name i m path]) →
          rest.notices.filter p = [] := by
        rintro rest (none_said | ⟨name, i, m, path, said⟩)
        · rw [none_said, List.filter_nil]
        · rw [said, List.filter_cons_of_neg, List.filter_nil]
          rw [hp.replaced]
          exact Bool.false_ne_true
      rw [silent, List.append_nil]
      · exact (List.append_nil _).symm
      · split
        next => exact Or.inr ⟨_, _, _, _, rfl⟩
        next => exact Or.inl rfl

theorem filter_notices_entries (hp : OfOperations p) {es : Entries}
    (h : (entries c path common done es).outcome = .ok done') :
    (entries c path common done es).notices.filter p
      = (es.filterMap (Operation.ofKey? path common)).flatMap fun o =>
          (o.report c).notices.filter p := by
  induction es generalizing done with
  | nil => rfl
  | cons e es ih =>
      obtain ⟨key, op⟩ := e
      rw [entries, Reported.outcome_bind] at h
      obtain ⟨next, first, h⟩ := bind_eq_ok.mp h
      rw [entries, Reported.bind_of_ok first, List.filter_append, filter_notices_entry hp first,
        ih h, List.filterMap_cons]
      cases Operation.ofKey? path common (key, op) <;> simp

theorem filter_notices_paths (hp : OfOperations p) {items : Entries}
    (h : (paths c done items).outcome = .ok done') :
    (paths c done items).notices.filter p
      = (items.flatMap fun e => Operation.ofItem e.1 e.2).flatMap fun o =>
          (o.report c).notices.filter p := by
  induction items generalizing done with
  | nil => rfl
  | cons e items ih =>
      obtain ⟨path, item⟩ := e
      rw [List.flatMap_cons, List.flatMap_append]
      cases item with
      | mapping es =>
          rw [paths, Reported.outcome_bind] at h
          obtain ⟨next, first, h⟩ := bind_eq_ok.mp h
          rw [paths, Reported.bind_of_ok first, List.filter_append,
            filter_notices_entries hp first, ih h]
          rfl
      | _ => exact ih h

/-- **A document reports what its operations report.** -/
theorem filter_notices_document (hp : OfOperations p) {doc integrationName integrationId : Value}
    {compiled : Compiled} (h : (document doc integrationName integrationId).outcome = .ok compiled) :
    ∃ baseUrl, Server.baseUrl doc = .ok baseUrl
      ∧ (document doc integrationName integrationId).notices.filter p
        = (Operation.ofDocument doc).flatMap fun o =>
            (o.report ⟨integrationName, integrationId, baseUrl⟩).notices.filter p := by
  unfold document at h ⊢
  simp only [Reported.outcome_bind, Reported.outcome_ofExcept] at h
  obtain ⟨declared, stated, h⟩ := bind_eq_ok.mp h
  obtain ⟨baseUrl, base, h⟩ := bind_eq_ok.mp h
  obtain ⟨items, listed, h⟩ := bind_eq_ok.mp h
  obtain ⟨done, compiles, _⟩ := bind_eq_ok.mp h
  refine ⟨baseUrl, base, ?_⟩
  rw [stated, base, Reported.ofExcept_ok_bind, Reported.ofExcept_ok_bind, listed,
    Reported.ofExcept_ok_bind, Reported.bind_of_ok compiles, List.filter_append,
    filter_notices_paths hp compiles]
  unfold Operation.ofDocument
  rw [Operation.itemsOf_eq stated listed]
  apply List.append_right_eq_self.mpr
  show List.filter p [.documentCompiled _ _ _] = []
  rw [List.filter_cons_of_neg, List.filter_nil]
  rw [hp.compiled]
  exact Bool.false_ne_true

end Compile

end ApiTools
