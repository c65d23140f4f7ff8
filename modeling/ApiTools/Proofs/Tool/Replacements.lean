/-
  ApiTools.Proofs.Tool.Replacements
  ─────────────────────────────────
  **WHAT IS NOT STORED IS REPORTED.**

  A request takes the place of another in two loops: among the operations of
  one document, and among the documents of a load.  Both keep the books the
  same way.  Storing an entry makes the table longer by one or is reported, so
  that entries stored and reports given always add up to the entries that came
  in:

    • `Registry.merge_conserves` — for the parts of a registry,
    • `Compile.document_conserves` — for the operations of a document.

  Neither loop gives the reports of the other (`not_isReplacement_of_mem_merge`,
  `Compile.countP_isCollision_document`).
-/
import ApiTools.Proofs.Tool.PathNames
import ApiTools.Proofs.Registry.Merging

namespace ApiTools

open Compile

/-! ## §1. Reports. -/

/-- Does a notice report that an operation replaced another of its document? -/
def Notice.isReplacement : Notice → Bool
  | toolReplaced .. => true
  | _ => false

/-- Does a notice report that a document replaced a tool of another? -/
def Notice.isCollision : Notice → Bool
  | toolCollision .. => true
  | _ => false

theorem ofOperations_isCollision : OfOperations Notice.isCollision :=
  ⟨fun _ _ _ _ => rfl, fun _ _ _ => rfl⟩

/-- Compiling an operation reports parameters only. -/
theorem Operation.notices_of_compile {c : Context} {o : Operation} {t : Tool} {r : Request}
    (h : o.compile c = .ok (t, r)) :
    ∀ x ∈ (o.report c).notices, x.isReplacement = false ∧ x.isCollision = false := by
  obtain ⟨kept, parts⟩ := exists_considered_of_compile h
  rw [notices_report h, parts.notices_eq]
  intro x mem
  rcases List.mem_append.mp mem with skipped | undeclared
  · obtain ⟨name, location, rfl⟩ := Parameter.notices_considerAll skipped
    exact ⟨rfl, rfl⟩
  · unfold Parameter.undeclaredNotice at undeclared
    split at undeclared
    next => exact absurd undeclared List.not_mem_nil
    next =>
      rw [List.mem_singleton.mp undeclared]
      exact ⟨rfl, rfl⟩

/-! ## §2. Tables. -/

/-- A table grows by the names that are new to it. -/
theorem Table.length_insert {α : Type} (name : String) (x : α) (t : Table α) :
    (insert name x t).length = if contains name t then t.length else t.length + 1 := by
  have grown := congrArg List.length (names_insert name x t)
  unfold names at grown
  rw [List.length_map] at grown
  rw [grown]
  split <;> simp

/-! ## §3. Registries. -/

namespace Registry

/-- **Entries of the parts are stored or reported.** -/
theorem merge_conserves (parts : List (Table Request)) :
    (merge parts).2.countP Notice.isCollision + (merge parts).1.size = parts.flatten.length := by
  have collisions : (merge parts).2.countP Notice.isCollision = (merge parts).2.length := by
    rw [List.countP_eq_length]
    intro x said
    obtain ⟨name, rfl⟩ := exists_collision_of_mem said
    rfl
  rw [collisions]
  exact length_reports parts

/-- A registry reports collisions only. -/
theorem not_isReplacement_of_mem_merge {parts : List (Table Request)} {x : Notice}
    (h : x ∈ (merge parts).2) : x.isReplacement = false := by
  obtain ⟨name, rfl⟩ := exists_collision_of_mem h
  rfl

end Registry

/-! ## §4. Documents. -/

namespace Compile

variable {c : Context} {path common : Value} {done done' : Compiled}

/-- An operation makes the table of a document longer, or is reported; other entries of a path do
neither. -/
theorem entry_conserves {key op : Value}
    (h : (entry c path common done key op).outcome = .ok done') :
    (entry c path common done key op).notices.countP Notice.isReplacement + done'.requests.length
      = done.requests.length + (Operation.ofKey? path common (key, op)).toList.length := by
  unfold Operation.ofKey?
  rw [entry, Reported.outcome_bind, Reported.outcome_ofExcept] at h
  obtain ⟨found, method_eq, h⟩ := bind_eq_ok.mp h
  rw [entry, method_eq, Reported.ofExcept_ok_bind]
  cases found with
  | none =>
      injection h with h
      rw [h]
      exact Nat.add_comm _ _
  | some method =>
      dsimp only at h ⊢
      rw [Reported.outcome_bind] at h
      obtain ⟨⟨tool, request⟩, compiled, h⟩ := bind_eq_ok.mp h
      have silent :
          (operation c path method op common).notices.countP Notice.isReplacement = 0 := by
        rw [List.countP_eq_zero]
        intro x mem
        have own := Operation.notices_of_compile (o := ⟨path, method, common, op⟩) compiled x mem
        rw [own.1]
        exact Bool.false_ne_true
      rw [Reported.bind_of_ok compiled, List.countP_append, silent, Nat.zero_add,
        Option.toList_some, List.length_singleton]
      dsimp only at h ⊢
      split at h
      next known =>
        injection h with h
        subst h
        rw [if_pos known]
        show 1 + (Table.insert tool.name request done.requests).length = _
        rw [Table.length_insert, if_pos known, Nat.add_comm]
      next new =>
        injection h with h
        subst h
        rw [if_neg new]
        show 0 + (Table.insert tool.name request done.requests).length = _
        rw [Table.length_insert, if_neg new, Nat.zero_add]

theorem entries_conserves {es : Entries}
    (h : (entries c path common done es).outcome = .ok done') :
    (entries c path common done es).notices.countP Notice.isReplacement + done'.requests.length
      = done.requests.length + (es.filterMap (Operation.ofKey? path common)).length := by
  induction es generalizing done with
  | nil =>
      injection h with h
      rw [h]
      exact Nat.add_comm _ _
  | cons e es ih =>
      obtain ⟨key, op⟩ := e
      rw [entries, Reported.outcome_bind] at h
      obtain ⟨next, first, h⟩ := bind_eq_ok.mp h
      have step := entry_conserves first
      have rest := ih h
      have split : ((key, op) :: es).filterMap (Operation.ofKey? path common)
          = (Operation.ofKey? path common (key, op)).toList
            ++ es.filterMap (Operation.ofKey? path common) := by
        rw [List.filterMap_cons]
        cases Operation.ofKey? path common (key, op) <;> rfl
      rw [entries, Reported.bind_of_ok first, List.countP_append, split, List.length_append]
      omega

theorem paths_conserves {items : Entries} (h : (paths c done items).outcome = .ok done') :
    (paths c done items).notices.countP Notice.isReplacement + done'.requests.length
      = done.requests.length + (items.flatMap fun e => Operation.ofItem e.1 e.2).length := by
  induction items generalizing done with
  | nil =>
      injection h with h
      rw [h]
      exact Nat.add_comm _ _
  | cons e items ih =>
      obtain ⟨path, item⟩ := e
      rw [List.flatMap_cons, List.length_append]
      cases item with
      | mapping es =>
          rw [paths, Reported.outcome_bind] at h
          obtain ⟨next, first, h⟩ := bind_eq_ok.mp h
          have step := entries_conserves first
          have rest := ih h
          rw [paths, Reported.bind_of_ok first, List.countP_append]
          show _ = _ + ((es.filterMap (Operation.ofKey? path _)).length + _)
          omega
      | _ =>
          show _ = _ + (0 + _)
          rw [Nat.zero_add]
          exact ih h

/-- **Operations of a document are stored or reported.** -/
theorem document_conserves {doc integrationName integrationId : Value} {compiled : Compiled}
    (h : (document doc integrationName integrationId).outcome = .ok compiled) :
    (document doc integrationName integrationId).notices.countP Notice.isReplacement
        + compiled.requests.length
      = (Operation.ofDocument doc).length := by
  unfold document at h ⊢
  simp only [Reported.outcome_bind, Reported.outcome_ofExcept] at h
  obtain ⟨declared, stated, h⟩ := bind_eq_ok.mp h
  obtain ⟨baseUrl, base, h⟩ := bind_eq_ok.mp h
  obtain ⟨items, listed, h⟩ := bind_eq_ok.mp h
  obtain ⟨done, compiles, h⟩ := bind_eq_ok.mp h
  injection h with h
  subst h
  have kept := paths_conserves compiles
  rw [stated, base, Reported.ofExcept_ok_bind, Reported.ofExcept_ok_bind, listed,
    Reported.ofExcept_ok_bind, Reported.bind_of_ok compiles, List.countP_append]
  unfold Operation.ofDocument
  rw [Operation.itemsOf_eq stated listed]
  rw [List.length_nil, Nat.zero_add] at kept
  exact kept

/-- Documents report no collisions. -/
theorem countP_isCollision_document {doc integrationName integrationId : Value}
    {compiled : Compiled}
    (h : (document doc integrationName integrationId).outcome = .ok compiled) :
    (document doc integrationName integrationId).notices.countP Notice.isCollision = 0 := by
  obtain ⟨baseUrl, base, cs, operations, listed, compiles⟩ := exists_compilations h
  obtain ⟨baseUrl', base', notices⟩ := filter_notices_document ofOperations_isCollision h
  obtain rfl : baseUrl = baseUrl' := Except.ok.inj (base.symm.trans base')
  rw [List.countP_eq_length_filter, notices, ← operations, List.flatMap_map,
    List.length_eq_zero_iff, List.flatMap_eq_nil_iff]
  intro o mem
  rw [List.filter_eq_nil_iff]
  intro x said
  rw [(Operation.notices_of_compile (compiles o mem) x said).2]
  exact Bool.false_ne_true

end Compile

end ApiTools
