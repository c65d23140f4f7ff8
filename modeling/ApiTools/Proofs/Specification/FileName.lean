/-
  ApiTools.Proofs.Specification.FileName
  ──────────────────────────────────────
  **NAMES OF SPECIFICATION FILES.**

  A file name is cut at its last point if something stands on both sides of
  it (`splitEnding_of_parts`), and a name with an ending is put together again
  by its two parts (`parts_of_ending`).  What discovery finds has one of the
  three endings, belongs to an integration that owns it (`mem_of_discover`)
  and comes in the order of the names (`pairwise_name_of_discover`).
-/
import ApiTools.Specification.Discovery

namespace ApiTools.SpecificationFile

/-! ## §1. The last point. -/

/-- What stands behind the last point of a text is its longest end without a point. -/
theorem reverse_takeWhile_ne_point {stem final : List Char} (plain : '.' ∉ final) :
    ((stem ++ '.' :: final).reverse.takeWhile (· != '.')).reverse = final := by
  have behind : ∀ c ∈ final.reverse, (c != '.') = true := by
    intro c hc
    have : c ≠ '.' := by
      rintro rfl
      exact plain (List.mem_reverse.mp hc)
    simpa using this
  rw [List.reverse_append, List.reverse_cons, List.append_assoc,
    List.takeWhile_append_of_pos behind]
  simp

/-- A name is cut at its last point if there is text on both sides of it. -/
theorem splitEnding_of_parts {name : String} {stem final : List Char}
    (parts : name.toList = stem ++ '.' :: final) (plain : '.' ∉ final) :
    splitEnding name
      = if stem ≠ [] ∧ final ≠ [] then (String.ofList stem, String.ofList ('.' :: final))
        else (name, "") := by
  have length : (stem ++ '.' :: final).length - final.length - 1 = stem.length := by
    simp only [List.length_append, List.length_cons]
    omega
  have pointed : (stem ++ '.' :: final).contains '.' = true := by simp
  rw [splitEnding, parts, reverse_takeWhile_ne_point plain, length, List.take_left, pointed]
  simp only [true_and]

/-- A name that has an ending is its two parts with the last point between them. -/
theorem parts_of_ending {name : String} (h : (splitEnding name).2 ≠ "") :
    ∃ stem final, name.toList = stem ++ '.' :: final ∧ stem ≠ [] ∧ final ≠ [] ∧ '.' ∉ final
      ∧ splitEnding name = (String.ofList stem, String.ofList ('.' :: final)) := by
  by_cases pointed : '.' ∈ name.toList.reverse
  · obtain ⟨behind, before, split, plain⟩ := List.eq_append_cons_of_mem pointed
    have parts : name.toList = before.reverse ++ '.' :: behind.reverse := by
      rw [← List.reverse_reverse name.toList, split]
      simp
    have cut := splitEnding_of_parts parts fun e => plain (List.mem_reverse.mp e)
    by_cases both : before.reverse ≠ [] ∧ behind.reverse ≠ []
    · rw [if_pos both] at cut
      exact ⟨_, _, parts, both.1, both.2, fun e => plain (List.mem_reverse.mp e), cut⟩
    · rw [if_neg both] at cut
      rw [cut] at h
      exact absurd rfl h
  · have whole : splitEnding name = (name, "") := by
      have : '.' ∉ name.toList := fun e => pointed (List.mem_reverse.mpr e)
      simp [splitEnding, this]
    rw [whole] at h
    exact absurd rfl h

/-! ## §2. What discovery finds. -/

theorem ending_ne_empty {ending : String} (h : endings.contains ending = true) : ending ≠ "" := by
  rintro rfl
  simp [endings] at h

theorem mem_candidates {files : Files} {folder name : String} (h : name ∈ candidates files folder) :
    endings.contains (splitEnding name).2 = true := by
  rw [candidates, List.mem_filterMap] at h
  obtain ⟨⟨other, item⟩, _, h⟩ := h
  cases item with
  | folder => simp at h
  | file octets =>
      dsimp only at h
      split at h
      next ending =>
        injection h with h
        subst h
        exact ending
      next => simp at h

theorem mem_of_owned {integrations : List Integration} {folder : String} {names : List String}
    {found : List SpecificationFile} (h : (owned integrations folder names).outcome = .ok found)
    {f : SpecificationFile} (hf : f ∈ found) :
    f.name ∈ names ∧ Integration.findFor f.name integrations = .ok (some f.integration) := by
  induction names generalizing found with
  | nil =>
      injection h with h
      subst h
      simp at hf
  | cons name names ih =>
      rw [owned, Reported.outcome_bind, Reported.outcome_ofExcept, bind_eq_ok] at h
      obtain ⟨owner, howner, h⟩ := h
      cases owner with
      | none =>
          rw [Reported.outcome_bind, Reported.outcome_say, ok_bind] at h
          exact ⟨List.mem_cons_of_mem name (ih h hf).1, (ih h hf).2⟩
      | some integration =>
          rw [Reported.outcome_bind, bind_eq_ok] at h
          obtain ⟨others, hothers, h⟩ := h
          injection h with h
          subst h
          rcases List.mem_cons.mp hf with rfl | hf
          · exact ⟨List.mem_cons_self, howner⟩
          · exact ⟨List.mem_cons_of_mem name (ih hothers hf).1, (ih hothers hf).2⟩

/-- A file that discovery finds has an ending of specifications, and its integration is the first
that owns it. -/
theorem mem_of_discover {files : Files} {folder : String} {integrations : List Integration}
    {found : List SpecificationFile} (h : (discover files folder integrations).outcome = .ok found)
    {f : SpecificationFile} (hf : f ∈ found) :
    endings.contains (splitEnding f.name).2 = true
      ∧ Integration.findFor f.name integrations = .ok (some f.integration) := by
  unfold discover at h
  dsimp only at h
  split at h
  next =>
    obtain ⟨name, owner⟩ := mem_of_owned h hf
    exact ⟨mem_candidates name, owner⟩
  next => simp at h

/-! ## §3. The order of what discovery finds. -/

/-- A folder lists its items by their names. -/
theorem pairwise_list (files : Files) (folder : String) :
    (files.list folder).Pairwise (fun a b => a.1 ≤ b.1) := by
  unfold Files.list
  split
  next => exact List.Pairwise.nil
  next here _ =>
    have trans : ∀ a b c : String × FileItem,
        decide (a.1 ≤ b.1) = true → decide (b.1 ≤ c.1) = true → decide (a.1 ≤ c.1) = true := by
      intro a b c ab bc
      rw [decide_eq_true_iff] at ab bc ⊢
      exact String.le_trans ab bc
    have total : ∀ a b : String × FileItem,
        (decide (a.1 ≤ b.1) || decide (b.1 ≤ a.1)) = true := by
      intro a b
      rw [Bool.or_eq_true, decide_eq_true_iff, decide_eq_true_iff]
      exact String.le_total a.1 b.1
    have sorted := List.pairwise_mergeSort trans total (files.items.filterMap fun e =>
      if e.1.dropLast = here then e.1.getLast?.map fun name => (name, e.2) else none)
    exact sorted.imp fun ab => of_decide_eq_true ab

theorem pairwise_candidates (files : Files) (folder : String) :
    (candidates files folder).Pairwise (· ≤ ·) := by
  unfold candidates
  refine List.Pairwise.filterMap _ ?_ (pairwise_list files folder)
  rintro ⟨a, item⟩ ⟨b, other⟩ le x hx y hy
  cases item with
  | folder => exact absurd hx (by simp)
  | file octets =>
      cases other with
      | folder => exact absurd hy (by simp)
      | file octets' =>
          -- a file is listed under its own name
          simp only [Option.ite_none_right_eq_some, Option.some.injEq] at hx hy
          rw [← hx.2, ← hy.2]
          exact le

theorem sublist_of_owned {integrations : List Integration} {folder : String} {names : List String}
    {found : List SpecificationFile} (h : (owned integrations folder names).outcome = .ok found) :
    (found.map (·.name)).Sublist names := by
  induction names generalizing found with
  | nil =>
      injection h with h
      subst h
      exact List.Sublist.refl []
  | cons name names ih =>
      rw [owned, Reported.outcome_bind, Reported.outcome_ofExcept, bind_eq_ok] at h
      obtain ⟨owner, _, h⟩ := h
      cases owner with
      | none =>
          rw [Reported.outcome_bind, Reported.outcome_say, ok_bind] at h
          exact (ih h).cons name
      | some integration =>
          rw [Reported.outcome_bind, bind_eq_ok] at h
          obtain ⟨others, hothers, h⟩ := h
          injection h with h
          subst h
          exact (ih hothers).cons_cons name

/-- Discovery finds files in the order of their names. -/
theorem pairwise_name_of_discover {files : Files} {folder : String}
    {integrations : List Integration} {found : List SpecificationFile}
    (h : (discover files folder integrations).outcome = .ok found) :
    (found.map (·.name)).Pairwise (· ≤ ·) := by
  unfold discover at h
  dsimp only at h
  split at h
  next => exact (pairwise_candidates files _).sublist (sublist_of_owned h)
  next => simp at h

end ApiTools.SpecificationFile
