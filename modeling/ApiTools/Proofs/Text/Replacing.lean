/-
  ApiTools.Proofs.Text.Replacing
  ──────────────────────────────
  **WHAT REPLACING CHANGES.**

  `replaceFrom` goes through a text once.  Where the replaced part stands it
  puts the new text (`replaceFrom_append_part`), and a stretch of text in
  which no occurrence of the part starts is left as it is
  (`replaceFrom_append_of_free`).  Where occurrences start is told by counting
  them: `occurrences` does not see overlaps, so it is exact for a part that
  cannot overlap itself.
-/
import ApiTools.Text.Search

namespace ApiTools.Text

variable {part new cs rest : List Char} {c : Char}

/-! ## §1. Occurrences. -/

/-- The number of places at which a text that is not empty starts in another. -/
def occurrences (part : List Char) : List Char → Nat
  | [] => 0
  | c :: cs => (if part.isPrefixOf (c :: cs) then 1 else 0) + occurrences part cs

theorem occurrences_cons_of_prefix (h : part <+: c :: cs) :
    occurrences part (c :: cs) = 1 + occurrences part cs := by
  rw [occurrences, if_pos (List.isPrefixOf_iff_prefix.mpr h)]

theorem occurrences_cons_of_not_prefix (h : ¬ part <+: c :: cs) :
    occurrences part (c :: cs) = occurrences part cs := by
  rw [occurrences, if_neg fun e => h (List.isPrefixOf_iff_prefix.mp e), Nat.zero_add]

theorem occurrences_le_cons (part : List Char) (c : Char) (cs : List Char) :
    occurrences part cs ≤ occurrences part (c :: cs) :=
  Nat.le_add_left _ _

/-- Text in front takes no occurrence away. -/
theorem occurrences_le_append (part cs rest : List Char) :
    occurrences part rest ≤ occurrences part (cs ++ rest) := by
  induction cs with
  | nil => exact Nat.le_refl _
  | cons c cs ih => exact Nat.le_trans ih (occurrences_le_cons part c (cs ++ rest))

/-- A text without the first character of a part adds no occurrence. -/
theorem occurrences_append_of_not_mem (h : c ∉ cs) (part rest : List Char) :
    occurrences (c :: part) (cs ++ rest) = occurrences (c :: part) rest := by
  induction cs with
  | nil => rfl
  | cons d cs ih =>
      rw [List.mem_cons, not_or] at h
      rw [List.cons_append, occurrences_cons_of_not_prefix, ih h.2]
      intro starts
      exact h.1 (List.cons_prefix_cons.mp starts).1

/-! ## §2. Replacing. -/

/-- Characters of an occurrence that has been replaced do not count. -/
theorem replaceFrom_eq_drop (part new : List Char) (skip : Nat) (cs : List Char) :
    replaceFrom part new skip cs = replaceFrom part new 0 (cs.drop skip) := by
  induction cs generalizing skip with
  | nil => simp [replaceFrom]
  | cons c cs ih =>
      cases skip with
      | zero => rfl
      | succ k => exact ih k

/-- An occurrence at the start is replaced. -/
theorem replaceFrom_append_part (c : Char) (part new rest : List Char) :
    replaceFrom (c :: part) new 0 (c :: part ++ rest)
      = new ++ replaceFrom (c :: part) new 0 rest := by
  have starts : (c :: part).isPrefixOf (c :: (part ++ rest)) = true :=
    List.isPrefixOf_iff_prefix.mpr (List.prefix_append (c :: part) rest)
  rw [List.cons_append, replaceFrom, if_pos starts, replaceFrom_eq_drop]
  simp

theorem replaceFrom_cons_of_not_prefix (h : ¬ part <+: c :: cs) :
    replaceFrom part new 0 (c :: cs) = c :: replaceFrom part new 0 cs := by
  rw [replaceFrom, if_neg fun e => h (List.isPrefixOf_iff_prefix.mp e)]

/-- **Text in which no occurrence starts is left as it is.** -/
theorem replaceFrom_append_of_free (h : occurrences part (cs ++ rest) = occurrences part rest) :
    replaceFrom part new 0 (cs ++ rest) = cs ++ replaceFrom part new 0 rest := by
  induction cs with
  | nil => rfl
  | cons c cs ih =>
      have below := occurrences_le_append part cs rest
      by_cases starts : part <+: c :: (cs ++ rest)
      · rw [List.cons_append, occurrences_cons_of_prefix starts] at h
        omega
      · rw [List.cons_append, occurrences_cons_of_not_prefix starts] at h
        rw [List.cons_append, replaceFrom_cons_of_not_prefix starts, ih h]
        rfl

end ApiTools.Text
