/-
  ApiTools.Proofs.Parameter.Undeclared
  ────────────────────────────────────
  **NAMES IN BRACES THAT NOTHING DECLARES.**

  Merging reports the names of a path that no path parameter has.  It looks for
  them among the names under which declarations are kept; the parameters give
  the same answer, as the two names of a declaration are the same text or none
  is a text (`any_declares_iff`).

  `exists_kept_of_merge` says everything that merging does: what is kept, and
  what is reported on the way.
-/
import ApiTools.Proofs.Parameter.Merging
import ApiTools.Proofs.Path.Occurrence

namespace ApiTools.Parameter

/-! ## §1. Sorted lists without repetition. -/

/-- Dropping the repetitions of a sorted list leaves it strictly sorted. -/
theorem pairwise_lt_eraseDups (l : List String) (sorted : l.Pairwise (· ≤ ·)) :
    l.eraseDups.Pairwise (· < ·) := by
  match l with
  | [] => exact List.Pairwise.nil
  | a :: rest =>
      rw [List.pairwise_cons] at sorted
      obtain ⟨first, others⟩ := sorted
      rw [List.eraseDups_cons, List.pairwise_cons]
      constructor
      · intro b mem
        rw [List.mem_eraseDups, List.mem_filter] at mem
        obtain ⟨later, different⟩ := mem
        by_contra not_less
        have same : b = a := String.le_antisymm (String.not_lt.mp not_less) (first b later)
        rw [same] at different
        exact absurd different (by simp)
      · exact pairwise_lt_eraseDups _ (others.filter _)
termination_by l.length
decreasing_by
  have shorter := List.length_filter_le (fun b => !b == a) rest
  simp only [List.length_cons]
  omega

/-- Sorting texts and dropping repetitions. -/
theorem pairwise_lt_sorted (l : List String) :
    ((l.mergeSort fun a b => decide (a ≤ b)).eraseDups).Pairwise (· < ·) := by
  apply pairwise_lt_eraseDups
  have transitive : ∀ a b c : String, decide (a ≤ b) = true → decide (b ≤ c) = true →
      decide (a ≤ c) = true := by
    intro a b c first second
    exact decide_eq_true (String.le_trans (of_decide_eq_true first) (of_decide_eq_true second))
  have total : ∀ a b : String, (decide (a ≤ b) || decide (b ≤ a)) = true := by
    intro a b
    rw [Bool.or_eq_true, decide_eq_true_eq, decide_eq_true_eq]
    exact String.le_total a b
  exact (List.pairwise_mergeSort transitive total _).imp of_decide_eq_true

/-! ## §2. Names of declarations and of parameters. -/

/-- A declaration is kept under the text that names its parameter. -/
theorem Kept.Sound.name_iff {k : Kept} {es : Entries} (h : k.Sound es) {n : String} :
    k.parameter.name = .str n ↔ k.name = .str n := by
  have name : k.parameter.name = declaredName es := by
    rw [h.parameter_eq]
    rfl
  rw [name]
  rcases h.name_eq with equal | same
  · rw [equal]
  · -- a text is the same key as nothing but itself
    constructor
    · intro text
      rw [text] at same
      exact Value.sameKey_str_iff.mp same
    · intro text
      rw [text] at same
      exact Value.sameKey_str_iff.mp (Value.sameKey_symm same)

theorem Kept.Sound.location_parameter {k : Kept} {es : Entries} (h : k.Sound es) :
    k.parameter.location = k.location := by
  rw [h.parameter_eq]
  exact h.location_eq

/-- A path parameter of a name is kept exactly if one of the parameters is a path parameter of that
name. -/
theorem any_declares_iff {kept : List Kept} (h : Merged kept) (n : String) :
    (kept.any fun k => k.location.isText "path" && k.name.isText n) = true
      ↔ ∃ p ∈ kept.map (·.parameter), p.location = .str "path" ∧ p.name = .str n := by
  rw [List.any_eq_true]
  simp only [Bool.and_eq_true, Value.isText_eq_true_iff, List.mem_map]
  constructor
  · rintro ⟨k, mem, location, name⟩
    obtain ⟨es, sound⟩ := h.sound k mem
    exact ⟨k.parameter, ⟨k, mem, rfl⟩, sound.location_parameter.trans location,
      sound.name_iff.mpr name⟩
  · rintro ⟨_, ⟨k, mem, rfl⟩, location, name⟩
    obtain ⟨es, sound⟩ := h.sound k mem
    exact ⟨k, mem, sound.location_parameter.symm.trans location, sound.name_iff.mp name⟩

/-! ## §3. What merging does. -/

section Considering

variable {method path : String} {kept : List Kept} {x : Notice}

theorem notices_consider {d : Value} (h : x ∈ (consider method path kept d).notices) :
    ∃ name location, x = .locationSkipped name (Text.toUpper method) path location := by
  unfold consider at h
  simp only [Reported.notices_bind, Reported.notices_ofExcept, List.nil_append,
    Reported.outcome_ofExcept] at h
  split at h
  next => exact absurd h (List.not_mem_nil)
  next name _ =>
    split at h
    next => exact absurd h (List.not_mem_nil)
    next location _ =>
      -- of the four ends only one says something
      split at h
      next => exact absurd h (List.not_mem_nil)
      next =>
        split at h
        next => exact ⟨name, location, List.mem_singleton.mp h⟩
        next =>
          split at h
          next => exact absurd h (List.not_mem_nil)
          next => exact absurd h (List.not_mem_nil)

/-- Considering declarations reports locations only. -/
theorem notices_considerAll {ds : List Value}
    (h : x ∈ (considerAll method path kept ds).notices) :
    ∃ name location, x = .locationSkipped name (Text.toUpper method) path location := by
  induction ds generalizing kept with
  | nil => exact absurd h (List.not_mem_nil)
  | cons d ds ih =>
      rw [considerAll, Reported.notices_bind, List.mem_append] at h
      rcases h with first | later
      · exact notices_consider first
      · split at later
        next => exact absurd later (List.not_mem_nil)
        next => exact ih later

end Considering

/-- The report on a path whose names are not all declared. -/
def undeclaredNotice (method path : String) (names : List String) : List Notice :=
  if names.isEmpty then [] else [.pathNamesUndeclared (Text.toUpper method) path names]

theorem template_eq_ok {path : Value} {template : String} (h : path.template = .ok template) :
    path.text = template := by
  cases path with
  | str s => exact Except.ok.inj h
  | torn t => exact Except.ok.inj h
  | _ => exact absurd h (by simp [Value.template])

/-- Merging declarations that are considered without a fault, with its notices. -/
theorem merge_eq {common own path : Value} {method template : String}
    {declared added : List Value} {kept : List Kept} (hd : common.elements = .ok declared)
    (ha : own.elements = .ok added) (read : path.template = .ok template)
    (considered : (considerAll method template [] (declared ++ added)).outcome = .ok kept) :
    merge common own method path
      = ⟨(considerAll method template [] (declared ++ added)).notices
            ++ undeclaredNotice method template (undeclaredNames template kept),
          .ok (kept.map (·.declaration))⟩ := by
  unfold merge
  rw [hd, ha, Reported.ofExcept_ok_bind, Reported.ofExcept_ok_bind, template_eq_ok read, read]
  show (considerAll method template [] (declared ++ added) >>= _) = _
  rw [Reported.bind_of_ok considered]
  unfold undeclaredNotice
  show (⟨_ ++ Reported.notices (if !(undeclaredNames template kept).isEmpty then _ else _),
    Reported.outcome (if !(undeclaredNames template kept).isEmpty then _ else _)⟩
      : Reported (List Value)) = _
  cases (undeclaredNames template kept).isEmpty with
  | true => rfl
  | false => rfl

/-- **Everything that merging does.** -/
theorem exists_kept_of_merge {common own path : Value} {method : String} {ds : List Value}
    (h : (merge common own method path).outcome = .ok ds) :
    ∃ declared added template kept,
      common.elements = .ok declared ∧ own.elements = .ok added ∧ path.text = template
        ∧ (considerAll method template [] (declared ++ added)).outcome = .ok kept
        ∧ ds = kept.map (·.declaration)
        ∧ (merge common own method path).notices
          = (considerAll method template [] (declared ++ added)).notices
            ++ undeclaredNotice method template (undeclaredNames template kept) := by
  -- the answers of the steps come first; with them the merge is known as a whole
  have whole := h
  unfold merge at h
  simp only [Reported.outcome_bind, Reported.outcome_ofExcept] at h
  obtain ⟨declared, hd, h⟩ := bind_eq_ok.mp h
  obtain ⟨added, ha, h⟩ := bind_eq_ok.mp h
  obtain ⟨kept, considered, h⟩ := bind_eq_ok.mp h
  obtain ⟨template, read, _⟩ := bind_eq_ok.mp h
  have path_text := template_eq_ok read
  rw [path_text] at considered
  have merged : merge common own method path = _ := merge_eq hd ha read considered
  refine ⟨declared, added, template, kept, hd, ha, path_text, considered, ?_, ?_⟩
  · rw [merged] at whole
    injection whole with whole
    exact whole.symm
  · rw [merged]

end ApiTools.Parameter
