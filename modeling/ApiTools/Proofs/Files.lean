/-
  ApiTools.Proofs.Files
  ─────────────────────
  **PATHS THAT LEAD TO FILES.**

  A path lists plain names, and written out again they are the same path
  (`pathNames_intercalate`).  What is read at a path is what a file of the tree
  holds (`exists_item_of_read`).  A path from the root without two points leads
  exactly where its names say, so what is read there stands there under these
  names (`mem_items_of_read`), and a tree of files has no more readable paths of
  that kind than items.
-/
import ApiTools.Files

namespace ApiTools.Files

/-! ## §1. Names. -/

theorem slashParts_eq_splitOn (cs : List Char) : slashParts cs = cs.splitOn '/' := by
  induction cs with
  | nil => rfl
  | cons c cs ih =>
      rw [slashParts, ih, List.splitOn_cons_eq_if_modifyHead]
      cases parts : cs.splitOn '/' with
      | nil => exact absurd parts (List.splitOn_ne_nil '/' cs)
      | cons part parts =>
          by_cases slash : c = '/'
          · rw [slash]
            rfl
          · rw [if_neg (by simpa using slash)]
            dsimp only
            rw [if_neg slash]
            rfl

theorem not_mem_of_mem_slashParts {cs part : List Char} (mem : part ∈ slashParts cs) :
    '/' ∉ part := by
  induction cs generalizing part with
  | nil =>
      rw [slashParts, List.mem_singleton] at mem
      rw [mem]
      exact List.not_mem_nil
  | cons c cs ih =>
      rw [slashParts] at mem
      cases parts : slashParts cs with
      | nil =>
          rw [slashParts_eq_splitOn] at parts
          exact absurd parts (List.splitOn_ne_nil '/' cs)
      | cons first others =>
          rw [parts] at mem ih
          have first_plain := ih List.mem_cons_self
          have others_plain := fun p hp => @ih p (List.mem_cons_of_mem first hp)
          dsimp only at mem
          split at mem
          next =>
            rcases List.mem_cons.mp mem with rfl | mem
            · exact List.not_mem_nil
            · exact ih mem
          next other =>
            rcases List.mem_cons.mp mem with rfl | mem
            · exact List.not_mem_cons_of_ne_of_not_mem (fun same => other same.symm) first_plain
            · exact others_plain part mem

/-- A name that a path can list. -/
structure PlainName (name : String) : Prop where
  ne_empty : name ≠ ""
  ne_point : name ≠ "."
  no_slash : '/' ∉ name.toList

theorem plainName_of_mem_pathNames {path name : String} (mem : name ∈ pathNames path) :
    PlainName name := by
  unfold pathNames at mem
  obtain ⟨mem, fit⟩ := List.mem_filter.mp mem
  obtain ⟨part, hp, rfl⟩ := List.mem_map.mp mem
  rw [decide_eq_true_iff] at fit
  refine ⟨fit.1, fit.2, ?_⟩
  rw [String.toList_ofList]
  exact not_mem_of_mem_slashParts hp

/-- **Plain names with slashes between are the names of a path.** -/
theorem pathNames_intercalate {names : List String} (h : ∀ n ∈ names, PlainName n)
    (some_name : names ≠ []) : pathNames ("/".intercalate names) = names := by
  have cut : slashParts ("/".intercalate names).toList = names.map String.toList := by
    rw [slashParts_eq_splitOn, String.toList_intercalate]
    refine List.splitOn_intercalate '/' (fun part mem => ?_) (by simpa using some_name)
    obtain ⟨n, hn, rfl⟩ := List.mem_map.mp mem
    exact (h n hn).no_slash
  unfold pathNames
  rw [cut, List.map_map]
  have same : String.ofList ∘ String.toList = id := funext fun _ => String.ofList_toList
  rw [same, List.map_id, List.filter_eq_self]
  intro n hn
  rw [decide_eq_true_iff]
  exact ⟨(h n hn).ne_empty, (h n hn).ne_point⟩

/-- A slash in front adds no name. -/
theorem pathNames_slash (path : String) : pathNames ("/" ++ path) = pathNames path := by
  have cut : slashParts ("/" ++ path).toList = [] :: slashParts path.toList := by
    rw [String.toList_append]
    change slashParts ('/' :: path.toList) = _
    rw [slashParts]
    cases parts : slashParts path.toList with
    | nil =>
        rw [slashParts_eq_splitOn] at parts
        exact absurd parts (List.splitOn_ne_nil '/' _)
    | cons part parts => rfl
  unfold pathNames
  rw [cut]
  rfl

/-! ## §2. Looking. -/

variable {fs : Files} {here there names : List String} {path : String} {octets : List UInt8}

/-- Names other than two points lead deeper, one by one. -/
theorem walk_eq_ok (downwards : ∀ n ∈ names, n ≠ "..") (h : fs.walk here names = .ok there) :
    there = here ++ names := by
  induction names generalizing here with
  | nil =>
      injection h with h
      rw [← h, List.append_nil]
  | cons name names ih =>
      rw [List.forall_mem_cons] at downwards
      rw [walk] at h
      split at h
      next => exact absurd h (by simp)
      next => exact absurd h (by simp)
      next =>
        rw [if_neg downwards.1] at h
        rw [ih downwards.2 h, List.append_assoc]
        rfl

/-- A file that is found is one of the items. -/
theorem mem_items_of_find? (found : fs.find? here = some (.file octets)) :
    (here, .file octets) ∈ fs.items := by
  unfold find? at found
  split at found
  next => exact absurd found (by simp)
  next =>
    obtain ⟨e, first, same⟩ := Option.map_eq_some_iff.mp found
    have key := List.find?_some first
    rw [beq_iff_eq] at key
    rw [← key, ← same]
    exact List.mem_of_find?_eq_some first

/-- What is read stands where the names of its path lead. -/
theorem exists_walk_of_read (h : fs.read path = .ok octets) :
    ∃ here, fs.walk (fs.origin path) (pathNames path) = .ok here
      ∧ (here, .file octets) ∈ fs.items := by
  unfold read at h
  split at h
  next => exact absurd h (by simp)
  next =>
    split at h
    next octets' got =>
      injection h with h
      subst h
      unfold get at got
      split at got
      next => exact absurd got (by simp)
      next =>
        split at got
        next => exact absurd got (by simp)
        next here walked =>
          refine ⟨here, walked, ?_⟩
          split at got
          next item found =>
            injection got with got
            subst got
            exact mem_items_of_find? found
          next => exact absurd got (by simp)
    next => exact absurd h (by simp)
    next => exact absurd h (by simp)

/-- What is read is what a file of the tree holds. -/
theorem exists_item_of_read (h : fs.read path = .ok octets) :
    ∃ here, (here, .file octets) ∈ fs.items := by
  obtain ⟨here, _, mem⟩ := exists_walk_of_read h
  exact ⟨here, mem⟩

/-- **What is read at a path of plain names from the root stands there under these names.** -/
theorem mem_items_of_read (plain : ∀ n ∈ names, PlainName n) (downwards : ∀ n ∈ names, n ≠ "..")
    (h : fs.read ("/" ++ "/".intercalate names) = .ok octets) :
    (names, .file octets) ∈ fs.items := by
  obtain ⟨here, walked, mem⟩ := exists_walk_of_read h
  have absolute : isAbsolute ("/" ++ "/".intercalate names) = true := by
    unfold isAbsolute
    rw [String.toList_append]
    rfl
  rw [origin, if_pos absolute, pathNames_slash] at walked
  cases names with
  | nil =>
      rw [walk_eq_ok (fun _ mem => absurd mem List.not_mem_nil) walked] at mem
      exact mem
  | cons name names =>
      rw [pathNames_intercalate plain (List.cons_ne_nil name names)] at walked
      rw [walk_eq_ok downwards walked, List.nil_append] at mem
      exact mem

end ApiTools.Files
