/-
  ApiTools.Proofs.Table.LastDefinition
  ────────────────────────────────────
  **THE LAST DEFINITION WINS, HOWEVER THE DEFINITIONS ARE GROUPED.**

  A list of definitions is followed in two ways.  A table (`Table.insertAll`)
  keeps every name at its first place with its last thing; a list
  (`keepLast`) drops what has the key of the newcomer and puts the newcomer at
  the end.  Both can be told from the definitions at once (`lastBy`), and both
  stay the same when the definitions are first followed in groups and the
  results afterwards:

    • `keepLast_eq_lastBy`, `lastBy_flatMap_lastBy` — lists,
    • `names_ofList`, `get?_ofList_of_mem_lastBy` — tables,
    • `insertAll_ofList`, `ofList_flatMap_ofList` — tables from tables.
-/
import ApiTools.Table

namespace ApiTools

/-! ## §1. The last ones of a list. -/

section LastBy

variable {α β κ : Type} [DecidableEq κ]

/-- The elements that no later one with the same key follows, in their order. -/
def lastBy (key : α → κ) : List α → List α
  | [] => []
  | x :: xs => if key x ∈ xs.map key then lastBy key xs else x :: lastBy key xs

/-- Puts an element at the end of a list, in the place of those with its key. -/
def keepLast (key : α → κ) (kept : List α) (x : α) : List α :=
  kept.filter (fun y => key y != key x) ++ [x]

theorem mem_map_lastBy (key : α → κ) (k : κ) (xs : List α) :
    k ∈ (lastBy key xs).map key ↔ k ∈ xs.map key := by
  induction xs with
  | nil => simp [lastBy]
  | cons x xs ih =>
      simp only [lastBy]
      split
      next later =>
        rw [ih, List.map_cons, List.mem_cons]
        constructor
        · exact Or.inr
        · rintro (rfl | h)
          · exact later
          · exact h
      next => simp only [List.map_cons, List.mem_cons, ih]

theorem sublist_lastBy (key : α → κ) (xs : List α) : (lastBy key xs).Sublist xs := by
  induction xs with
  | nil => exact List.Sublist.slnil
  | cons x xs ih =>
      rw [lastBy]
      split
      next => exact List.Sublist.cons x ih
      next => exact List.Sublist.cons_cons x ih

/-- Every key is left once. -/
theorem nodup_map_lastBy (key : α → κ) (xs : List α) : ((lastBy key xs).map key).Nodup := by
  induction xs with
  | nil => simp [lastBy]
  | cons x xs ih =>
      simp only [lastBy]
      split
      next => exact ih
      next fresh =>
        rw [List.map_cons, List.nodup_cons, mem_map_lastBy]
        exact ⟨fresh, ih⟩

/-- An element that no later one with its key follows is left … -/
theorem mem_lastBy_of_split {key : α → κ} {x : α} {after : List α}
    (last : key x ∉ after.map key) (before : List α) :
    x ∈ lastBy key (before ++ x :: after) := by
  induction before with
  | nil =>
      rw [List.nil_append, lastBy, if_neg last]
      exact List.mem_cons_self
  | cons y before ih =>
      rw [List.cons_append, lastBy]
      split
      next => exact ih
      next => exact List.mem_cons_of_mem y ih

/-- … and no other is. -/
theorem exists_split_of_mem_lastBy {key : α → κ} {x : α} {xs : List α}
    (h : x ∈ lastBy key xs) :
    ∃ before after, xs = before ++ x :: after ∧ key x ∉ after.map key := by
  induction xs with
  | nil => exact absurd h (List.not_mem_nil)
  | cons y xs ih =>
      rw [lastBy] at h
      split at h
      next =>
        obtain ⟨before, after, rfl, unfollowed⟩ := ih h
        exact ⟨y :: before, after, rfl, unfollowed⟩
      next last =>
        rcases List.mem_cons.mp h with rfl | h
        · exact ⟨[], xs, rfl, last⟩
        · obtain ⟨before, after, rfl, unfollowed⟩ := ih h
          exact ⟨y :: before, after, rfl, unfollowed⟩

theorem lastBy_map (key : β → κ) (f : α → β) (xs : List α) :
    lastBy key (xs.map f) = (lastBy (key ∘ f) xs).map f := by
  induction xs with
  | nil => rfl
  | cons x xs ih =>
      simp only [List.map_cons, lastBy, ih, List.map_map, Function.comp_apply]
      split <;> rfl

/-- Going through one more element is keeping it last. -/
theorem lastBy_concat (key : α → κ) (xs : List α) (x : α) :
    lastBy key (xs ++ [x]) = keepLast key (lastBy key xs) x := by
  induction xs with
  | nil => simp [lastBy, keepLast]
  | cons y ys ih =>
      simp only [List.cons_append, lastBy, ih, List.map_append, List.mem_append]
      -- `y` goes if a later one of the list has its key, or if the newcomer does
      by_cases same : key y = key x
      · by_cases later : key y ∈ ys.map key
        · rw [if_pos (Or.inl later), if_pos later]
        · rw [if_pos (Or.inr (by simp [same])), if_neg later]
          simp [keepLast, same]
      · by_cases later : key y ∈ ys.map key
        · rw [if_pos (Or.inl later), if_pos later]
        · rw [if_neg (by simpa [same] using later), if_neg later]
          simp [keepLast, same]

/-- **Keeping elements last, one after the other, keeps the last ones.** -/
theorem keepLast_eq_lastBy (key : α → κ) (xs ys : List α) :
    ys.foldl (keepLast key) (lastBy key xs) = lastBy key (xs ++ ys) := by
  induction ys generalizing xs with
  | nil => simp
  | cons y ys ih =>
      rw [List.foldl_cons, ← lastBy_concat, ih, List.append_assoc, List.singleton_append]

theorem lastBy_lastBy_append (key : α → κ) (xs ys : List α) :
    lastBy key (lastBy key xs ++ ys) = lastBy key (xs ++ ys) := by
  induction xs with
  | nil => rfl
  | cons x xs ih =>
      by_cases later : key x ∈ xs.map key
      · have again : key x ∈ (xs ++ ys).map key := by
          rw [List.map_append, List.mem_append]
          exact Or.inl later
        rw [lastBy, if_pos later, ih, List.cons_append, lastBy, if_pos again]
      · rw [lastBy, if_neg later, List.cons_append, List.cons_append]
        simp only [lastBy, ih, List.map_append, List.mem_append, mem_map_lastBy]

theorem lastBy_append_lastBy (key : α → κ) (xs ys : List α) :
    lastBy key (xs ++ lastBy key ys) = lastBy key (xs ++ ys) := by
  induction xs with
  | nil =>
      have h := lastBy_lastBy_append key ys []
      simpa using h
  | cons x xs ih =>
      simp only [List.cons_append, lastBy, ih, List.map_append, List.mem_append, mem_map_lastBy]

/-- **The last of the groups' last ones are the last of all.** -/
theorem lastBy_flatMap_lastBy (key : α → κ) (groups : List (List α)) :
    lastBy key (groups.flatMap (lastBy key)) = lastBy key groups.flatten := by
  induction groups with
  | nil => rfl
  | cons g gs ih =>
      -- the later groups are brought to their last ones for `ih`, and back
      rw [List.flatMap_cons, List.flatten_cons, lastBy_lastBy_append, ← lastBy_append_lastBy, ih,
        lastBy_append_lastBy]

end LastBy

/-! ## §2. Tables from definitions. -/

namespace Table

variable {α : Type}

/-- Stores entries in a table, one after the other. -/
def insertAll (t : Table α) (entries : List (String × α)) : Table α :=
  entries.foldl (fun t e => insert e.1 e.2 t) t

theorem insertAll_cons (t : Table α) (e : String × α) (entries : List (String × α)) :
    insertAll t (e :: entries) = insertAll (insert e.1 e.2 t) entries := rfl

theorem insertAll_append (t : Table α) (es fs : List (String × α)) :
    insertAll t (es ++ fs) = insertAll (insertAll t es) fs := List.foldl_append

theorem contains_eq_true_iff (name : String) (t : Table α) :
    contains name t = true ↔ name ∈ names t := by
  induction t with
  | nil => simp [contains, get?, names]
  | cons e rest ih =>
      obtain ⟨n, y⟩ := e
      simp only [contains, names, get?, List.map_cons, List.mem_cons] at ih ⊢
      by_cases h : n = name
      · simp [h]
      · have h' : ¬ name = n := fun e => h e.symm
        simp [h, h', ih]

theorem mem_names_insert (other name : String) (x : α) (t : Table α) :
    other ∈ names (insert name x t) ↔ other = name ∨ other ∈ names t := by
  rw [names_insert]
  split
  next h =>
    have known := (contains_eq_true_iff name t).mp h
    constructor
    · exact Or.inr
    · rintro (rfl | h)
      · exact known
      · exact h
  next => simp [or_comm]

theorem nodup_names_insert (name : String) (x : α) {t : Table α} (h : (names t).Nodup) :
    (names (insert name x t)).Nodup := by
  rw [names_insert]
  split
  next => exact h
  next new =>
    rw [List.nodup_append]
    refine ⟨h, by simp, ?_⟩
    intro a ha b hb
    rw [List.mem_singleton] at hb
    subst hb
    rintro rfl
    exact new ((contains_eq_true_iff a t).mpr ha)

/-- A name that is not in a table goes to its end. -/
theorem insert_of_not_mem {name : String} (x : α) {t : Table α} (new : name ∉ names t) :
    insert name x t = t ++ [(name, x)] := by
  induction t with
  | nil => rfl
  | cons e rest ih =>
      obtain ⟨n, y⟩ := e
      obtain ⟨differ, new⟩ := not_or.mp (mt List.mem_cons.mpr new)
      rw [insert, if_neg (Ne.symm differ), ih new]
      rfl

theorem insertAll_of_nodup {t : Table α} {entries : List (String × α)}
    (h : (names (t ++ entries)).Nodup) : insertAll t entries = t ++ entries := by
  induction entries generalizing t with
  | nil => exact (List.append_nil t).symm
  | cons e entries ih =>
      have new : e.1 ∉ names t := by
        intro known
        unfold names at h
        rw [List.map_append, List.nodup_append] at h
        exact h.2.2 e.1 known e.1 List.mem_cons_self rfl
      rw [List.append_cons] at h
      rw [insertAll_cons, insert_of_not_mem e.2 new, ih h, ← List.append_cons]

/-- Definitions under distinct names are a table as they are. -/
theorem ofList_of_nodup {entries : List (String × α)} (h : (entries.map (·.1)).Nodup) :
    ofList entries = entries :=
  insertAll_of_nodup (t := []) h

theorem eraseDups_eq_self_of_nodup {ns : List String} (h : ns.Nodup) : ns.eraseDups = ns := by
  induction ns with
  | nil => rfl
  | cons n ns ih =>
      obtain ⟨fresh, h⟩ := List.nodup_cons.mp h
      have other : ns.filter (fun b => !b == n) = ns := by
        rw [List.filter_eq_self]
        intro b hb
        have : b ≠ n := fun e => fresh (e ▸ hb)
        simp [this]
      rw [List.eraseDups_cons, other, ih h]

/-- Names that are known come from the table, new ones from their first definition. -/
theorem names_insertAll {t : Table α} (h : (names t).Nodup) (entries : List (String × α)) :
    names (insertAll t entries) = (names t ++ entries.map (·.1)).eraseDups := by
  induction entries generalizing t with
  | nil =>
      rw [List.map_nil, List.append_nil, eraseDups_eq_self_of_nodup h]
      rfl
  | cons e entries ih =>
      rw [insertAll_cons, ih (nodup_names_insert e.1 e.2 h), names_insert]
      split
      next known =>
        have old : (names t).contains e.1 = true := by
          simpa using (contains_eq_true_iff e.1 t).mp known
        rw [List.map_cons, List.eraseDups_append, List.eraseDups_append, List.cons_removeAll, old]
        rfl
      next => rw [List.map_cons, List.append_assoc, List.singleton_append]

/-- The names of a table made of definitions, each at its first definition. -/
theorem names_ofList (entries : List (String × α)) :
    names (ofList entries) = (entries.map (·.1)).eraseDups :=
  names_insertAll (t := []) List.nodup_nil entries

theorem get?_insertAll_of_not_mem {name : String} {entries : List (String × α)} (t : Table α)
    (h : name ∉ entries.map (·.1)) : get? name (insertAll t entries) = get? name t := by
  induction entries generalizing t with
  | nil => rfl
  | cons e entries ih =>
      rw [List.map_cons, List.mem_cons, not_or] at h
      obtain ⟨other, h⟩ := h
      rw [insertAll_cons, ih _ h, get?_insert, if_neg fun e => other e.symm]

theorem get?_insertAll_of_mem_lastBy {e : String × α} {entries : List (String × α)} (t : Table α)
    (h : e ∈ lastBy (·.1) entries) : get? e.1 (insertAll t entries) = some e.2 := by
  induction entries generalizing t with
  | nil => simp [lastBy] at h
  | cons d entries ih =>
      rw [insertAll_cons]
      simp only [lastBy] at h
      split at h
      next => exact ih _ h
      next last =>
        rcases List.mem_cons.mp h with rfl | h
        · rw [get?_insertAll_of_not_mem _ last, get?_insert, if_pos rfl]
        · exact ih _ h

/-- A table made of definitions holds the last definition of each name. -/
theorem get?_ofList_of_mem_lastBy {e : String × α} {entries : List (String × α)}
    (h : e ∈ lastBy (·.1) entries) : get? e.1 (ofList entries) = some e.2 :=
  get?_insertAll_of_mem_lastBy [] h

theorem mem_of_get? {name : String} {x : α} {t : Table α} (h : get? name t = some x) :
    (name, x) ∈ t := by
  induction t with
  | nil => exact absurd h (by simp [get?])
  | cons e rest ih =>
      rw [get?] at h
      split at h
      next same =>
        injection h with h
        subst same h
        exact List.mem_cons_self
      next => exact List.mem_cons_of_mem e (ih h)

theorem mem_of_mem_insert {e : String × α} {name : String} {x : α} {t : Table α}
    (h : e ∈ insert name x t) : e = (name, x) ∨ e ∈ t := by
  induction t with
  | nil =>
      rw [insert, List.mem_singleton] at h
      exact Or.inl h
  | cons d rest ih =>
      obtain ⟨n, y⟩ := d
      rw [insert] at h
      split at h
      next same =>
        rcases List.mem_cons.mp h with rfl | h
        · rw [same]
          exact Or.inl rfl
        · exact Or.inr (List.mem_cons_of_mem _ h)
      next =>
        rcases List.mem_cons.mp h with rfl | h
        · exact Or.inr List.mem_cons_self
        · rcases ih h with h | h
          · exact Or.inl h
          · exact Or.inr (List.mem_cons_of_mem _ h)

theorem mem_of_mem_insertAll {e : String × α} {t : Table α} {entries : List (String × α)}
    (h : e ∈ insertAll t entries) : e ∈ t ∨ e ∈ entries := by
  induction entries generalizing t with
  | nil => exact Or.inl h
  | cons d entries ih =>
      rw [insertAll_cons] at h
      rcases ih h with h | h
      · rcases mem_of_mem_insert h with rfl | h
        · exact Or.inr List.mem_cons_self
        · exact Or.inl h
      · exact Or.inr (List.mem_cons_of_mem d h)

/-- A table made of definitions holds nothing else. -/
theorem mem_of_mem_ofList {e : String × α} {entries : List (String × α)} (h : e ∈ ofList entries) :
    e ∈ entries := by
  rcases mem_of_mem_insertAll (t := []) h with h | h
  · simp at h
  · exact h

/-! ## §3. Tables from tables. -/

theorem insert_insert_same (name : String) (x y : α) (t : Table α) :
    insert name x (insert name y t) = insert name x t := by
  induction t with
  | nil => simp [insert]
  | cons e rest ih =>
      obtain ⟨n, z⟩ := e
      by_cases h : n = name <;> simp [insert, h, ih]

/-- Storing under a name that is known and storing under another one do not disturb each other. -/
theorem insert_insert_of_mem {name other : String} (x y : α) {t : Table α} (differ : other ≠ name)
    (known : name ∈ names t) :
    insert other y (insert name x t) = insert name x (insert other y t) := by
  induction t with
  | nil => simp [names] at known
  | cons e rest ih =>
      obtain ⟨n, z⟩ := e
      by_cases h : n = name
      · subst h
        have differ' : n ≠ other := fun e => differ e.symm
        simp [insert, differ']
      · have known' : name ∈ names rest := by
          rcases List.mem_cons.mp known with e | known
          · exact absurd e.symm h
          · exact known
        by_cases h' : n = other
        · subst h'
          simp [insert, h]
        · simp [insert, h, h', ih known']

theorem insertAll_insert_of_mem {name : String} (x : α) {t : Table α} {entries : List (String × α)}
    (known : name ∈ names t) (absent : name ∉ entries.map (·.1)) :
    insertAll (insert name x t) entries = insert name x (insertAll t entries) := by
  induction entries generalizing t with
  | nil => rfl
  | cons e entries ih =>
      rw [List.map_cons, List.mem_cons, not_or] at absent
      obtain ⟨differ, absent⟩ := absent
      have known' : name ∈ names (insert e.1 e.2 t) :=
        (mem_names_insert name e.1 e.2 t).mpr (Or.inr known)
      rw [insertAll_cons, insertAll_cons,
        insert_insert_of_mem x e.2 (fun same => differ same.symm) known, ih known' absent]

/-- Storing a table with one more definition is storing the table and then the definition. -/
theorem insertAll_insert (name : String) (x : α) {u : Table α} (h : (names u).Nodup)
    (t : Table α) : insertAll t (insert name x u) = insert name x (insertAll t u) := by
  induction u generalizing t with
  | nil => rfl
  | cons e rest ih =>
      obtain ⟨n, y⟩ := e
      obtain ⟨fresh, h⟩ := List.nodup_cons.mp h
      by_cases same : n = name
      · subst same
        -- once `n` is stored, the rest of the table does not touch it
        have stored : n ∈ names (insert n y t) := (mem_names_insert n n y t).mpr (Or.inl rfl)
        rw [insert, if_pos rfl, insertAll_cons, insertAll_cons,
          ← insertAll_insert_of_mem x stored fresh, insert_insert_same]
      · rw [insert, if_neg same, insertAll_cons, insertAll_cons, ih h]

/-- **Storing what definitions made is storing the definitions.** -/
theorem insertAll_ofList (t : Table α) (entries : List (String × α)) :
    insertAll t (ofList entries) = insertAll t entries := by
  -- the definitions that are already in the table `u` come first
  have from_table : ∀ u : Table α, (names u).Nodup →
      insertAll t (insertAll u entries) = insertAll (insertAll t u) entries := by
    induction entries with
    | nil => exact fun u _ => rfl
    | cons e entries ih =>
        intro u h
        rw [insertAll_cons, insertAll_cons, ih _ (nodup_names_insert e.1 e.2 h),
          insertAll_insert e.1 e.2 h]
  exact from_table [] List.nodup_nil

theorem insertAll_flatMap_ofList (t : Table α) (groups : List (List (String × α))) :
    insertAll t (groups.flatMap ofList) = insertAll t groups.flatten := by
  induction groups generalizing t with
  | nil => rfl
  | cons g gs ih =>
      rw [List.flatMap_cons, List.flatten_cons, insertAll_append, insertAll_append,
        insertAll_ofList, ih]

/-- **A table made of tables is the table of all their definitions.** -/
theorem ofList_flatMap_ofList (groups : List (List (String × α))) :
    ofList (groups.flatMap ofList) = ofList groups.flatten :=
  insertAll_flatMap_ofList [] groups

end Table

end ApiTools
