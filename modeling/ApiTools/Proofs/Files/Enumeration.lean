/-
  ApiTools.Proofs.Files.Enumeration
  ─────────────────────────────────
  **THE ORDER IN WHICH A TREE HOLDS ITS ITEMS.**

  A tree of files is a list of items, but nobody who looks into it can tell in
  which order they are held, as long as no path stands for two of them
  (`Distinct`).  Every change keeps a tree of that kind so (`Distinct.put`,
  `Distinct.remove`).  In such a tree

    • `find?_eq_some_iff` — what is found at a path is what stands there,
    • `walk_of_perm`, `get_of_perm` — items held in another order lead to the
      same places,
    • `pairwise_lt_list` — a folder lists its items in strictly increasing
      order of their names, each of them once,
    • `list_of_perm` — and lists the same for every order of the items.
-/
import Mathlib.Data.List.Nodup
import ApiTools.Proofs.Specification.FileName

namespace ApiTools.Files

variable {fs other : Files} {path : List String} {folder name : String} {item : FileItem}

/-! ## §1. One item at a path. -/

/-- No path stands for two items. -/
def Distinct (fs : Files) : Prop := (fs.items.map (·.1)).Nodup

/-- An item takes the place of what is at its path. -/
theorem Distinct.set (h : Distinct fs) (path : List String) (item : FileItem) :
    Distinct (fs.set path item) := by
  have kept : ((fs.items.filter fun e => e.1 != path).map (·.1)).Nodup :=
    h.sublist (List.filter_sublist.map _)
  have gone : path ∉ (fs.items.filter fun e => e.1 != path).map (·.1) := by
    intro mem
    obtain ⟨e, he, same⟩ := List.mem_map.mp mem
    rw [List.mem_filter, bne_iff_ne] at he
    exact he.2 same
  unfold Distinct Files.set
  rw [List.map_append, List.map_singleton]
  refine List.nodup_append.mpr ⟨kept, List.nodup_singleton path, ?_⟩
  rintro a ha b hb rfl
  rw [List.mem_singleton.mp hb] at ha
  exact gone ha

/-- Folders are made one by one, from above. -/
theorem Distinct.makeFolders (h : Distinct fs) (path : List String) :
    Distinct (fs.makeFolders path) := by
  unfold Files.makeFolders
  generalize List.range path.length = depths
  induction depths generalizing fs with
  | nil => exact h
  | cons n depths ih =>
      rw [List.foldl_cons]
      refine ih ?_
      dsimp only
      split
      next => exact h
      next => exact h.set _ _

theorem Distinct.put (h : Distinct fs) (path : String) (item : FileItem) :
    Distinct (fs.put path item) := by
  cases item with
  | file octets => exact (h.makeFolders _).set _ _
  | folder =>
      simp only [Files.put]
      split
      next => exact h
      next => exact (h.makeFolders _).set _ _

theorem Distinct.remove (h : Distinct fs) {path : String} (removed : fs.remove path = .ok other) :
    Distinct other := by
  unfold Files.remove at removed
  split at removed
  next =>
    injection removed with removed
    subst removed
    exact h.sublist (List.filter_sublist.map _)
  next => exact absurd removed (by simp)
  next => exact absurd removed (by simp)

/-- The order of the items does not matter. -/
theorem Distinct.of_perm (h : Distinct fs) (perm : other.items.Perm fs.items) : Distinct other :=
  (perm.map _).nodup_iff.mpr h

/-- An item is known by its path. -/
theorem Distinct.eq_of_mem (h : Distinct fs) {a b : List String × FileItem} (ha : a ∈ fs.items)
    (hb : b ∈ fs.items) (same : a.1 = b.1) : a = b :=
  List.inj_on_of_nodup_map h ha hb same

/-! ## §2. Looking, whatever the order. -/

/-- What is found at a path that does not lead to the present folder is what stands there. -/
theorem find?_eq_some_iff (h : Distinct fs) (below : path.isPrefixOf fs.present = false) :
    fs.find? path = some item ↔ (path, item) ∈ fs.items := by
  unfold find?
  rw [below, if_neg Bool.false_ne_true, Option.map_eq_some_iff]
  constructor
  · rintro ⟨e, first, rfl⟩
    have key := List.find?_some first
    rw [beq_iff_eq] at key
    rw [← key]
    exact List.mem_of_find?_eq_some first
  · intro mem
    cases first : List.find? (fun e => e.1 == path) fs.items with
    | none =>
        have missed := List.find?_eq_none.mp first (path, item) mem
        exact absurd (beq_self_eq_true path) missed
    | some e =>
        have key := List.find?_some first
        rw [beq_iff_eq] at key
        exact ⟨e, rfl, congrArg Prod.snd (h.eq_of_mem (List.mem_of_find?_eq_some first) mem key)⟩

/-- One tree holds the items of another one, in whichever order, and has the same present
folder. -/
structure Rearranges (other fs : Files) : Prop where
  items : other.items.Perm fs.items
  present : other.present = fs.present

theorem find?_of_perm (h : Distinct fs) (same : Rearranges other fs) (path : List String) :
    other.find? path = fs.find? path := by
  cases here : path.isPrefixOf fs.present with
  | true => rw [find?, find?, same.present, here, if_pos rfl, if_pos rfl]
  | false =>
      refine Option.ext fun item => ?_
      rw [find?_eq_some_iff (h.of_perm same.items) (by rw [same.present]; exact here),
        find?_eq_some_iff h here, same.items.mem_iff]

theorem walk_of_perm (h : Distinct fs) (same : Rearranges other fs)
    (here names : List String) : other.walk here names = fs.walk here names := by
  induction names generalizing here with
  | nil => rfl
  | cons name names ih => simp only [walk, find?_of_perm h same, ih]

theorem get_of_perm (h : Distinct fs) (same : Rearranges other fs) (path : String) :
    other.get path = fs.get path := by
  simp only [get, origin, same.present, walk_of_perm h same, find?_of_perm h same]

theorem isFolder_of_perm (h : Distinct fs) (same : Rearranges other fs) (path : String) :
    other.isFolder path = fs.isFolder path := by
  rw [isFolder, isFolder, get_of_perm h same]

/-! ## §3. What a folder holds. -/

/-- A folder holds an item under a name. -/
def Holds (fs : Files) (folder name : String) (item : FileItem) : Prop :=
  ∃ here, fs.walk (fs.origin folder) (pathNames folder) = .ok here ∧ (here ++ [name], item) ∈ fs.items

/-- The items of a folder are those that stand right below it. -/
theorem mem_list_iff : (name, item) ∈ fs.list folder ↔ fs.Holds folder name item := by
  unfold list Holds
  cases fs.walk (fs.origin folder) (pathNames folder) with
  | error p => simp
  | ok here =>
      simp only [List.mem_mergeSort, List.mem_filterMap, Except.ok.injEq, exists_eq_left']
      constructor
      · rintro ⟨⟨path, item'⟩, mem, inside⟩
        dsimp only at inside
        split at inside
        next above =>
          obtain ⟨last, hlast, same⟩ := Option.map_eq_some_iff.mp inside
          injection same with hname hitem
          rw [← above, ← hname, ← hitem, List.dropLast_append_getLast? last hlast]
          exact mem
        next => exact absurd inside (by simp)
      · intro mem
        exact ⟨_, mem, by simp⟩

/-- A path is a folder and the last name below it, so the names inside of a folder are distinct. -/
theorem Distinct.nodup_list (h : Distinct fs) (folder : String) :
    ((fs.list folder).map (·.1)).Nodup := by
  unfold list
  split
  next => exact List.nodup_nil
  next here walked =>
    dsimp only
    have inside : ((fs.items.filterMap fun e =>
        if e.1.dropLast = here then e.1.getLast?.map fun name => (name, e.2) else none).map
          (·.1)).Nodup := by
      have apart : fs.items.Pairwise fun a b => a.1 ≠ b.1 := List.pairwise_map.mp h
      refine List.pairwise_map.mpr (List.Pairwise.filterMap _ ?_ apart)
      rintro ⟨a, item⟩ ⟨b, item'⟩ ne x hx y hy same
      simp only [Option.ite_none_right_eq_some, Option.map_eq_some_iff] at hx hy
      obtain ⟨above, last, hlast, rfl⟩ := hx
      obtain ⟨above', last', hlast', rfl⟩ := hy
      dsimp only at same
      subst same
      refine ne ?_
      rw [← List.dropLast_append_getLast? last hlast, ← List.dropLast_append_getLast? last hlast',
        above, above']
    exact ((List.mergeSort_perm _ _).map _).nodup_iff.mpr inside

/-- **A folder lists its items in strictly increasing order of their names.** -/
theorem pairwise_lt_list (h : Distinct fs) (folder : String) :
    (fs.list folder).Pairwise (fun a b => a.1 < b.1) := by
  have sorted := SpecificationFile.pairwise_list fs folder
  have apart := List.pairwise_map.mp (h.nodup_list folder)
  exact (sorted.and apart).imp fun ⟨le, ne⟩ => Std.lt_of_le_of_ne le ne

/-- **A folder lists the same for every order in which the items are held.** -/
theorem list_of_perm (h : Distinct fs) (same : Rearranges other fs) (folder : String) :
    other.list folder = fs.list folder := by
  have distinct := h.of_perm same.items
  -- both lists increase strictly, and one cannot be a rearrangement of the other
  refine List.Perm.eq_of_pairwise ?_ (pairwise_lt_list distinct folder) (pairwise_lt_list h folder) ?_
  · intro a b _ _ ab ba
    exact absurd (String.lt_trans ab ba) (String.lt_irrefl a.1)
  · unfold list
    rw [walk_of_perm h same, origin, origin, same.present]
    cases fs.walk _ (pathNames folder) with
    | error p => exact List.Perm.refl []
    | ok here =>
        exact (List.mergeSort_perm _ _).trans
          ((same.items.filterMap _).trans (List.mergeSort_perm _ _).symm)

end ApiTools.Files
