/-
  ApiTools.Proofs.Registry.Merging
  ────────────────────────────────
  **REGISTRIES MAY BE MERGED IN GROUPS.**

  Merging goes through the entries of its parts, stores each one and reports
  those whose name is stored already.  What is stored follows two rules that
  look at different ends of the entries: a name has the place of its first
  entry and the request of its last.  What is reported is kept apart from both,
  and the two sides are tied by one account: every entry makes either a new
  name or a report (`reports_perm`).

  Merging parts in groups, and then what the groups gave, leaves all of this
  alone.  A name that two groups share is reported when the groups meet, and no
  longer inside one of them, so each report may come earlier or later; but the
  registry is the same, and so are the reports up to their order
  (`merge_in_groups`).
-/
import ApiTools.Registry
import ApiTools.Proofs.Table.LastDefinition
import Mathlib.Data.List.Perm.Basic

namespace ApiTools.Registry

open scoped List

/-! ## §1. What is stored. -/

theorem fst_foldl_addEntry (entries : List (String × Request))
    (state : Table Request × List Notice) :
    (entries.foldl addEntry state).1 = Table.insertAll state.1 entries := by
  induction entries generalizing state with
  | nil => rfl
  | cons e entries ih => exact ih (addEntry state e)

/-- A merged registry stores the entries of its parts one after the other. -/
theorem requests_merge (parts : List (Table Request)) :
    (merge parts).1.requests = Table.ofList parts.flatten :=
  fst_foldl_addEntry parts.flatten ([], [])

/-- Looking up a text that the registry stores gives the request. -/
theorem lookup_of_get? {r : Registry} {name : String} {request : Request}
    (h : Table.get? name r.requests = some request) : r.lookup (.str name) = .ok request := by
  simp [lookup, find?, Value.hashable, Value.isAtom, h]

/-- Every name stands at its first entry. -/
theorem names_merge (parts : List (Table Request)) :
    (merge parts).1.names = (parts.flatten.map (·.1)).eraseDups := by
  unfold names
  rw [requests_merge, Table.names_ofList]

/-- Every name stands for its last entry. -/
theorem lookup_merge {parts : List (Table Request)} {e : String × Request}
    (last : e ∈ lastBy (·.1) parts.flatten) : (merge parts).1.lookup (.str e.1) = .ok e.2 := by
  apply lookup_of_get?
  rw [requests_merge]
  exact Table.get?_ofList_of_mem_lastBy last

/-! ## §2. What is reported. -/

/-- The reports that were given, and one for each name that is stored. -/
def account (state : Table Request × List Notice) : List Notice :=
  state.2 ++ (Table.names state.1).map Notice.toolCollision

/-- An entry goes on the account of its name, whether the name is new or not. -/
theorem account_addEntry (state : Table Request × List Notice) (e : String × Request) :
    account (addEntry state e) ~ account state ++ [.toolCollision e.1] := by
  unfold account addEntry
  dsimp only
  rw [Table.names_insert]
  cases Table.contains e.1 state.1 with
  | true =>
      show state.2 ++ [Notice.toolCollision e.1] ++ (Table.names state.1).map _ ~ _
      rw [List.append_assoc, List.append_assoc]
      exact List.perm_append_comm.append_left state.2
  | false =>
      show state.2 ++ (Table.names state.1 ++ [e.1]).map Notice.toolCollision ~ _
      rw [List.map_append, List.append_assoc]
      exact List.Perm.refl _

theorem account_foldl_addEntry (entries : List (String × Request))
    (state : Table Request × List Notice) :
    account (entries.foldl addEntry state)
      ~ account state ++ entries.map fun e => .toolCollision e.1 := by
  induction entries generalizing state with
  | nil =>
      rw [List.map_nil, List.append_nil]
      exact List.Perm.refl _
  | cons e entries ih =>
      have first := account_addEntry state e
      rw [List.map_cons, List.append_cons]
      exact (ih (addEntry state e)).trans (first.append_right _)

/-- **Every entry of the parts makes a name or a report.** -/
theorem reports_perm (parts : List (Table Request)) :
    (merge parts).2 ++ (merge parts).1.names.map Notice.toolCollision
      ~ parts.flatten.map fun e => .toolCollision e.1 :=
  account_foldl_addEntry parts.flatten ([], [])

/-- Merging reports collisions and nothing else. -/
theorem exists_collision_of_mem {parts : List (Table Request)} {x : Notice}
    (h : x ∈ (merge parts).2) : ∃ name, x = .toolCollision name := by
  have listed := (reports_perm parts).subset (List.mem_append_left _ h)
  obtain ⟨e, _, rfl⟩ := List.mem_map.mp listed
  exact ⟨e.1, rfl⟩

/-- **Entries of the parts are stored or reported.** -/
theorem length_reports (parts : List (Table Request)) :
    (merge parts).2.length + (merge parts).1.size = parts.flatten.length := by
  have counted := (reports_perm parts).length_eq
  unfold names Table.names at counted
  rwa [List.length_append, List.length_map, List.length_map, List.length_map] at counted

/-- Parts that share no name are put one after the other, and there is nothing to report. -/
theorem merge_of_nodup {parts : List (Table Request)}
    (distinct : (Table.names parts.flatten).Nodup) : merge parts = (⟨parts.flatten⟩, []) := by
  have stored : (merge parts).1.requests = parts.flatten := by
    rw [requests_merge, Table.ofList_of_nodup distinct]
  have silent : (merge parts).2 = [] := by
    -- every entry is stored, so that no report is left
    have counted := length_reports parts
    unfold size at counted
    rw [stored] at counted
    rw [← List.length_eq_zero_iff]
    omega
  exact Prod.ext (congrArg Registry.mk stored) silent

/-! ## §3. Groups. -/

/-- Merges the parts of each group, and then what the groups gave.  The reports of the groups come
first. -/
def mergeInGroups (groups : List (List (Table Request))) : Registry × List Notice :=
  let merged := groups.map merge
  let whole := merge (merged.map fun m => m.1.requests)
  (whole.1, merged.flatMap (·.2) ++ whole.2)

section Groups

variable (groups : List (List (Table Request)))

/-- What comes of the groups is stored as the entries of all parts are. -/
theorem fst_mergeInGroups : (mergeInGroups groups).1 = (merge groups.flatten).1 := by
  have stored : (mergeInGroups groups).1.requests = (merge groups.flatten).1.requests := by
    unfold mergeInGroups
    dsimp only
    rw [requests_merge, requests_merge, List.map_map, ← List.flatMap_def]
    calc Table.ofList (groups.flatMap fun g => (merge g).1.requests)
        = Table.ofList ((groups.map List.flatten).flatMap Table.ofList) := by
          rw [List.flatMap_map]
          simp only [requests_merge]
      _ = Table.ofList (groups.map List.flatten).flatten := Table.ofList_flatMap_ofList _
      _ = Table.ofList groups.flatten.flatten := by rw [List.flatten_flatten]
  exact congrArg Registry.mk stored

/-- Every group accounts for its own entries. -/
theorem reports_groups_perm :
    groups.flatMap (fun g => (merge g).2)
        ++ groups.flatMap (fun g => (merge g).1.names.map Notice.toolCollision)
      ~ groups.flatten.flatten.map fun e => .toolCollision e.1 := by
  refine (List.flatMap_append_perm groups _ _).trans ?_
  refine (List.Perm.flatMap_left groups fun g _ => reports_perm g).trans ?_
  rw [← List.map_flatMap, List.flatMap_def, ← List.flatten_flatten]

/-- **Merging in groups gives the reports of merging at once**, in some order. -/
theorem snd_mergeInGroups_perm : (mergeInGroups groups).2 ~ (merge groups.flatten).2 := by
  -- the names of the groups are the entries of the last merge: its reports and its names together
  -- take their place in the account of the groups
  have last : (merge ((groups.map merge).map fun m => m.1.requests)).2
        ++ (merge groups.flatten).1.names.map Notice.toolCollision
      ~ groups.flatMap fun g => (merge g).1.names.map Notice.toolCollision := by
    rw [← fst_mergeInGroups]
    refine (reports_perm _).trans ?_
    rw [List.map_map, ← List.flatMap_def, List.map_flatMap]
    refine List.Perm.of_eq (List.flatMap_congr fun g _ => ?_)
    exact (List.map_map ..).symm
  rw [← List.perm_append_right_iff ((merge groups.flatten).1.names.map Notice.toolCollision)]
  calc (mergeInGroups groups).2 ++ (merge groups.flatten).1.names.map Notice.toolCollision
      = groups.flatMap (fun g => (merge g).2)
        ++ ((merge ((groups.map merge).map fun m => m.1.requests)).2
          ++ (merge groups.flatten).1.names.map Notice.toolCollision) := by
        unfold mergeInGroups
        dsimp only
        rw [List.flatMap_map, List.append_assoc]
    _ ~ groups.flatMap (fun g => (merge g).2)
        ++ groups.flatMap fun g => (merge g).1.names.map Notice.toolCollision :=
        last.append_left _
    _ ~ groups.flatten.flatten.map fun e => .toolCollision e.1 := reports_groups_perm groups
    _ ~ (merge groups.flatten).2 ++ (merge groups.flatten).1.names.map Notice.toolCollision :=
        (reports_perm groups.flatten).symm

end Groups

/-- Merging parts in groups, against merging them at once. -/
structure MergesAlike (groups : List (List (Table Request))) : Prop where
  /-- the same entries in the same order … -/
  registry_eq : (mergeInGroups groups).1 = (merge groups.flatten).1
  /-- … every name at its first occurrence … -/
  names_eq : (mergeInGroups groups).1.names = (groups.flatten.flatten.map (·.1)).eraseDups
  /-- … with its last definition -/
  lookup_eq : ∀ e ∈ lastBy (·.1) groups.flatten.flatten,
    (mergeInGroups groups).1.lookup (.str e.1) = .ok e.2
  /-- the same reports, in some order -/
  reports : (mergeInGroups groups).2 ~ (merge groups.flatten).2
  /-- all that is reported is that names come again, in groups … -/
  collisions : ∀ x ∈ (mergeInGroups groups).2, ∃ name, x = .toolCollision name
  /-- … as often as at once -/
  count_eq : (mergeInGroups groups).2.length = (merge groups.flatten).2.length

/-- **REGISTRIES MAY BE MERGED IN GROUPS**, and the empty registry changes nothing. -/
theorem merge_in_groups (groups : List (List (Table Request))) :
    MergesAlike groups
      ∧ merge [] = (empty, [])
      ∧ ∀ part, (Table.names part).Nodup →
          merge [empty.requests, part] = (⟨part⟩, [])
            ∧ merge [part, empty.requests] = (⟨part⟩, []) := by
  have whole := fst_mergeInGroups groups
  have reports := snd_mergeInGroups_perm groups
  refine ⟨?_, rfl, fun part distinct => ⟨?_, ?_⟩⟩
  · constructor
    case registry_eq => exact whole
    case names_eq => rw [whole, names_merge]
    case lookup_eq =>
      intro e last
      rw [whole]
      exact lookup_merge last
    case reports => exact reports
    case collisions =>
      intro x said
      exact exists_collision_of_mem (reports.subset said)
    case count_eq => exact reports.length_eq
  · have alone : [empty.requests, part].flatten = part := List.append_nil part
    rw [merge_of_nodup (by rwa [alone]), alone]
  · have alone : [part, empty.requests].flatten = part := List.append_nil part
    rw [merge_of_nodup (by rwa [alone]), alone]

/-! ## §4. Names that come again at two levels. -/

def requestTo (path : String) : Request :=
  { method := "get", path, parameters := [], baseUrl := .null }

/-- The name `b` comes again inside the second group, and `a` when the groups meet. -/
def overlappingGroups : List (List (Table Request)) :=
  [[[("a", requestTo "/1")]],
    [[("a", requestTo "/2"), ("b", requestTo "/3")], [("b", requestTo "/4")]]]

/-- The registry is the same, and the two reports have changed places. -/
theorem merge_in_groups_overlapping :
    (Table.names [("a", requestTo "/2"), ("b", requestTo "/3")]).Nodup
      ∧ merge [empty.requests, [("a", requestTo "/2"), ("b", requestTo "/3")]]
        = (⟨[("a", requestTo "/2"), ("b", requestTo "/3")]⟩, [])
      ∧ MergesAlike overlappingGroups
      ∧ (mergeInGroups overlappingGroups).1
        = ⟨[("a", requestTo "/2"), ("b", requestTo "/4")]⟩
      ∧ (mergeInGroups overlappingGroups).2 = [.toolCollision "b", .toolCollision "a"]
      ∧ (merge overlappingGroups.flatten).2 = [.toolCollision "a", .toolCollision "b"] := by
  have distinct : (Table.names [("a", requestTo "/2"), ("b", requestTo "/3")]).Nodup := by decide
  obtain ⟨alike, _, identity⟩ := merge_in_groups overlappingGroups
  exact ⟨distinct, (identity _ distinct).1, alike, rfl, rfl, rfl⟩

end ApiTools.Registry
