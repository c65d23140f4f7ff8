/-
  ApiTools.Proofs.Value.Keyed
  ───────────────────────────
  **MAPPINGS IN WHICH EVERY KEY LEADS TO ITS OWN ENTRY.**

  An entry list is that of a mapping if its keys are fit for keys and no two
  of them are the same (`Entries.Keyed`).  Then storing under a key touches the
  entry of that key and no other (`Entries.Keyed.mem_insert`).  A value is well
  keyed if all mappings in it are of that kind (`Value.WellKeyed`).
-/
import ApiTools.Proofs.Value.Entries
import ApiTools.Proofs.Value.Hereditary
import ApiTools.Proofs.Value.Key

namespace ApiTools

/-! ## §1. Entries. -/

namespace Entries

/-- No key is there twice, and none is unfit for a key. -/
structure Keyed (es : Entries) : Prop where
  hashable : ∀ e ∈ es, e.1.hashable = true
  distinct : es.Pairwise fun d e => d.1.sameKey e.1 = false

variable {es : Entries} {e : Value × Value} {key k v w : Value}

theorem keyed_nil : Keyed [] := ⟨fun _ mem => absurd mem List.not_mem_nil, .nil⟩

theorem keyed_cons_iff :
    Keyed (e :: es) ↔ e.1.hashable = true ∧ (∀ d ∈ es, e.1.sameKey d.1 = false) ∧ Keyed es := by
  constructor
  · rintro ⟨hashable, distinct⟩
    rw [List.forall_mem_cons] at hashable
    rw [List.pairwise_cons] at distinct
    exact ⟨hashable.1, distinct.1, hashable.2, distinct.2⟩
  · rintro ⟨first, apart, hashable, distinct⟩
    exact ⟨List.forall_mem_cons.mpr ⟨first, hashable⟩, List.pairwise_cons.mpr ⟨apart, distinct⟩⟩

theorem Keyed.insert (h : Keyed es) (fit : key.hashable = true) : Keyed (insert key v es) := by
  induction es with
  | nil =>
      rw [Entries.insert, keyed_cons_iff]
      exact ⟨fit, fun _ mem => absurd mem List.not_mem_nil, keyed_nil⟩
  | cons e es ih =>
      obtain ⟨k, w⟩ := e
      obtain ⟨first, apart, others⟩ := keyed_cons_iff.mp h
      rw [Entries.insert]
      split
      next => exact keyed_cons_iff.mpr ⟨first, apart, others⟩
      next other =>
        refine keyed_cons_iff.mpr ⟨first, ?_, ih others⟩
        intro d mem
        rcases mem_keys_insert (List.mem_map_of_mem mem) with same | old
        · rw [Bool.eq_false_iff]
          intro clash
          rw [same] at clash
          exact other (Value.sameKey_symm clash)
        · obtain ⟨c, hc, same⟩ := List.mem_map.mp old
          rw [← same]
          exact apart c hc

/-! ## §2. Finding and storing. -/

theorem exists_mem_of_find? (h : find? key es = some v) :
    ∃ k, (k, v) ∈ es ∧ key.sameKey k = true := by
  rw [find?, Option.map_eq_some_iff] at h
  obtain ⟨⟨k, w⟩, first, rfl⟩ := h
  have same := List.find?_some first
  exact ⟨k, List.mem_of_find?_eq_some first, same⟩

/-- Storing under a key that is there changes no key. -/
theorem keys_insert_of_find? (h : find? key es = some w) : keys (insert key v es) = keys es := by
  induction es with
  | nil => exact absurd h (by simp [find?])
  | cons e es ih =>
      obtain ⟨l, u⟩ := e
      rw [Entries.insert]
      cases here : key.sameKey l with
      | true =>
          rw [if_pos rfl]
          rfl
      | false =>
          rw [if_neg Bool.false_ne_true]
          rw [find?_cons_of_not_sameKey here] at h
          exact congrArg (l :: ·) (ih h)

/-- Storing under another key changes nothing. -/
theorem find?_insert_of_not_sameKey (other : k.sameKey key = false) (v : Value) (es : Entries) :
    find? k (insert key v es) = find? k es := by
  induction es with
  | nil => exact find?_cons_of_not_sameKey other
  | cons e es ih =>
      obtain ⟨l, u⟩ := e
      rw [Entries.insert]
      cases here : key.sameKey l with
      | true =>
          have apart : k.sameKey l = false := by
            rw [Bool.eq_false_iff] at other ⊢
            exact fun found => other (Value.sameKey_trans found (Value.sameKey_symm here))
          rw [if_pos rfl, find?_cons_of_not_sameKey apart, find?_cons_of_not_sameKey apart]
      | false =>
          rw [if_neg Bool.false_ne_true]
          cases found : k.sameKey l with
          | true => rw [find?_cons_of_sameKey found, find?_cons_of_sameKey found]
          | false => rw [find?_cons_of_not_sameKey found, find?_cons_of_not_sameKey found, ih]

/-- **Where an entry comes from after storing**: it has another key and was there, or the key was
not there and it is new, or it stands in the place of the one that was there. -/
theorem Keyed.mem_insert (h : Keyed es) (mem : (k, w) ∈ Entries.insert key v es) :
    ((k, w) ∈ es ∧ key.sameKey k = false)
      ∨ (w = v ∧ k = key ∧ find? key es = none)
      ∨ (w = v ∧ key.sameKey k = true ∧ ∃ u, (k, u) ∈ es ∧ find? key es = some u) := by
  induction es with
  | nil =>
      rw [Entries.insert, List.mem_singleton] at mem
      obtain ⟨rfl, rfl⟩ := Prod.mk.inj mem
      exact Or.inr (Or.inl ⟨rfl, rfl, rfl⟩)
  | cons e es ih =>
      obtain ⟨l, u⟩ := e
      obtain ⟨_, apart, others⟩ := keyed_cons_iff.mp h
      rw [Entries.insert] at mem
      cases here : key.sameKey l with
      | true =>
          rw [here, if_pos rfl] at mem
          rcases List.mem_cons.mp mem with same | later
          · obtain ⟨rfl, rfl⟩ := Prod.mk.inj same
            exact Or.inr (Or.inr
              ⟨rfl, here, u, List.mem_cons_self, find?_cons_of_sameKey here⟩)
          · -- a second entry of the key would have been the same key as the first
            refine Or.inl ⟨List.mem_cons_of_mem _ later, ?_⟩
            rw [Bool.eq_false_iff]
            intro clash
            exact Bool.eq_false_iff.mp (apart _ later)
              (Value.sameKey_trans (Value.sameKey_symm here) clash)
      | false =>
          rw [here, if_neg Bool.false_ne_true] at mem
          rcases List.mem_cons.mp mem with same | later
          · obtain ⟨rfl, rfl⟩ := Prod.mk.inj same
            exact Or.inl ⟨List.mem_cons_self, here⟩
          · rw [find?_cons_of_not_sameKey here]
            rcases ih others later with ⟨old, other⟩ | new | ⟨value, same, u', old, found⟩
            · exact Or.inl ⟨List.mem_cons_of_mem _ old, other⟩
            · exact Or.inr (Or.inl new)
            · exact Or.inr (Or.inr ⟨value, same, u', List.mem_cons_of_mem _ old, found⟩)

end Entries

/-! ## §3. Values. -/

namespace Value

/-- All mappings in the value have every key once. -/
inductive WellKeyed : Value → Prop
  | atom {v : Value} (h : v.isAtom = true) : WellKeyed v
  | list {xs : List Value} (items : ∀ x ∈ xs, WellKeyed x) : WellKeyed (.list xs)
  | tuple {xs : List Value} (items : ∀ x ∈ xs, WellKeyed x) : WellKeyed (.tuple xs)
  | set {xs : List Value} (items : ∀ x ∈ xs, x.hashable = true) : WellKeyed (.set xs)
  | mapping {p : Option Nat} {es : Entries} (keyed : es.Keyed) (values : ∀ e ∈ es, WellKeyed e.2) :
      WellKeyed (.mapping (p := p) es)

variable {p : Option Nat} {xs : List Value} {es : Entries} {key v : Value}

theorem wellKeyed_list_iff : WellKeyed (.list xs) ↔ ∀ x ∈ xs, WellKeyed x := by
  constructor
  · intro h
    cases h with
    | atom h => exact absurd h Bool.false_ne_true
    | list items => exact items
  · exact .list

theorem wellKeyed_mapping_iff :
    WellKeyed (.mapping (p := p) es) ↔ es.Keyed ∧ ∀ e ∈ es, WellKeyed e.2 := by
  constructor
  · intro h
    cases h with
    | atom h => exact absurd h Bool.false_ne_true
    | mapping keyed values => exact ⟨keyed, values⟩
  · exact fun h => .mapping h.1 h.2

theorem wellKeyed_insert (h : WellKeyed (.mapping (p := p) es)) (fit : key.hashable = true)
    (hv : WellKeyed v) : WellKeyed (.mapping (p := p) (Entries.insert key v es)) := by
  rw [wellKeyed_mapping_iff] at h ⊢
  refine ⟨h.1.insert fit, ?_⟩
  rintro ⟨k, w⟩ mem
  rcases h.1.mem_insert mem with ⟨old, _⟩ | ⟨rfl, _⟩ | ⟨rfl, _⟩
  · exact h.2 _ old
  · exact hv
  · exact hv

theorem hereditary_wellKeyed : Hereditary WellKeyed (fun key => key.hashable = true) where
  null := .atom rfl
  bool := fun _ => .atom rfl
  int := fun _ => .atom rfl
  float := fun _ => .atom rfl
  str := fun _ => .atom rfl
  torn := fun _ => .atom rfl
  list := wellKeyed_list_iff
  name := fun _ => rfl
  tornName := fun _ => rfl
  empty := .mapping Entries.keyed_nil fun _ mem => absurd mem List.not_mem_nil
  insert := wellKeyed_insert

end Value

end ApiTools
