/-
  ApiTools.Proofs.Specification.References
  ────────────────────────────────────────
  **REFERENCES AND THE PLACES WHERE THEY STAND.**

  A value is free of references if no mapping at any depth has a key `$ref`
  (`ReferenceFree`), and that is to say that the list of its references is empty
  (`referenceFree_iff`).

  A place is the way from a value to a part of it, by keys and numbers of items
  (`valueAt`).  A reference stands at a place if the mapping there has it
  (`Stands`).
-/
import ApiTools.Specification.Resolve
import ApiTools.Proofs.Value.Entries

namespace ApiTools.Specification

/-! ## §1. The references of a value. -/

variable {es : Entries} {xs : List Value} {r v w u : Value}

/-- A value is in another one, at whatever depth.  Keys and members of sets are left out: what can
be one of these holds no mapping. -/
inductive PartOf (w : Value) : Value → Prop
  | self : PartOf w w
  | value {n : Option Nat} {es : Entries} {e : Value × Value} (mem : e ∈ es) (h : PartOf w e.2) :
      PartOf w (.mapping (p := n) es)
  | item {xs : List Value} {x : Value} (mem : x ∈ xs) (h : PartOf w x) : PartOf w (.list xs)
  | tupleItem {xs : List Value} {x : Value} (mem : x ∈ xs) (h : PartOf w x) : PartOf w (.tuple xs)

/-- **No mapping at any depth has a key `$ref`.** -/
def ReferenceFree (v : Value) : Prop :=
  ∀ n es, PartOf (.mapping (p := n) es) v → ∀ e ∈ es, e.1 ≠ .str "$ref"

theorem mem_entryReferences_iff :
    r ∈ entryReferences es ↔ (.str "$ref", r) ∈ es ∨ ∃ e ∈ es, r ∈ references e.2 := by
  induction es with
  | nil => simp [entryReferences]
  | cons e es ih =>
      obtain ⟨k, w⟩ := e
      have own : r ∈ (if k.isText "$ref" then [w] else []) ↔ k = .str "$ref" ∧ r = w := by
        rw [← Value.isText_eq_true_iff]
        split
        next key => simp [key]
        next other => simp [other]
      rw [entryReferences, List.append_assoc, List.mem_append, List.mem_append, own, ih]
      simp only [List.mem_cons, Prod.mk.injEq, exists_eq_or_imp, @eq_comm _ (Value.str "$ref")]
      rw [or_assoc, or_left_comm (a := r ∈ references w)]

theorem mem_itemReferences_iff : r ∈ itemReferences xs ↔ ∃ x ∈ xs, r ∈ references x := by
  induction xs with
  | nil => simp [itemReferences]
  | cons x xs ih =>
      rw [itemReferences, List.mem_append, ih]
      simp

/-- The references of a part are references of the value. -/
theorem references_subset_of_partOf (part : PartOf w v) : references w ⊆ references v := by
  induction part with
  | self => exact List.Subset.refl _
  | value mem _ ih =>
      intro r hr
      rw [references]
      exact mem_entryReferences_iff.mpr (Or.inr ⟨_, mem, ih hr⟩)
  | item mem _ ih =>
      intro r hr
      rw [references]
      exact mem_itemReferences_iff.mpr ⟨_, mem, ih hr⟩
  | tupleItem mem _ ih =>
      intro r hr
      rw [references]
      exact mem_itemReferences_iff.mpr ⟨_, mem, ih hr⟩

mutual

/-- A reference is that of a mapping in the value. -/
theorem exists_partOf_of_mem_references : ∀ v, r ∈ references v →
    ∃ n es, PartOf (.mapping (p := n) es) v ∧ (.str "$ref", r) ∈ es
  | .mapping es, mem => by
      rw [references] at mem
      rcases exists_partOf_of_mem_entryReferences es mem with own | ⟨e, he, m, fs, part, found⟩
      · exact ⟨_, es, .self, own⟩
      · exact ⟨m, fs, .value he part, found⟩
  | .list xs, mem => by
      rw [references] at mem
      obtain ⟨x, hx, m, fs, part, found⟩ := exists_partOf_of_mem_itemReferences xs mem
      exact ⟨m, fs, .item hx part, found⟩
  | .tuple xs, mem => by
      rw [references] at mem
      obtain ⟨x, hx, m, fs, part, found⟩ := exists_partOf_of_mem_itemReferences xs mem
      exact ⟨m, fs, .tupleItem hx part, found⟩
  | .null, mem => nomatch mem
  | .bool _, mem => nomatch mem
  | .int _, mem => nomatch mem
  | .float _, mem => nomatch mem
  | .str _, mem => nomatch mem
  | .torn _, mem => nomatch mem
  | .bytes _, mem => nomatch mem
  | .date _, mem => nomatch mem
  | .datetime _, mem => nomatch mem
  | .set _, mem => nomatch mem

theorem exists_partOf_of_mem_entryReferences : ∀ es : List (Value × Value),
    r ∈ entryReferences es →
    (.str "$ref", r) ∈ es
      ∨ ∃ e ∈ es, ∃ n fs, PartOf (.mapping (p := n) fs) e.2 ∧ (.str "$ref", r) ∈ fs
  | [], mem => nomatch mem
  | (k, v) :: es, mem => by
      rw [entryReferences, List.append_assoc] at mem
      rcases List.mem_append.mp mem with own | mem
      · split at own
        next key =>
          rw [List.mem_singleton.mp own, Value.isText_eq_true_iff.mp key]
          exact Or.inl List.mem_cons_self
        next => exact absurd own List.not_mem_nil
      · rcases List.mem_append.mp mem with inner | later
        · exact Or.inr ⟨_, List.mem_cons_self, exists_partOf_of_mem_references v inner⟩
        · rcases exists_partOf_of_mem_entryReferences es later with own | ⟨e, he, found⟩
          · exact Or.inl (List.mem_cons_of_mem _ own)
          · exact Or.inr ⟨e, List.mem_cons_of_mem _ he, found⟩

theorem exists_partOf_of_mem_itemReferences : ∀ xs : List Value, r ∈ itemReferences xs →
    ∃ x ∈ xs, ∃ n fs, PartOf (.mapping (p := n) fs) x ∧ (.str "$ref", r) ∈ fs
  | [], mem => nomatch mem
  | x :: xs, mem => by
      rw [itemReferences] at mem
      rcases List.mem_append.mp mem with inner | later
      · exact ⟨x, List.mem_cons_self, exists_partOf_of_mem_references x inner⟩
      · obtain ⟨y, hy, found⟩ := exists_partOf_of_mem_itemReferences xs later
        exact ⟨y, List.mem_cons_of_mem _ hy, found⟩

end

/-- **Free of references is what has none in its list.** -/
theorem referenceFree_iff : ReferenceFree v ↔ references v = [] := by
  rw [List.eq_nil_iff_forall_not_mem]
  constructor
  · intro free r mem
    obtain ⟨n, es, part, found⟩ := exists_partOf_of_mem_references v mem
    exact free n es part _ found rfl
  · rintro none n es part ⟨k, r⟩ mem rfl
    refine none r (references_subset_of_partOf part ?_)
    rw [references]
    exact mem_entryReferences_iff.mpr (Or.inl mem)

theorem references_mapping_eq_nil_iff {n : Option Nat} :
    references (.mapping (p := n) es) = [] ↔ ∀ e ∈ es, e.1 ≠ .str "$ref" ∧ references e.2 = [] := by
  simp only [references, List.eq_nil_iff_forall_not_mem, mem_entryReferences_iff]
  constructor
  · rintro none ⟨k, w⟩ mem
    exact ⟨fun key => none w (Or.inl (by rwa [← key])), fun r hr => none r (Or.inr ⟨_, mem, hr⟩)⟩
  · rintro each r (own | ⟨e, mem, hr⟩)
    · exact (each _ own).1 rfl
    · exact (each e mem).2 r hr

theorem references_list_eq_nil_iff : references (.list xs) = [] ↔ ∀ x ∈ xs, references x = [] := by
  simp only [references, List.eq_nil_iff_forall_not_mem, mem_itemReferences_iff]
  exact ⟨fun none x hx r hr => none r ⟨x, hx, hr⟩, fun each r ⟨x, hx, hr⟩ => each x hx r hr⟩

theorem isFree_eq_true_iff : isFree v = true ↔ references v = [] := List.isEmpty_iff

/-! ## §2. Places. -/

/-- A step into a mapping, by a key, or into a list, by the number of an item. -/
inductive Step where
  | key (k : Value)
  | item (i : Nat)

def stepAt : Step → Value → Option Value
  | .key k, .mapping es => Entries.find? k es
  | .item i, .list xs => xs[i]?
  | _, _ => none

/-- The part of a value at a place. -/
def valueAt : List Step → Value → Option Value
  | [], v => some v
  | step :: p, v => (stepAt step v).bind (valueAt p)

/-- A reference stands at a place: the mapping there has it. -/
def Stands (r : Value) (p : List Step) (v : Value) : Prop :=
  ∃ n es, valueAt p v = some (.mapping (p := n) es) ∧ Entries.get? "$ref" es = some r

variable {step : Step} {p q : List Step}

theorem valueAt_cons_eq_some_iff :
    valueAt (step :: p) v = some w ↔ ∃ u, stepAt step v = some u ∧ valueAt p u = some w :=
  Option.bind_eq_some_iff

theorem valueAt_append (p q : List Step) (v : Value) :
    valueAt (p ++ q) v = (valueAt p v).bind (valueAt q) := by
  induction p generalizing v with
  | nil => rfl
  | cons step p ih =>
      rw [List.cons_append, valueAt, valueAt, Option.bind_assoc]
      exact congrArg _ (funext ih)

/-- A step leads to a value of a mapping or to an item of a list. -/
theorem stepAt_cases (h : stepAt step v = some w) :
    (∃ k n es, step = .key k ∧ v = .mapping (p := n) es ∧ Entries.find? k es = some w)
      ∨ ∃ i xs, step = .item i ∧ v = .list xs ∧ xs[i]? = some w := by
  unfold stepAt at h
  split at h
  next k _ es => exact Or.inl ⟨k, _, es, rfl, rfl, h⟩
  next i xs => exact Or.inr ⟨i, xs, rfl, rfl, h⟩
  next => exact absurd h (by simp)

theorem partOf_of_valueAt (h : valueAt p v = some w) : PartOf w v := by
  induction p generalizing v with
  | nil =>
      rw [valueAt, Option.some.injEq] at h
      rw [h]
      exact .self
  | cons step p ih =>
      obtain ⟨u, first, rest⟩ := valueAt_cons_eq_some_iff.mp h
      rcases stepAt_cases first with ⟨k, _, es, _, rfl, found⟩ | ⟨i, xs, _, rfl, item⟩
      · rw [Entries.find?, Option.map_eq_some_iff] at found
        obtain ⟨e, found, rfl⟩ := found
        exact .value (List.mem_of_find?_eq_some found) (ih rest)
      · exact .item (List.mem_of_getElem? item) (ih rest)

theorem stands_nil_iff {n : Option Nat} :
    Stands r [] (.mapping (p := n) es) ↔ Entries.get? "$ref" es = some r := by
  constructor
  · rintro ⟨_, fs, same, found⟩
    cases same
    exact found
  · exact fun found => ⟨n, es, rfl, found⟩

theorem stands_cons_iff :
    Stands r (step :: p) v ↔ ∃ u, stepAt step v = some u ∧ Stands r p u := by
  constructor
  · rintro ⟨n, es, there, found⟩
    obtain ⟨u, first, rest⟩ := valueAt_cons_eq_some_iff.mp there
    exact ⟨u, first, n, es, rest, found⟩
  · rintro ⟨u, first, n, es, rest, found⟩
    exact ⟨n, es, valueAt_cons_eq_some_iff.mpr ⟨u, first, rest⟩, found⟩

/-- A step into a list leads to one of its items. -/
theorem stepAt_list (h : stepAt step (.list xs) = some w) : ∃ i, step = .item i ∧ xs[i]? = some w := by
  cases step with
  | key k => exact absurd h (by simp [stepAt])
  | item i => exact ⟨i, rfl, h⟩

/-- A step into a mapping leads to the value of a key. -/
theorem stepAt_mapping {n : Option Nat} (h : stepAt step (.mapping (p := n) es) = some w) :
    ∃ k, step = .key k ∧ Entries.find? k es = some w := by
  cases step with
  | key k => exact ⟨k, rfl, h⟩
  | item i => exact absurd h (by simp [stepAt])

theorem Stands.mem_references (h : Stands r p v) : r ∈ references v := by
  obtain ⟨_, es, there, found⟩ := h
  refine references_subset_of_partOf (partOf_of_valueAt there) ?_
  rw [references]
  exact mem_entryReferences_iff.mpr (Or.inl (Entries.mem_of_get? found))

end ApiTools.Specification
