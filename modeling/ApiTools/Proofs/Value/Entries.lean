/-
  ApiTools.Proofs.Value.Entries
  ─────────────────────────────
  **LOOKING UP NAMES IN ENTRIES.**

  What a name stands for after entries are stored, sifted or rewritten one by
  one.  A text is the same key as itself and as nothing else
  (`Value.sameKey_str_iff`), so storing under one name leaves the others alone
  (`get?_put_of_ne`).  Only mappings have fields (`Value.field_eq_ok_iff`).
-/
import ApiTools.Value.Access

namespace ApiTools

/-- Only the text itself is the same key as a text. -/
theorem Value.sameKey_str_iff {s : String} {key : Value} :
    (Value.str s).sameKey key = true ↔ key = .str s := by
  cases key with
  | str t =>
      show (s == t) = true ↔ Value.str t = .str s
      rw [beq_iff_eq, Value.str.injEq]
      exact eq_comm
  | _ => simp [Value.sameKey, Value.sameAtom, Value.keyInt?]

theorem Value.isText_eq_true_iff {s : String} {v : Value} : v.isText s = true ↔ v = .str s := by
  cases v <;> simp [Value.isText]

/-- Is a value a text, whole or torn? -/
def Value.IsText (v : Value) : Prop := (∃ s, v = .str s) ∨ ∃ t, v = .torn t

theorem Value.isNull_eq_true_iff {v : Value} : v.isNull = true ↔ v = .null := by
  cases v <;> simp [Value.isNull]

namespace Entries

variable {name other : String} {key k v w : Value} {es : Entries}

/-! ## §1. The first entry. -/

theorem find?_cons_of_sameKey (same : key.sameKey k = true) :
    find? key ((k, v) :: es) = some v := by
  rw [find?, List.find?_cons_of_pos (by exact same)]
  rfl

theorem find?_cons_of_not_sameKey (other : key.sameKey k = false) :
    find? key ((k, v) :: es) = find? key es := by
  rw [find?, List.find?_cons_of_neg (by exact Bool.eq_false_iff.mp other)]
  rfl

theorem get?_cons_self : get? name ((.str name, v) :: es) = some v :=
  find?_cons_of_sameKey (Value.sameKey_str_iff.mpr rfl)

theorem get?_cons_of_ne {key : Value} (h : key ≠ .str name) :
    get? name ((key, v) :: es) = get? name es :=
  find?_cons_of_not_sameKey
    (Bool.eq_false_iff.mpr fun same => h (Value.sameKey_str_iff.mp same))

theorem mem_of_get? (h : get? name es = some v) : (.str name, v) ∈ es := by
  rw [get?, find?, Option.map_eq_some_iff] at h
  obtain ⟨⟨key, found⟩, first, rfl⟩ := h
  have key_eq := List.find?_some first
  rw [Value.sameKey_str_iff] at key_eq
  have mem := List.mem_of_find?_eq_some first
  dsimp only at key_eq
  rwa [key_eq] at mem

/-! ## §2. Changed entries. -/

theorem get?_put_self : get? name (put name v es) = some v := by
  rw [put]
  induction es with
  | nil => exact get?_cons_self
  | cons e es ih =>
      obtain ⟨key, w⟩ := e
      rw [insert]
      split
      next found =>
        rw [Value.sameKey_str_iff.mp found]
        exact get?_cons_self
      next other =>
        rw [get?_cons_of_ne fun h => other (Value.sameKey_str_iff.mpr h)]
        exact ih

theorem get?_put_of_ne (h : name ≠ other) : get? name (put other v es) = get? name es := by
  have keys : Value.str other ≠ .str name := fun e => h (Value.str.inj e).symm
  rw [put]
  induction es with
  | nil => exact get?_cons_of_ne keys
  | cons e es ih =>
      obtain ⟨key, w⟩ := e
      rw [insert]
      split
      next found =>
        have key_ne : key ≠ .str name := by
          rw [Value.sameKey_str_iff.mp found]
          exact keys
        rw [get?_cons_of_ne key_ne, get?_cons_of_ne key_ne]
      next =>
        by_cases same : key = .str name
        · subst same
          rw [get?_cons_self, get?_cons_self]
        · rw [get?_cons_of_ne same, get?_cons_of_ne same]
          exact ih

/-- Entries of a key stay if only those of other keys are sifted out. -/
theorem find?_filter {p : Value × Value → Bool}
    (keep : ∀ e ∈ es, key.sameKey e.1 = true → p e = true) :
    find? key (List.filter p es) = find? key es := by
  induction es with
  | nil => rfl
  | cons e es ih =>
      rw [List.forall_mem_cons] at keep
      have others := ih keep.2
      cases here : key.sameKey e.1 with
      | true =>
          rw [List.filter_cons_of_pos (keep.1 here), find?_cons_of_sameKey here,
            find?_cons_of_sameKey here]
      | false =>
          rw [find?_cons_of_not_sameKey here, List.filter_cons]
          split
          next =>
            rw [find?_cons_of_not_sameKey here]
            exact others
          next => exact others

/-- Entries under a name stay if only others are sifted out. -/
theorem get?_filter {p : Value × Value → Bool} (keep : ∀ v, p (.str name, v) = true) :
    get? name (List.filter p es) = get? name es := by
  refine find?_filter fun e _ same => ?_
  obtain ⟨k, v⟩ := e
  rw [Value.sameKey_str_iff] at same
  dsimp only at same
  rw [same]
  exact keep v

/-- Nothing stays under a name whose entries are sifted out. -/
theorem get?_filter_eq_none {p : Value × Value → Bool} (drop : ∀ v, p (.str name, v) = false) :
    get? name (List.filter p es) = none := by
  induction es with
  | nil => rfl
  | cons e es ih =>
      obtain ⟨key, w⟩ := e
      rw [List.filter_cons]
      split
      next kept =>
        have same : key ≠ .str name := by
          rintro rfl
          rw [drop] at kept
          exact absurd kept (by simp)
        rw [get?_cons_of_ne same]
        exact ih
      next => exact ih

/-- Entries whose values are rewritten, those of one key in one way. -/
theorem find?_map {f : Value × Value → Value} {g : Value → Value}
    (rewrites : ∀ e ∈ es, key.sameKey e.1 = true → f e = g e.2) :
    find? key (es.map fun e => (e.1, f e)) = (find? key es).map g := by
  induction es with
  | nil => rfl
  | cons e es ih =>
      rw [List.forall_mem_cons] at rewrites
      rw [List.map_cons]
      cases here : key.sameKey e.1 with
      | true =>
          rw [find?_cons_of_sameKey here, find?_cons_of_sameKey here, rewrites.1 here]
          rfl
      | false =>
          rw [find?_cons_of_not_sameKey here, find?_cons_of_not_sameKey here]
          exact ih rewrites.2

/-- Entries whose values are rewritten, each by its key. -/
theorem get?_map (f : Value → Value → Value) :
    get? name (es.map fun e => (e.1, f e.1 e.2)) = (get? name es).map (f (.str name)) := by
  refine find?_map fun e _ same => ?_
  rw [Value.sameKey_str_iff.mp same]

end Entries

/-! ## §3. Fields. -/

/-- A field can be asked of mappings only, and is null where there is none. -/
theorem Value.field_eq_ok_iff {name : String} {v w : Value} :
    v.field name = .ok w ↔ ∃ p es, v = .mapping (p := p) es ∧ (Entries.get? name es).getD .null = w := by
  cases v with
  | mapping es =>
      constructor
      · intro h
        exact ⟨_, es, rfl, Except.ok.inj h⟩
      · rintro ⟨_, _, ⟨⟩, h⟩
        exact congrArg Except.ok h
  | _ => simp [Value.field, Value.field?, Value.lacks]

/-- Only mappings have parts under names. -/
theorem Value.get?_of_part {name : String} {v w : Value} (h : v.part name = .ok w) :
    v.get? name = some w := by
  cases v with
  | mapping es =>
      rw [Value.part] at h
      show Entries.get? name es = some w
      split at h
      next found =>
        injection h with h
        rw [found, h]
      next => exact absurd h (by simp)
  | _ => exact absurd h (by simp [Value.part])

theorem Value.get?_of_has_false {name : String} {v : Value} (h : v.has name = .ok false) :
    v.get? name = none := by
  cases v with
  | mapping es =>
      injection h with h
      show Entries.get? name es = none
      rwa [Entries.contains, Option.isSome_eq_false_iff, Option.isNone_iff_eq_none] at h
  | _ => rfl

/-- What counts as absent has no fields, as the empty mapping has none. -/
theorem Value.get?_orElse (name : String) (v : Value) :
    (v.orElse (.mapping (p := none) [])).get? name = v.get? name := by
  unfold Value.orElse
  split
  next => rfl
  next absent =>
    cases v with
    | mapping es =>
        cases es with
        | nil => rfl
        | cons e es => exact absurd rfl absent
    | _ => rfl

/-! ## §4. Parts. -/

namespace Value

/-- Items nest no deeper than all of them together. -/
theorem depth_le_depthOfItems {xs : List Value} {x : Value} (mem : x ∈ xs) :
    x.depth ≤ depthOfItems xs := by
  induction xs with
  | nil => exact absurd mem List.not_mem_nil
  | cons y ys ih =>
      rw [depthOfItems]
      rcases List.mem_cons.mp mem with rfl | mem
      · exact Nat.le_max_left _ _
      · exact Nat.le_trans (ih mem) (Nat.le_max_right _ _)

theorem depth_le_depthOfEntries {es : Entries} {e : Value × Value} (mem : e ∈ es) :
    e.2.depth ≤ depthOfEntries es := by
  induction es with
  | nil => exact absurd mem List.not_mem_nil
  | cons d ds ih =>
      rw [depthOfEntries]
      rcases List.mem_cons.mp mem with rfl | mem
      · exact Nat.le_max_left _ _
      · exact Nat.le_trans (ih mem) (Nat.le_max_right _ _)

/-- Items can be said if each of them can. -/
theorem areSayable_eq_true_iff {xs : List Value} :
    areSayable xs = true ↔ ∀ x ∈ xs, x.isSayable = true := by
  induction xs with
  | nil => simp [areSayable]
  | cons x xs ih => rw [areSayable, Bool.and_eq_true, ih, List.forall_mem_cons]

theorem entriesAreSayable_eq_true_iff {es : Entries} :
    entriesAreSayable es = true ↔ ∀ e ∈ es, e.1.isSayable = true ∧ e.2.isSayable = true := by
  induction es with
  | nil => simp [entriesAreSayable]
  | cons e es ih =>
      rw [entriesAreSayable, Bool.and_eq_true, Bool.and_eq_true, ih, List.forall_mem_cons]

end Value

end ApiTools
