/-
  ApiTools.Proofs.Value.Key
  ─────────────────────────
  **VALUES THAT ARE ONE KEY.**

  A key may be written in several ways, and which values are the same key is
  told from what they denote (`Value.key?`, `Value.sameAtom_eq_true_iff`): a
  whole number, whatever its kind, an instant, whatever its offset, and else
  the value itself; of a tuple, what its items denote.  So being the same key
  carries over from one value to the next (`Value.sameKey_trans`), and what
  can be a key is the same key as itself (`Value.sameKey_self`).

  Storing under a key removes no key, and adds at most the key itself
  (`Entries.mem_keys_insert`, `Entries.exists_key_insert`).
-/
import ApiTools.Value.Basic
import ApiTools.Proofs.Number.Pattern

namespace ApiTools

/-! ## §1. What keys denote. -/

/-- What a value denotes as a key. -/
inductive Key where
  | null
  | text (s : String)
  | torn (t : Text.Torn)
  | octets (bs : List UInt8)
  | day (d : Date)
  /-- a reading of a clock -/
  | clock (t : DateTime)
  /-- an instant, in microseconds -/
  | instant (microseconds : Int)
  | whole (i : Int)
  /-- a number that is not whole -/
  | broken (x : Double)
  /-- what is no number -/
  | noNumber

/-- What a time denotes as a key. -/
def DateTime.key (t : DateTime) : Key :=
  match t.offset with
  | none => .clock t
  | some minutes => .instant (t.clock - minutes * 60000000)

/-- What a number denotes as a key. -/
def Double.key (x : Double) : Key :=
  if x.isNaN then .noNumber
  else
    match x.toInt? with
    | some i => .whole i
    | none => .broken x

/-- What a value that is not made of others denotes as a key. -/
def Value.key? : Value → Option Key
  | null => some .null
  | bool b => some (.whole (if b then 1 else 0))
  | int i => some (.whole i)
  | float x => some x.key
  | str s => some (.text s)
  | torn t => some (.torn t)
  | bytes bs => some (.octets bs)
  | date d => some (.day d)
  | datetime t => some t.key
  | _ => none

theorem DateTime.key_ne_whole (t : DateTime) (i : Int) : t.key ≠ .whole i := by
  unfold key
  split <;> simp

theorem DateTime.sameInstant_eq_true_iff {s t : DateTime} :
    s.sameInstant t = true ↔ s.key = t.key := by
  unfold sameInstant key
  cases s.offset with
  | none =>
      cases t.offset with
      | none => simp
      | some b => simp
  | some a =>
      cases t.offset with
      | none => simp
      | some b => simp

theorem Double.key_eq_whole_iff {x : Double} {i : Int} : x.key = .whole i ↔ x.toInt? = some i := by
  unfold key
  constructor
  · intro h
    split at h
    next => exact absurd h (by simp)
    next =>
      split at h
      next whole =>
        injection h with h
        rw [whole, h]
      next => exact absurd h (by simp)
  · intro whole
    rw [not_isNaN_of_toInt? whole, whole]
    rfl

/-- A number denotes the whole number that it is, or else itself. -/
theorem Double.key_cases (x : Double) :
    (x.isNaN = true ∧ x.key = .noNumber)
      ∨ (∃ i, x.toInt? = some i ∧ x.key = .whole i) ∨ x.key = .broken x := by
  cases number : x.isNaN with
  | true => exact Or.inl ⟨rfl, by rw [key, if_pos number]⟩
  | false =>
      right
      cases whole : x.toInt? with
      | some i => exact Or.inl ⟨i, rfl, key_eq_whole_iff.mpr whole⟩
      | none =>
          right
          rw [key, number, whole]
          rfl

/-- Numbers have the same value if they denote the same key. -/
theorem Double.sameValue_eq_true_iff {x y : Double} : x.sameValue y = true ↔ x.key = y.key := by
  constructor
  · intro same
    unfold sameValue at same
    simp only [Bool.and_eq_true, Bool.or_eq_true, beq_iff_eq] at same
    obtain (rfl | ⟨x_zero, y_zero⟩) | ⟨x_nan, y_nan⟩ := same
    · rfl
    · -- the two zeros are different patterns of one whole number
      exact (key_eq_whole_iff.mpr (toInt?_of_isZero x_zero)).trans
        (key_eq_whole_iff.mpr (toInt?_of_isZero y_zero)).symm
    · rw [key, key, if_pos x_nan, if_pos y_nan]
  · intro same
    rcases key_cases x with ⟨x_nan, hx⟩ | ⟨i, whole, hx⟩ | hx
    · rcases key_cases y with ⟨y_nan, _⟩ | ⟨_, _, hy⟩ | hy
      · rw [sameValue, x_nan, y_nan]
        simp
      · exact absurd (hx.symm.trans (same.trans hy)) (by simp)
      · exact absurd (hx.symm.trans (same.trans hy)) (by simp)
    · exact sameValue_of_toInt? whole (key_eq_whole_iff.mp (same.symm.trans hx))
    · rcases key_cases y with ⟨_, hy⟩ | ⟨_, _, hy⟩ | hy
      · exact absurd (hx.symm.trans (same.trans hy)) (by simp)
      · exact absurd (hx.symm.trans (same.trans hy)) (by simp)
      · have equal : x = y := Key.broken.inj (hx.symm.trans (same.trans hy))
        subst equal
        rw [sameValue]
        simp

namespace Value

variable {u v w : Value}

theorem keyInt?_eq_some_iff {i : Int} : v.keyInt? = some i ↔ v.key? = some (.whole i) := by
  cases v with
  | float x => exact Double.key_eq_whole_iff.symm.trans (Option.some_inj).symm
  | datetime t => simp [keyInt?, key?, DateTime.key_ne_whole]
  | _ => simp [keyInt?, key?]

/-- Two things told apart by their keys are equal if they denote one key. -/
theorem eq_iff_exists_key {α : Type} {f : α → Key} (inj : ∀ a b, f a = f b → a = b) {a b : α} :
    a = b ↔ ∃ k, some (f a) = some k ∧ some (f b) = some k := by
  constructor
  · rintro rfl
    exact ⟨f a, rfl, rfl⟩
  · rintro ⟨k, ha, hb⟩
    exact inj a b (Option.some.inj (ha.trans hb.symm))

/-- Two things denote one key if what they denote is equal. -/
theorem key_eq_iff_exists_key {a b : Key} : a = b ↔ ∃ k, some a = some k ∧ some b = some k :=
  eq_iff_exists_key (f := id) fun _ _ => id

/-- A key other than a whole number is written in one kind of value. -/
theorem eq_or_whole_of_key? {k : Key} (hv : v.key? = some k) (hw : w.key? = some k) :
    (∃ i, k = .whole i)
      ∨ (v = null ∧ w = null)
      ∨ (∃ s t, v = str s ∧ w = str t)
      ∨ (∃ s t, v = torn s ∧ w = torn t)
      ∨ (∃ a b, v = bytes a ∧ w = bytes b)
      ∨ (∃ a b, v = date a ∧ w = date b)
      ∨ (∃ a b, v = datetime a ∧ w = datetime b)
      ∨ ∃ x y, v = float x ∧ w = float y := by
  cases v <;> cases w <;> simp_all [key?, DateTime.key, Double.key] <;> grind

/-- **Values are the same key if they denote one key.** -/
theorem sameAtom_eq_true_iff : v.sameAtom w = true ↔ ∃ k, v.key? = some k ∧ w.key? = some k := by
  unfold sameAtom
  split
  next => simp [key?]
  next => exact beq_iff_eq.trans (eq_iff_exists_key fun a b => Key.text.inj)
  next => exact beq_iff_eq.trans (eq_iff_exists_key fun a b => Key.torn.inj)
  next => exact beq_iff_eq.trans (eq_iff_exists_key fun a b => Key.octets.inj)
  next => exact beq_iff_eq.trans (eq_iff_exists_key fun a b => Key.day.inj)
  next => exact DateTime.sameInstant_eq_true_iff.trans key_eq_iff_exists_key
  next => exact Double.sameValue_eq_true_iff.trans key_eq_iff_exists_key
  next nulls texts torns octets days times numbers =>
    -- no two values of one kind are left, so only whole numbers can be the same key
    constructor
    · intro h
      split at h
      next i j hi hj =>
        rw [beq_iff_eq] at h
        subst h
        exact ⟨.whole i, keyInt?_eq_some_iff.mp hi, keyInt?_eq_some_iff.mp hj⟩
      next => exact absurd h Bool.false_ne_true
    · rintro ⟨k, hv, hw⟩
      rcases eq_or_whole_of_key? hv hw with ⟨i, rfl⟩ | ⟨rfl, rfl⟩ | ⟨s, t, rfl, rfl⟩
        | ⟨s, t, rfl, rfl⟩ | ⟨a, b, rfl, rfl⟩ | ⟨a, b, rfl, rfl⟩ | ⟨a, b, rfl, rfl⟩ | ⟨x, y, rfl, rfl⟩
      · rw [keyInt?_eq_some_iff.mpr hv, keyInt?_eq_some_iff.mpr hw]
        exact beq_self_eq_true i
      · exact absurd rfl (fun e => nulls e rfl)
      · exact absurd rfl (fun e => texts s t e rfl)
      · exact absurd rfl (fun e => torns s t e rfl)
      · exact absurd rfl (fun e => octets a b e rfl)
      · exact absurd rfl (fun e => days a b e rfl)
      · exact absurd rfl (fun e => times a b e rfl)
      · exact absurd rfl (fun e => numbers x y e rfl)

theorem sameAtom_symm (h : v.sameAtom w = true) : w.sameAtom v = true := by
  obtain ⟨k, hv, hw⟩ := sameAtom_eq_true_iff.mp h
  exact sameAtom_eq_true_iff.mpr ⟨k, hw, hv⟩

theorem sameAtom_trans (huv : u.sameAtom v = true) (hvw : v.sameAtom w = true) :
    u.sameAtom w = true := by
  obtain ⟨k, hu, hv⟩ := sameAtom_eq_true_iff.mp huv
  obtain ⟨l, hv', hw⟩ := sameAtom_eq_true_iff.mp hvw
  have same : k = l := Option.some.inj (hv.symm.trans hv')
  subst same
  exact sameAtom_eq_true_iff.mpr ⟨k, hu, hw⟩

theorem sameAtom_self (h : v.isAtom = true) : v.sameAtom v = true := by
  rw [sameAtom_eq_true_iff]
  cases v with
  | list _ => exact absurd h Bool.false_ne_true
  | mapping _ => exact absurd h Bool.false_ne_true
  | tuple _ => exact absurd h Bool.false_ne_true
  | set _ => exact absurd h Bool.false_ne_true
  | _ => exact ⟨_, rfl, rfl⟩

theorem sameAtoms_symm {vs ws : List Value} (h : sameAtoms vs ws = true) :
    sameAtoms ws vs = true := by
  fun_induction sameAtoms vs ws with
  | case1 => rfl
  | case2 v vs w ws ih =>
      rw [Bool.and_eq_true] at h
      rw [sameAtoms, sameAtom_symm h.1, ih h.2, Bool.true_and]
  | case3 => exact absurd h Bool.false_ne_true

theorem sameAtoms_trans {us vs ws : List Value} (huv : sameAtoms us vs = true)
    (hvw : sameAtoms vs ws = true) : sameAtoms us ws = true := by
  fun_induction sameAtoms us vs generalizing ws with
  | case1 => exact hvw
  | case2 u us v vs ih =>
      cases ws with
      | nil => exact absurd hvw Bool.false_ne_true
      | cons w ws =>
          rw [sameAtoms, Bool.and_eq_true] at hvw
          rw [Bool.and_eq_true] at huv
          rw [sameAtoms, sameAtom_trans huv.1 hvw.1, ih huv.2 hvw.2, Bool.true_and]
  | case3 => exact absurd huv Bool.false_ne_true

theorem sameAtoms_self {vs : List Value} (h : ∀ v ∈ vs, v.isAtom = true) :
    sameAtoms vs vs = true := by
  induction vs with
  | nil => rfl
  | cons v vs ih =>
      rw [List.forall_mem_cons] at h
      rw [sameAtoms, sameAtom_self h.1, ih h.2, Bool.true_and]

/-- A tuple is not the same key as a value that is not made of others. -/
theorem sameAtom_tuple {xs : List Value} : (tuple xs).sameAtom w = false := by
  simp [sameAtom, keyInt?]

/-- Values are the same key either as tuples or as values that are not made of others. -/
theorem sameKey_eq_true_iff :
    v.sameKey w = true
      ↔ v.sameAtom w = true
        ∨ ∃ xs ys, v = tuple xs ∧ w = tuple ys ∧ sameAtoms xs ys = true := by
  unfold sameKey
  split
  next xs ys =>
    rw [sameAtom_tuple]
    constructor
    · exact fun all => Or.inr ⟨xs, ys, rfl, rfl, all⟩
    · rintro (atom | ⟨_, _, hx, hy, all⟩)
      · exact absurd atom Bool.false_ne_true
      · injection hx with hx
        injection hy with hy
        rwa [hx, hy]
  next no_tuples =>
    constructor
    · exact Or.inl
    · rintro (atom | ⟨xs, ys, hx, hy, _⟩)
      · exact atom
      · exact (no_tuples xs ys hx hy).elim

theorem sameKey_symm (h : v.sameKey w = true) : w.sameKey v = true := by
  rw [sameKey_eq_true_iff] at h ⊢
  rcases h with atom | ⟨xs, ys, rfl, rfl, all⟩
  · exact Or.inl (sameAtom_symm atom)
  · exact Or.inr ⟨ys, xs, rfl, rfl, sameAtoms_symm all⟩

theorem sameKey_trans (huv : u.sameKey v = true) (hvw : v.sameKey w = true) :
    u.sameKey w = true := by
  rw [sameKey_eq_true_iff] at huv hvw ⊢
  rcases huv with atom | ⟨xs, ys, rfl, rfl, all⟩
  · rcases hvw with atom' | ⟨ys, zs, rfl, rfl, _⟩
    · exact Or.inl (sameAtom_trans atom atom')
    · have tuple_atom := sameAtom_symm atom
      rw [sameAtom_tuple] at tuple_atom
      exact absurd tuple_atom Bool.false_ne_true
  · rcases hvw with atom | ⟨_, zs, same, rfl, all'⟩
    · rw [sameAtom_tuple] at atom
      exact absurd atom Bool.false_ne_true
    · injection same with same
      subst same
      exact Or.inr ⟨xs, zs, rfl, rfl, sameAtoms_trans all all'⟩

/-- **What can be a key is found again under itself.** -/
theorem sameKey_self (h : v.hashable = true) : v.sameKey v = true := by
  rw [sameKey_eq_true_iff]
  unfold hashable at h
  split at h
  next xs =>
    rw [List.all_eq_true] at h
    exact Or.inr ⟨xs, xs, rfl, rfl, sameAtoms_self h⟩
  next => exact Or.inl (sameAtom_self h)

end Value

/-! ## §2. The keys of entries. -/

namespace Entries

/-- The keys of entries, in their order. -/
def keys (es : Entries) : List Value := es.map (·.1)

theorem mem_keys_insert {key k v : Value} {es : Entries} (h : k ∈ keys (insert key v es)) :
    k = key ∨ k ∈ keys es := by
  induction es with
  | nil => exact Or.inl (List.mem_singleton.mp h)
  | cons e es ih =>
      obtain ⟨first, w⟩ := e
      rw [insert] at h
      split at h
      next => exact Or.inr h
      next =>
        rcases List.mem_cons.mp h with rfl | h
        · exact Or.inr List.mem_cons_self
        · exact (ih h).imp id (List.mem_cons_of_mem first)

/-- What is stored has a key. -/
theorem exists_key_insert (key v : Value) (es : Entries) :
    ∃ k ∈ keys (insert key v es), k = key ∨ key.sameKey k = true := by
  induction es with
  | nil => exact ⟨key, List.mem_singleton_self key, Or.inl rfl⟩
  | cons e es ih =>
      obtain ⟨first, w⟩ := e
      rw [insert]
      split
      next same => exact ⟨first, List.mem_cons_self, Or.inr same⟩
      next =>
        obtain ⟨k, mem, same⟩ := ih
        exact ⟨k, List.mem_cons_of_mem first mem, same⟩

/-- Storing removes no key. -/
theorem mem_keys_insert_of_mem {key k : Value} (v : Value) {es : Entries} (h : k ∈ keys es) :
    k ∈ keys (insert key v es) := by
  induction es with
  | nil => exact absurd h (List.not_mem_nil)
  | cons e es ih =>
      obtain ⟨first, w⟩ := e
      rw [insert]
      split
      next => exact h
      next =>
        rcases List.mem_cons.mp h with rfl | h
        · exact List.mem_cons_self
        · exact List.mem_cons_of_mem first (ih h)

end Entries

end ApiTools
