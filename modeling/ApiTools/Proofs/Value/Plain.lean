/-
  ApiTools.Proofs.Value.Plain
  ───────────────────────────
  **PLAIN VALUES.**

  YAML has kinds of values that JSON lacks: days, times, octets, sets, pairs.
  A value is plain if none of them occurs in it, at any depth, and if every
  key in it is one that JSON can spell (`Value.Plain`).  What is taken out of
  a plain value is plain, and so is what plain values are put together to;
  the lemmas follow the operations on entries, the questions asked of values
  of unknown kind, and the writer of JSON.

  Main results: `Json.faultsIn_writeAt_of_plain` — only a number or its levels
  can keep a plain value from being written — and so
  `Json.exists_write_of_plain`, for styles that refuse no number but long ones.
-/
import ApiTools.Json.Writer
import ApiTools.Proofs.Fault
import ApiTools.Proofs.Value.Entries
import ApiTools.Proofs.Value.Hereditary

namespace ApiTools

namespace Value

/-! ## §1. The predicate. -/

/-- The keys that JSON can spell. -/
inductive PlainKey : Value → Prop
  | null : PlainKey .null
  | bool (b : Bool) : PlainKey (.bool b)
  | int (i : Int) : PlainKey (.int i)
  | float (x : Double) : PlainKey (.float x)
  | str (s : String) : PlainKey (.str s)
  | torn (t : Text.Torn) : PlainKey (.torn t)

/-- The values that hold nothing but what JSON has, at every depth. -/
inductive Plain : Value → Prop
  | null : Plain .null
  | bool (b : Bool) : Plain (.bool b)
  | int (i : Int) : Plain (.int i)
  | float (x : Double) : Plain (.float x)
  | str (s : String) : Plain (.str s)
  | torn (t : Text.Torn) : Plain (.torn t)
  | list {xs : List Value} (items : ∀ x ∈ xs, Plain x) : Plain (.list xs)
  | mapping {p : Option Nat} {es : Entries} (keys : ∀ e ∈ es, PlainKey e.1)
      (values : ∀ e ∈ es, Plain e.2) :
      Plain (.mapping (p := p) es)

theorem PlainKey.plain {v : Value} (h : PlainKey v) : Plain v := by
  cases h with
  | null => exact .null
  | bool b => exact .bool b
  | int i => exact .int i
  | float x => exact .float x
  | str s => exact .str s
  | torn t => exact .torn t

/-- A plain value that can be a key is one that JSON can spell. -/
theorem Plain.key {v : Value} (h : Plain v) (hashable : v.hashable = true) : PlainKey v := by
  cases h with
  | null => exact .null
  | bool b => exact .bool b
  | int i => exact .int i
  | float x => exact .float x
  | str s => exact .str s
  | torn t => exact .torn t
  | list _ => exact absurd hashable Bool.false_ne_true
  | mapping _ _ => exact absurd hashable Bool.false_ne_true

theorem plain_list_iff {xs : List Value} : Plain (.list xs) ↔ ∀ x ∈ xs, Plain x := by
  constructor
  · intro h
    cases h with
    | list items => exact items
  · exact .list

theorem plain_mapping_iff {p : Option Nat} {es : Entries} :
    Plain (.mapping (p := p) es) ↔ ∀ e ∈ es, PlainKey e.1 ∧ Plain e.2 := by
  constructor
  · intro h e mem
    cases h with
    | mapping keys values => exact ⟨keys e mem, values e mem⟩
  · intro h
    exact .mapping (fun e mem => (h e mem).1) (fun e mem => (h e mem).2)

/-- Items that are made of plain ones one by one. -/
theorem Plain.mapItems {xs : List Value} {f : Value → Value} (h : Plain (.list xs))
    (each : ∀ x ∈ xs, Plain x → Plain (f x)) : Plain (.list (xs.map f)) := by
  rw [plain_list_iff] at h ⊢
  intro y mem
  obtain ⟨x, hx, rfl⟩ := List.mem_map.mp mem
  exact each x hx (h x hx)

/-- Entries that are made of plain ones one by one, each under its key. -/
theorem Plain.mapEntries {p q : Option Nat} {es : Entries} {f : Value × Value → Value}
    (h : Plain (.mapping (p := p) es)) (each : ∀ e ∈ es, Plain e.2 → Plain (f e)) :
    Plain (.mapping (p := q) (es.map fun e => (e.1, f e))) := by
  rw [plain_mapping_iff] at h ⊢
  intro d mem
  obtain ⟨e, he, rfl⟩ := List.mem_map.mp mem
  exact ⟨(h e he).1, each e he (h e he).2⟩

theorem Plain.empty {p : Option Nat} : Plain (.mapping (p := p) []) :=
  plain_mapping_iff.mpr fun _ mem => absurd mem List.not_mem_nil

theorem plain_ofPoints (ps : List Text.Point) : Plain (.ofPoints ps) := by
  unfold ofPoints
  split
  next => exact .torn _
  next => exact .str _

/-- Texts are plain. -/
theorem plain_texts (ss : List String) : ∀ v ∈ ss.map Value.str, Plain v := by
  intro v mem
  obtain ⟨s, _, rfl⟩ := List.mem_map.mp mem
  exact .str s

/-- A mapping with names as keys is plain if its values are. -/
theorem plain_object {fields : List (String × Value)} (h : ∀ f ∈ fields, Plain f.2) :
    Plain (object fields) := by
  rw [object, plain_mapping_iff]
  intro e mem
  obtain ⟨f, hf, rfl⟩ := List.mem_map.mp mem
  exact ⟨.str f.1, h f hf⟩

theorem Plain.orElse {v w : Value} (hv : Plain v) (hw : Plain w) : Plain (v.orElse w) := by
  unfold Value.orElse
  split
  next => exact hv
  next => exact hw

end Value

open Value (Plain PlainKey plain_list_iff plain_mapping_iff)

/-! ## §2. Telling plain values. -/

namespace Value

/-- Is the value a key that JSON can spell? -/
def isPlainKey : Value → Bool
  | null => true
  | bool _ => true
  | int _ => true
  | float _ => true
  | str _ => true
  | torn _ => true
  | _ => false

mutual

/-- Does the value hold nothing but what JSON has? -/
def isPlain : Value → Bool
  | list xs => arePlain xs
  | mapping es => arePlainEntries es
  | v => isPlainKey v

def arePlain : List Value → Bool
  | [] => true
  | v :: vs => isPlain v && arePlain vs

def arePlainEntries : List (Value × Value) → Bool
  | [] => true
  | (k, v) :: es => isPlainKey k && isPlain v && arePlainEntries es

end

theorem isPlainKey_eq_true_iff {v : Value} : v.isPlainKey = true ↔ PlainKey v := by
  constructor
  · intro h
    cases v with
    | null => exact .null
    | bool b => exact .bool b
    | int i => exact .int i
    | float x => exact .float x
    | str s => exact .str s
    | torn t => exact .torn t
    | _ => exact absurd h Bool.false_ne_true
  · intro h
    cases h <;> rfl

theorem arePlain_eq_true_iff {xs : List Value} :
    arePlain xs = true ↔ ∀ x ∈ xs, x.isPlain = true := by
  induction xs with
  | nil => simp [arePlain]
  | cons x xs ih => rw [arePlain, Bool.and_eq_true, ih, List.forall_mem_cons]

theorem arePlainEntries_eq_true_iff {es : Entries} :
    arePlainEntries es = true ↔ ∀ e ∈ es, PlainKey e.1 ∧ e.2.isPlain = true := by
  induction es with
  | nil => simp [arePlainEntries]
  | cons e es ih =>
      rw [arePlainEntries, Bool.and_eq_true, Bool.and_eq_true, ih, List.forall_mem_cons,
        isPlainKey_eq_true_iff]

theorem isPlain_of_plain {v : Value} (h : Plain v) : v.isPlain = true := by
  induction h with
  | list _ ih =>
      rw [isPlain]
      exact arePlain_eq_true_iff.mpr ih
  | mapping keys _ ih =>
      rw [isPlain]
      exact arePlainEntries_eq_true_iff.mpr fun e mem => ⟨keys e mem, ih e mem⟩
  | _ => rfl

theorem plain_of_isPlain {v : Value} (h : v.isPlain = true) : Plain v := by
  induction v using inductionOnParts with
  | step v ih =>
      cases v with
      | list xs =>
          rw [isPlain, arePlain_eq_true_iff] at h
          exact .list fun x mem => ih x mem (h x mem)
      | mapping es =>
          rw [isPlain, arePlainEntries_eq_true_iff] at h
          exact .mapping (fun e mem => (h e mem).1) fun e mem => ih e.2 (mem_parts mem) (h e mem).2
      | _ =>
          unfold isPlain at h
          exact (isPlainKey_eq_true_iff.mp h).plain

theorem isPlain_eq_true_iff {v : Value} : v.isPlain = true ↔ Plain v :=
  ⟨plain_of_isPlain, isPlain_of_plain⟩

instance (v : Value) : Decidable (Plain v) := decidable_of_iff _ isPlain_eq_true_iff

end Value

/-! ## §3. Entries. -/

namespace Entries

variable {p : Option Nat} {es : Entries} {key v : Value} {name : String}

theorem plain_find? (h : Plain (.mapping (p := p) es)) (found : find? key es = some v) : Plain v := by
  rw [find?, Option.map_eq_some_iff] at found
  obtain ⟨e, first, rfl⟩ := found
  exact (plain_mapping_iff.mp h e (List.mem_of_find?_eq_some first)).2

theorem plain_get? (h : Plain (.mapping (p := p) es)) (found : get? name es = some v) : Plain v :=
  plain_find? h found

/-- What stands under a name, null if nothing does. -/
theorem plain_getD (h : Plain (.mapping (p := p) es)) (name : String) :
    Plain ((get? name es).getD .null) := by
  cases found : get? name es with
  | none => exact .null
  | some v => exact plain_get? h found

/-- An entry after storing is the new one, has its value, or was there before. -/
theorem mem_insert {e : Value × Value} (h : e ∈ insert key v es) :
    (e.1 = key ∨ e.1 ∈ es.map (·.1)) ∧ (e.2 = v ∨ e.2 ∈ es.map (·.2)) := by
  induction es with
  | nil =>
      rw [insert, List.mem_singleton] at h
      rw [h]
      exact ⟨Or.inl rfl, Or.inl rfl⟩
  | cons d es ih =>
      obtain ⟨k, w⟩ := d
      rw [insert] at h
      split at h
      next =>
        rcases List.mem_cons.mp h with rfl | mem
        · exact ⟨Or.inr List.mem_cons_self, Or.inl rfl⟩
        · exact ⟨Or.inr (List.mem_cons_of_mem _ (List.mem_map_of_mem mem)),
            Or.inr (List.mem_cons_of_mem _ (List.mem_map_of_mem mem))⟩
      next =>
        rcases List.mem_cons.mp h with rfl | mem
        · exact ⟨Or.inr List.mem_cons_self, Or.inr List.mem_cons_self⟩
        · obtain ⟨key_of, value_of⟩ := ih mem
          exact ⟨key_of.imp_right (List.mem_cons_of_mem _),
            value_of.imp_right (List.mem_cons_of_mem _)⟩

theorem plain_insert (h : Plain (.mapping (p := p) es)) (hk : PlainKey key) (hv : Plain v) :
    Plain (.mapping (p := p) (insert key v es)) := by
  rw [plain_mapping_iff] at h ⊢
  intro e mem
  obtain ⟨key_of, value_of⟩ := mem_insert mem
  constructor
  · rcases key_of with same | old
    · rw [same]
      exact hk
    · obtain ⟨d, hd, same⟩ := List.mem_map.mp old
      rw [← same]
      exact (h d hd).1
  · rcases value_of with same | old
    · rw [same]
      exact hv
    · obtain ⟨d, hd, same⟩ := List.mem_map.mp old
      rw [← same]
      exact (h d hd).2

theorem plain_put (name : String) (h : Plain (.mapping (p := p) es)) (hv : Plain v) :
    Plain (.mapping (p := p) (put name v es)) :=
  plain_insert h (.str name) hv

theorem plain_filter (h : Plain (.mapping (p := p) es)) (keep : Value × Value → Bool) :
    Plain (.mapping (p := p) (List.filter keep es)) := by
  rw [plain_mapping_iff] at h ⊢
  exact fun e mem => h e (List.mem_filter.mp mem).1

end Entries

namespace Value

theorem hereditary_plain : Hereditary Plain PlainKey where
  null := .null
  bool := .bool
  int := .int
  float := .float
  str := .str
  torn := .torn
  list := plain_list_iff
  name := .str
  tornName := .torn
  empty := .empty
  insert := Entries.plain_insert

/-! ## §4. Questions to values. -/

variable {v w : Value} {name : String}

theorem plain_of_field? (h : Plain v) (field : v.field? name = .ok (some w)) : Plain w := by
  cases h with
  | mapping keys values =>
      injection field with field
      exact Entries.plain_get? (p := none) (.mapping keys values) field
  | _ => exact absurd field (by simp [field?, lacks])

theorem plain_of_field (h : Plain v) (field : v.field name = .ok w) : Plain w := by
  obtain ⟨_, es, rfl, rfl⟩ := field_eq_ok_iff.mp field
  exact Entries.plain_getD h name

theorem plain_of_part (h : Plain v) (part : v.part name = .ok w) : Plain w := by
  have found := get?_of_part part
  cases h with
  | mapping keys values => exact Entries.plain_get? (p := none) (.mapping keys values) found
  | _ => exact absurd found (by simp [get?, entries, Entries.get?, Entries.find?])

theorem plain_of_pairs {p : Option Nat} {es : Entries} (h : Plain v) (pairs : v.pairs = .ok es) :
    Plain (.mapping (p := p) es) := by
  cases h with
  | mapping keys values =>
      injection pairs with pairs
      rw [← pairs]
      exact .mapping keys values
  | _ => exact absurd pairs (by simp [Value.pairs, lacks])

/-- Going through a plain value meets plain values. -/
theorem plain_of_elements {xs : List Value} (h : Plain v) (elements : v.elements = .ok xs) :
    ∀ x ∈ xs, Plain x := by
  cases h with
  | list items =>
      injection elements with elements
      rw [← elements]
      exact items
  | mapping keys values =>
      injection elements with elements
      rw [← elements]
      intro x mem
      obtain ⟨e, he, rfl⟩ := List.mem_map.mp mem
      exact (keys e he).plain
  | str s =>
      injection elements with elements
      rw [← elements]
      intro x mem
      obtain ⟨c, _, rfl⟩ := List.mem_map.mp mem
      exact .str _
  | torn t =>
      injection elements with elements
      rw [← elements]
      intro x mem
      obtain ⟨p, _, rfl⟩ := List.mem_map.mp mem
      exact plain_ofPoints [p]
  | _ => exact absurd elements (by simp [Value.elements])

end Value

/-! ## §5. Writing. -/

namespace Json

variable {style : Style}

/-- What can keep a plain value from being written: a number that is not finite, whole numbers that
cannot be said, or more levels than may be nested. -/
inductive Unfit (style : Style) (levels : Nat) (sayable : Bool) : WriteProblem → Prop
  | notFinite (strict : style.finite = true) : Unfit style levels sayable .notFinite
  | tooManyDigits (long : sayable = false) : Unfit style levels sayable .tooManyDigits
  | tooDeep (more : style.nesting < levels) : Unfit style levels sayable .tooDeep

/-- What keeps a part from being written keeps the whole from it. -/
theorem Unfit.outwards {levels levels' : Nat} {sayable sayable' : Bool} {p : WriteProblem}
    (h : Unfit style levels sayable p) (deeper : levels ≤ levels')
    (all : sayable' = true → sayable = true) : Unfit style levels' sayable' p := by
  cases h with
  | notFinite strict => exact .notFinite strict
  | tooManyDigits long =>
      refine .tooManyDigits ?_
      rw [← Bool.not_eq_true] at long ⊢
      exact fun sayable => long (all sayable)
  | tooDeep more => exact .tooDeep (Nat.lt_of_lt_of_le more deeper)

theorem faultsIn_number (levels : Nat) (sayable : Bool) (x : Double) :
    FaultsIn (Unfit style levels sayable) (number style x) := by
  refine .ite (fun refused => .error (.notFinite ?_)) fun _ => .ok _
  rw [Bool.and_eq_true] at refused
  exact refused.1

theorem faultsIn_whole (levels : Nat) (i : Int) :
    FaultsIn (Unfit style levels (Value.isSayable (.int i))) (whole i) :=
  .ite (fun _ => .ok _) fun long => .error (.tooManyDigits (decide_eq_false long))

theorem faultsIn_keyText_of_plainKey (levels : Nat) {key : Value} (h : PlainKey key) :
    FaultsIn (Unfit style levels key.isSayable) (keyText style key) := by
  cases h with
  | float x => exact (faultsIn_number levels _ x).map
  | int i => exact (faultsIn_whole levels i).map
  | _ => exact .ok _

/-- What stands on a level that may be nested is written, or a part of it is not. -/
theorem faultsIn_onLevel {level levels : Nat} {sayable : Bool}
    {written : Except WriteProblem String} (inside : level < levels)
    (h : FaultsIn (Unfit style levels sayable) written) :
    FaultsIn (Unfit style levels sayable) (onLevel style level written) :=
  .ite (fun _ => h) fun outside =>
    .error (.tooDeep (Nat.lt_of_le_of_lt (Nat.not_lt.mp outside) inside))

theorem faultsIn_writeItems {level levels : Nat} {sayable : Bool} {xs : List Value}
    (h : ∀ x ∈ xs, FaultsIn (Unfit style levels sayable) (writeAt style level x)) :
    FaultsIn (Unfit style levels sayable) (writeItems style level xs) := by
  induction xs with
  | nil =>
      rw [writeItems]
      exact .ok []
  | cons x xs ih =>
      rw [List.forall_mem_cons] at h
      rw [writeItems]
      exact h.1.bind fun first _ => (ih h.2).bind fun others _ => .ok (first :: others)

theorem faultsIn_writeMembers {level levels : Nat} {sayable : Bool} {es : Entries}
    (keys : ∀ e ∈ es, FaultsIn (Unfit style levels sayable) (keyText style e.1))
    (h : ∀ e ∈ es, FaultsIn (Unfit style levels sayable) (writeAt style level e.2)) :
    FaultsIn (Unfit style levels sayable) (writeMembers style level es) := by
  induction es with
  | nil =>
      rw [writeMembers]
      exact .ok []
  | cons e es ih =>
      rw [List.forall_mem_cons] at keys h
      rw [writeMembers]
      exact keys.1.bind fun name _ => h.1.bind fun first _ =>
        (ih keys.2 h.2).bind fun others _ => .ok _

/-- **Only its numbers and its levels can keep a plain value from being written.** -/
theorem faultsIn_writeAt_of_plain {v : Value} (h : Plain v) :
    ∀ level, FaultsIn (Unfit style (level + v.depth) v.isSayable) (writeAt style level v) := by
  -- over the value, for all levels at once: its parts are written one level deeper
  induction h with
  | float x =>
      intro level
      rw [writeAt]
      exact faultsIn_number _ _ x
  | int i =>
      intro level
      rw [writeAt]
      exact faultsIn_whole _ i
  | @list xs _ ih =>
      intro level
      rw [writeAt, Value.depth, Value.isSayable]
      refine faultsIn_onLevel (by omega) (faultsIn_writeItems fun x mem => ?_).map
      refine (ih x mem (level + 1)).mono fun p unfit => unfit.outwards ?_ fun all => ?_
      · have part := Value.depth_le_depthOfItems mem
        omega
      · exact Value.areSayable_eq_true_iff.mp all x mem
  | mapping keys _ ih =>
      intro level
      rw [writeAt, Value.depth, Value.isSayable]
      refine faultsIn_onLevel (by omega)
        (faultsIn_writeMembers (fun e mem => ?_) fun e mem => ?_).map
      · exact (faultsIn_keyText_of_plainKey _ (keys e mem)).mono fun p unfit =>
          unfit.outwards (Nat.le_refl _) fun all =>
            (Value.entriesAreSayable_eq_true_iff.mp all e mem).1
      · refine (ih e mem (level + 1)).mono fun p unfit => unfit.outwards ?_ fun all => ?_
        · have part := Value.depth_le_depthOfEntries mem
          omega
        · exact (Value.entriesAreSayable_eq_true_iff.mp all e mem).2
  | _ =>
      intro level
      rw [writeAt]
      exact .ok _

/-- **Plain values can be written** whose whole numbers can be said and whose levels may be nested,
if numbers that are not finite may be written. -/
theorem exists_write_of_plain (lenient : style.finite = false) {v : Value} (h : Plain v)
    (sayable : v.isSayable = true) (fits : v.depth ≤ style.nesting) :
    ∃ s, write style v = .ok s := by
  cases written : write style v with
  | ok s => exact ⟨s, rfl⟩
  | error p =>
      cases faultsIn_writeAt_of_plain h 0 p written with
      | notFinite strict => exact absurd (strict.symm.trans lenient) (by simp)
      | tooManyDigits long => exact absurd (sayable.symm.trans long) (by simp)
      | tooDeep more => exact absurd more (by omega)

end Json

end ApiTools
