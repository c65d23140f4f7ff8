/-
  ApiTools.Proofs.Schema.Sharing
  ──────────────────────────────
  **SCHEMAS THAT STAND ELSEWHERE TOO.**

  Aliases make one mapping stand at several places.  If all of these are
  places of schemas, conversion does not notice.  If one of them is not, the
  mapping is converted there as well, though it is data or a list of names.
  `Apart` says that a schema holds no such mapping, and then it is settled as
  it is (`Apart.settled_eq`).

  Settling goes through a schema with the position of each value, so it is a
  map over items and over entries (`settleItems_eq_map` and the like), and it
  changes nothing in whatever holds none of the schemas (`settleAt_eq_self`).
-/
import ApiTools.Schema.Basic
import ApiTools.Proofs.Value.Entries

namespace ApiTools.Schema

/-! ## §1. Numbers. -/

mutual

/-- The numbers of the mappings in a value at a position that do not stand as schemas. -/
def asideAt : Position → Value → List Nat
  | position, .mapping (p := p) es =>
    match position with
    | .one => asideIn es
    | .oneOrMany => asideIn es
    | .named => p.toList ++ asideOfValues .one es
    | _ => p.toList ++ asideOfValues .data es
  | position, .list vs =>
    match position with
    | .oneOrMany => asideOfItems .one vs
    | .many => asideOfItems .one vs
    | _ => asideOfItems .data vs
  | _, .tuple vs => asideOfItems .data vs
  | _, _ => []

def asideOfItems (position : Position) : List Value → List Nat
  | [] => []
  | v :: vs => asideAt position v ++ asideOfItems position vs

def asideOfValues (position : Position) : List (Value × Value) → List Nat
  | [] => []
  | (_, v) :: es => asideAt position v ++ asideOfValues position es

/-- The numbers of the mappings that the keywords of a schema hold, but not as schemas. -/
def asideIn : List (Value × Value) → List Nat
  | [] => []
  | (k, v) :: es => asideAt (positionOf k) v ++ asideIn es

end

/-- Does every mapping that stands as a schema in a schema stand as nothing else in it? -/
def Apart (v : Value) : Prop := ∀ n ∈ numbersAt .one v, n ∉ asideAt .one v

instance (v : Value) : Decidable (Apart v) :=
  inferInstanceAs (Decidable (∀ n ∈ numbersAt .one v, n ∉ asideAt .one v))

theorem numbersOfItems_eq_flatMap (vs : List Value) :
    numbersOfItems vs = vs.flatMap (numbersAt .one) := by
  induction vs with
  | nil => rw [numbersOfItems, List.flatMap_nil]
  | cons v vs ih => rw [numbersOfItems, ih, List.flatMap_cons]

theorem numbersOfNamed_eq_flatMap (es : Entries) :
    numbersOfNamed es = es.flatMap fun e => numbersAt .one e.2 := by
  induction es with
  | nil => rw [numbersOfNamed, List.flatMap_nil]
  | cons e es ih => rw [numbersOfNamed, ih, List.flatMap_cons]

theorem numbersIn_eq_flatMap (es : Entries) :
    numbersIn es = es.flatMap fun e => numbersAt (positionOf e.1) e.2 := by
  induction es with
  | nil => rw [numbersIn, List.flatMap_nil]
  | cons e es ih => rw [numbersIn, ih, List.flatMap_cons]

/-! ## §2. Settling. -/

section Settle

variable {schemas : List Nat}

theorem settleItems_eq_map (position : Position) (vs : List Value) :
    settleItems schemas position vs = vs.map (settleAt schemas position) := by
  induction vs with
  | nil => rw [settleItems, List.map_nil]
  | cons v vs ih => rw [settleItems, ih, List.map_cons]

theorem settleValues_eq_map (position : Position) (es : Entries) :
    settleValues schemas position es = es.map fun e => (e.1, settleAt schemas position e.2) := by
  induction es with
  | nil => rw [settleValues, List.map_nil]
  | cons e es ih => rw [settleValues, ih, List.map_cons]

theorem settleIn_eq_map (es : Entries) :
    settleIn schemas es = es.map fun e => (e.1, settleAt schemas (positionOf e.1) e.2) := by
  induction es with
  | nil => rw [settleIn, List.map_nil]
  | cons e es ih => rw [settleIn, ih, List.map_cons]

theorem get?_settleIn (name : String) (es : Entries) :
    Entries.get? name (settleIn schemas es)
      = (Entries.get? name es).map (settleAt schemas (positionOf (.str name))) := by
  rw [settleIn_eq_map]
  exact Entries.get?_map fun key v => settleAt schemas (positionOf key) v

mutual

/-- **What holds none of the schemas is settled as it is.** -/
theorem settleAt_eq_self : ∀ (position : Position) (v : Value),
    (∀ n ∈ asideAt position v, n ∉ schemas) → settleAt schemas position v = v
  | position, .mapping (p := p) es, apart => by
      cases position with
      | one =>
          simp only [asideAt] at apart
          simp only [settleAt, settleIn_eq_self es apart]
      | oneOrMany =>
          simp only [asideAt] at apart
          simp only [settleAt, settleIn_eq_self es apart]
      | named =>
          simp only [asideAt, List.forall_mem_append] at apart
          simp only [settleAt, settleValues_eq_self .one es apart.2]
      | _ =>
          simp only [asideAt, List.forall_mem_append] at apart
          simp only [settleAt, settleValues_eq_self .data es apart.2]
          cases p with
          | none => rfl
          | some n => simp [apart.1 n (by simp)]
  | position, .list vs, apart => by
      cases position <;> simp only [asideAt] at apart <;>
        simp only [settleAt, settleItems_eq_self _ vs apart]
  | position, .tuple vs, apart => by
      simp only [asideAt] at apart
      simp only [settleAt, settleItems_eq_self _ vs apart]
  | _, .null, _ => by simp only [settleAt]
  | _, .bool _, _ => by simp only [settleAt]
  | _, .int _, _ => by simp only [settleAt]
  | _, .float _, _ => by simp only [settleAt]
  | _, .str _, _ => by simp only [settleAt]
  | _, .torn _, _ => by simp only [settleAt]
  | _, .bytes _, _ => by simp only [settleAt]
  | _, .date _, _ => by simp only [settleAt]
  | _, .datetime _, _ => by simp only [settleAt]
  | _, .set _, _ => by simp only [settleAt]

theorem settleItems_eq_self : ∀ (position : Position) (vs : List Value),
    (∀ n ∈ asideOfItems position vs, n ∉ schemas) → settleItems schemas position vs = vs
  | _, [], _ => by rw [settleItems]
  | position, v :: vs, apart => by
      rw [asideOfItems, List.forall_mem_append] at apart
      rw [settleItems, settleAt_eq_self position v apart.1, settleItems_eq_self position vs apart.2]

theorem settleValues_eq_self : ∀ (position : Position) (es : List (Value × Value)),
    (∀ n ∈ asideOfValues position es, n ∉ schemas) → settleValues schemas position es = es
  | _, [], _ => by rw [settleValues]
  | position, (k, v) :: es, apart => by
      rw [asideOfValues, List.forall_mem_append] at apart
      rw [settleValues, settleAt_eq_self position v apart.1,
        settleValues_eq_self position es apart.2]

theorem settleIn_eq_self : ∀ es : List (Value × Value),
    (∀ n ∈ asideIn es, n ∉ schemas) → settleIn schemas es = es
  | [], _ => by rw [settleIn]
  | (k, v) :: es, apart => by
      rw [asideIn, List.forall_mem_append] at apart
      rw [settleIn, settleAt_eq_self _ v apart.1, settleIn_eq_self es apart.2]

end

end Settle

/-- A schema object settled: its entries, each at its position. -/
theorem settled_mapping (p : Option Nat) (es : Entries) :
    settled (.mapping (p := p) es)
      = .mapping (p := p) (settleIn (numbersAt .one (.mapping (p := p) es)) es) := by
  simp only [settled, settleAt]

namespace Apart

variable {v : Value}

/-- **A schema whose schemas stand nowhere else is settled as it is.** -/
theorem settled_eq (apart : Apart v) : settled v = v :=
  settleAt_eq_self .one v fun n aside schema => apart n schema aside

theorem orElse (apart : Apart v) : Apart (v.orElse (.mapping (p := none) [])) := by
  unfold Value.orElse
  split
  next => exact apart
  next => decide

end Apart

end ApiTools.Schema
