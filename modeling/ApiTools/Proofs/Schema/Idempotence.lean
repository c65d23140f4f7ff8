/-
  ApiTools.Proofs.Schema.Idempotence
  ──────────────────────────────────
  **CONVERTED SCHEMAS STAY AS THEY ARE.**

  A schema that two places of a document share is converted for each of them,
  and so may come to conversion more than once.  The second time changes
  nothing, for two reasons.
  Finishing a schema object and converting the schemas inside it commute
  (`convertEntries_finish`): the one touches keywords that hold no schemas,
  the other only those that do.  And a finished object has no unsupported
  keyword left, so that nothing is left to finish (`finish_finish`).

  With schemas that are data as well there is more to it.  Settling commutes
  with finishing for the same reason (`mapAt_finish`), so that what has been
  converted is settled (`settles`), and since conversion leaves the schemas
  what they are (`keepsNumbers`), it is settled by its own schemas.
-/
import Mathlib.Data.List.Basic
import ApiTools.Proofs.Schema.Structure

namespace ApiTools

namespace Entries

variable {es : Entries} {name : String} {v w : Value}

/-- Of two values stored under one name the second stays. -/
theorem put_put_self (name : String) (v w : Value) (es : Entries) :
    put name w (put name v es) = put name w es := by
  unfold put
  induction es with
  | nil =>
      show insert (.str name) w [(.str name, v)] = [(.str name, w)]
      rw [insert, if_pos (Value.sameKey_str_iff.mpr rfl)]
  | cons e es ih =>
      obtain ⟨k, u⟩ := e
      rw [insert, insert]
      split
      next same => rw [insert, if_pos same]
      next other => rw [insert, if_neg other, ih]

end Entries

namespace Schema

variable {p : Option Nat} {es : Entries} {name : String} {v w : Value}

/-! ## §1. Nothing left to finish. -/

theorem dropUnsupported_eq_self (h : ∀ k ∈ es.keys, isUnsupported k = false) :
    dropUnsupported es = es := by
  refine List.filter_eq_self.mpr fun e mem => ?_
  rw [h e.1 (List.mem_map_of_mem mem)]
  rfl

/-- A schema without unsupported keywords is not marked, and nothing is dropped. -/
theorem finish_eq_self (h : ∀ k ∈ es.keys, isUnsupported k = false) : finish es = es := by
  -- the mark itself is one of the unsupported keywords
  have unmarked : ¬ Marked es := by
    intro marked
    have mark := h _ (List.mem_map_of_mem (Entries.mem_of_get? marked))
    exact absurd mark (by decide)
  rw [finish_of_not_marked unmarked, dropUnsupported_eq_self h]

theorem isUnsupported_of_mem_keys_finish {k : Value} (mem : k ∈ (finish es).keys) :
    isUnsupported k = false := by
  rw [keys_finish, List.mem_filter, Bool.not_eq_true'] at mem
  exact mem.2

theorem finish_finish (es : Entries) : finish (finish es) = finish es :=
  finish_eq_self fun _ mem => isUnsupported_of_mem_keys_finish mem

/-! ## §2. What commutes with finishing. -/

/-- Are two values the same, or both lists, both tuples or both mappings? -/
inductive SameForm : Value → Value → Prop
  | same (v : Value) : SameForm v v
  | list (vs ws : List Value) : SameForm (.list vs) (.list ws)
  | tuple (vs ws : List Value) : SameForm (.tuple vs) (.tuple ws)
  | mapping {p q : Option Nat} (es fs : Entries) :
      SameForm (.mapping (p := p) es) (.mapping (p := q) fs)

namespace SameForm

theorem isText_eq (h : SameForm v w) (s : String) : w.isText s = v.isText s := by
  cases h <;> rfl

theorem isNull_eq (h : SameForm v w) : w.isNull = v.isNull := by
  cases h <;> rfl

theorem exists_list {ws : List Value} (h : SameForm v (.list ws)) : ∃ vs, v = .list vs := by
  cases h with
  | same => exact ⟨ws, rfl⟩
  | list vs => exact ⟨vs, rfl⟩

end SameForm

/-- Does a function keep the form of values, and go through the items of lists? -/
structure KeepsForm (f : Value → Value) : Prop where
  form : ∀ v, SameForm v (f v)
  list : ∀ vs, f (.list vs) = .list (vs.map f)

namespace KeepsForm

variable {f : Value → Value}

theorem same : KeepsForm fun v => v where
  form := .same
  list vs := by rw [List.map_id']

theorem str_eq (h : KeepsForm f) (s : String) : f (.str s) = .str s := by
  have form := h.form (.str s)
  generalize f (.str s) = w at form
  cases form
  rfl

theorem null_eq (h : KeepsForm f) : f .null = .null := by
  have form := h.form .null
  generalize f .null = w at form
  cases form
  rfl

theorem any_isText_map (h : KeepsForm f) (s : String) (vs : List Value) :
    (vs.map f).any (Value.isText s) = vs.any (Value.isText s) := by
  rw [List.any_map]
  exact congrArg vs.any (funext fun v => (h.form v).isText_eq s)

theorem any_isNull_map (h : KeepsForm f) (vs : List Value) :
    (vs.map f).any Value.isNull = vs.any Value.isNull := by
  rw [List.any_map]
  exact congrArg vs.any (funext fun v => (h.form v).isNull_eq)

end KeepsForm

/-- Entries with each value changed as its position wants it. -/
def mapAt (f : Position → Value → Value) (es : Entries) : Entries :=
  es.map fun e => (e.1, f (positionOf e.1) e.2)

section MapAt

variable {f : Position → Value → Value}

/-- What holds no schemas can be stored before or after. -/
theorem mapAt_put (data : positionOf (.str name) = .data) (v : Value) (es : Entries) :
    mapAt f (Entries.put name v es) = Entries.put name (f .data v) (mapAt f es) := by
  unfold mapAt Entries.put
  induction es with
  | nil =>
      rw [Entries.insert, List.map_cons, data]
      rfl
  | cons e es ih =>
      obtain ⟨k, u⟩ := e
      rw [List.map_cons, Entries.insert, Entries.insert]
      split
      next same => rw [List.map_cons, Value.sameKey_str_iff.mp same, data]
      next => rw [List.map_cons, ih]

theorem mapAt_dropUnsupported (f : Position → Value → Value) (es : Entries) :
    mapAt f (dropUnsupported es) = dropUnsupported (mapAt f es) := by
  rw [mapAt, mapAt, dropUnsupported, dropUnsupported, List.filter_map]
  rfl

/-- What stands under a keyword without schemas. -/
theorem get?_mapAt (data : positionOf (.str name) = .data) (es : Entries) :
    Entries.get? name (mapAt f es) = (Entries.get? name es).map (f .data) := by
  rw [← data]
  exact Entries.get?_map fun key v => f (positionOf key) v

theorem admitNullType_single {t : Value} (found : Entries.get? "type" es = some t)
    (present : t.isNull = false) (no_list : ∀ ts, t ≠ .list ts) :
    admitNullType es = Entries.put "type" (.list [t, .str "null"]) es := by
  unfold admitNullType
  rw [found]
  cases t with
  | list ts => exact absurd rfl (no_list ts)
  | null => exact absurd present (by simp [Value.isNull])
  | _ => rfl

theorem admitNullEnum_unlisted (unlisted : ∀ vs, Entries.get? "enum" es ≠ some (.list vs)) :
    admitNullEnum es = es := by
  unfold admitNullEnum
  split
  next vs found => exact absurd found (unlisted vs)
  next => rfl

variable (keeps : KeepsForm (f .data))

include keeps

theorem mapAt_admitNullType (es : Entries) :
    mapAt f (admitNullType es) = admitNullType (mapAt f es) := by
  have now : Entries.get? "type" (mapAt f es) = (Entries.get? "type" es).map (f .data) :=
    get?_mapAt rfl es
  cases stated : Entries.get? "type" es with
  | none =>
      rw [stated] at now
      simp only [admitNullType, stated, now, Option.map_none]
  | some t =>
      rw [stated, Option.map_some] at now
      by_cases listed : ∃ ts, t = .list ts
      · obtain ⟨ts, rfl⟩ := listed
        rw [keeps.list] at now
        simp only [admitNullType, stated, now, keeps.any_isText_map]
        split
        next => rfl
        next => rw [mapAt_put rfl, keeps.list, List.map_append, List.map_singleton, keeps.str_eq]
      · have no_list : ∀ ts, t ≠ .list ts := fun ts same => listed ⟨ts, same⟩
        have no_list' : ∀ ts, f .data t ≠ .list ts := by
          intro ts same
          exact listed (SameForm.exists_list (same ▸ keeps.form t))
        cases null : t.isNull with
        | true =>
            rw [Value.isNull_eq_true_iff.mp null] at stated now
            rw [keeps.null_eq] at now
            simp only [admitNullType, stated, now]
        | false =>
            have null' : (f .data t).isNull = false := (keeps.form t).isNull_eq.trans null
            rw [admitNullType_single stated null no_list, admitNullType_single now null' no_list',
              mapAt_put rfl, keeps.list, List.map_cons, List.map_singleton, keeps.str_eq]

theorem mapAt_admitNullEnum (es : Entries) :
    mapAt f (admitNullEnum es) = admitNullEnum (mapAt f es) := by
  have now : Entries.get? "enum" (mapAt f es) = (Entries.get? "enum" es).map (f .data) :=
    get?_mapAt rfl es
  by_cases listed : ∃ vs, Entries.get? "enum" es = some (.list vs)
  · obtain ⟨vs, stated⟩ := listed
    rw [stated, Option.map_some, keeps.list] at now
    simp only [admitNullEnum, stated, now, keeps.any_isNull_map]
    split
    next => rfl
    next => rw [mapAt_put rfl, keeps.list, List.map_append, List.map_singleton, keeps.null_eq]
  · have still_unlisted : ∀ vs, Entries.get? "enum" (mapAt f es) ≠ some (.list vs) := by
      intro vs same
      rw [now, Option.map_eq_some_iff] at same
      obtain ⟨v, stated, same⟩ := same
      obtain ⟨ws, rfl⟩ := SameForm.exists_list (same ▸ keeps.form v)
      exact listed ⟨ws, stated⟩
    rw [admitNullEnum_unlisted still_unlisted,
      admitNullEnum_unlisted fun vs same => listed ⟨vs, same⟩]

theorem isNullable_mapAt (es : Entries) : isNullable (mapAt f es) = isNullable es := by
  unfold isNullable
  rw [get?_mapAt rfl]
  cases Entries.get? "nullable" es with
  | none => rfl
  | some v =>
      have form := keeps.form v
      rw [Option.map_some]
      generalize f .data v = w at form
      cases form <;> rfl

/-- **Finishing a schema commutes with what keeps the form of its data.** -/
theorem mapAt_finish (es : Entries) : mapAt f (finish es) = finish (mapAt f es) := by
  unfold finish
  rw [isNullable_mapAt keeps, mapAt_dropUnsupported]
  split
  next => rw [mapAt_admitNullEnum keeps, mapAt_admitNullType keeps]
  next => rfl

end MapAt

/-! ## §3. Converting twice. -/

theorem convertEntries_eq_mapAt (es : Entries) : convertEntries es = mapAt convertAt es :=
  convertEntries_eq_map es

/-- Finishing a schema and converting those inside it commute. -/
theorem convertEntries_finish (es : Entries) :
    convertEntries (finish es) = finish (convertEntries es) := by
  rw [convertEntries_eq_mapAt, convertEntries_eq_mapAt]
  exact mapAt_finish .same es

theorem convertEntries_convertEntries
    (ih : ∀ e ∈ es, ∀ position,
      convertAt position (convertAt position e.2) = convertAt position e.2) :
    convertEntries (convertEntries es) = convertEntries es := by
  rw [convertEntries_eq_map, convertEntries_eq_map, List.map_map]
  exact List.map_congr_left fun e mem => congrArg (Prod.mk e.1) (ih e mem (positionOf e.1))

/-- **Conversion is idempotent**, at every position. -/
theorem convertAt_convertAt (position : Position) (v : Value) :
    convertAt position (convertAt position v) = convertAt position v := by
  induction v using Value.inductionOnParts generalizing position with
  | step v ih =>
      cases v with
      | @mapping p es =>
          have inside : convertEntries (convertEntries es) = convertEntries es :=
            convertEntries_convertEntries fun e mem => ih e.2 (Value.mem_parts mem)
          have converted : convert (convert (.mapping (p := p) es))
              = convert (.mapping (p := p) es) := by
            rw [convert, convert, convertEntries_finish, inside, finish_finish]
          have named : convertNamed (convertNamed es) = convertNamed es := by
            rw [convertNamed_eq_map, convertNamed_eq_map, List.map_map]
            exact List.map_congr_left fun e mem =>
              congrArg (Prod.mk e.1) (ih e.2 (Value.mem_parts mem) .one)
          cases position with
          | one => exact converted
          | oneOrMany =>
              simp only [convertAt, convert] at converted ⊢
              exact converted
          | named => exact congrArg (Value.mapping (p := none)) named
          | _ => rfl
      | list vs =>
          have items : convertItems (convertItems vs) = convertItems vs := by
            rw [convertItems_eq_map, convertItems_eq_map, List.map_map]
            exact List.map_congr_left fun w mem => ih w mem .one
          cases position with
          | oneOrMany => exact congrArg Value.list items
          | many => exact congrArg Value.list items
          | _ => rfl
      | _ => cases position <;> rfl

theorem convert_convert (v : Value) : convert (convert v) = convert v :=
  convertAt_convertAt .one v

/-- The schemas inside a converted schema are converted. -/
theorem convertEntries_finish_convertEntries (es : Entries) :
    convertEntries (finish (convertEntries es)) = finish (convertEntries es) := by
  rw [convertEntries_finish,
    convertEntries_convertEntries fun e _ position => convertAt_convertAt position e.2]

/-- Stating the dialect leaves nothing to finish. -/
theorem finish_put_dialect (v : Value) (es : Entries) :
    finish (Entries.put "$schema" v (finish es)) = Entries.put "$schema" v (finish es) := by
  refine finish_eq_self fun k mem => ?_
  rcases Entries.mem_keys_insert mem with rfl | old
  · decide
  · exact isUnsupported_of_mem_keys_finish old

/-! ## §4. Settling a schema that has been converted. -/

section Settled

variable {schemas : List Nat}

theorem settleIn_eq_mapAt (es : Entries) :
    settleIn schemas es = mapAt (settleAt schemas) es :=
  settleIn_eq_map es

theorem keepsForm_settleAt : KeepsForm (settleAt schemas .data) where
  form v := by
    cases v with
    | mapping es =>
        simp only [settleAt]
        split
        next =>
          rw [convert]
          exact .mapping _ _
        next => exact .mapping _ _
    | list vs =>
        simp only [settleAt]
        exact .list _ _
    | tuple vs =>
        simp only [settleAt]
        exact .tuple _ _
    | _ =>
        simp only [settleAt]
        exact .same _
  list vs := by simp only [settleAt, settleItems_eq_map]

/-- Is a value at a position settled once it has been settled and converted? -/
abbrev Settles (schemas : List Nat) (position : Position) (v : Value) : Prop :=
  settleAt schemas position (convertAt position (settleAt schemas position v))
    = convertAt position (settleAt schemas position v)

theorem settleIn_finish_convertEntries
    (ih : ∀ e ∈ es, ∀ position, Settles schemas position e.2) :
    settleIn schemas (finish (convertEntries (settleIn schemas es)))
      = finish (convertEntries (settleIn schemas es)) := by
  have inside : settleIn schemas (convertEntries (settleIn schemas es))
      = convertEntries (settleIn schemas es) := by
    rw [settleIn_eq_map es, convertEntries_eq_map, settleIn_eq_map, List.map_map, List.map_map,
      List.map_map]
    exact List.map_congr_left fun e mem => congrArg (Prod.mk e.1) (ih e mem (positionOf e.1))
  rw [settleIn_eq_mapAt, mapAt_finish keepsForm_settleAt, ← settleIn_eq_mapAt, inside]

theorem settles_mapping (ih : ∀ e ∈ es, ∀ position, Settles schemas position e.2)
    (position : Position) : Settles schemas position (.mapping (p := p) es) := by
  have inside := settleIn_finish_convertEntries ih
  have named : settleValues schemas .one (convertNamed (settleValues schemas .one es))
      = convertNamed (settleValues schemas .one es) := by
    rw [settleValues_eq_map .one es, convertNamed_eq_map, settleValues_eq_map, List.map_map,
      List.map_map, List.map_map]
    exact List.map_congr_left fun e mem => congrArg (Prod.mk e.1) (ih e mem .one)
  have data : settleValues schemas .data (settleValues schemas .data es)
      = settleValues schemas .data es := by
    rw [settleValues_eq_map .data es, settleValues_eq_map, List.map_map]
    exact List.map_congr_left fun e mem => congrArg (Prod.mk e.1) (ih e mem .data)
  -- among the data, a mapping that is one of the schemas is converted, and any other one is not
  have finished := convert_convert (.mapping (p := p) (settleIn schemas es))
  simp only [convert] at finished
  cases shared : p.any schemas.contains <;> cases position <;>
    simp [Settles, settleAt, convertAt, convert, shared, inside, named, data, finished]

theorem settles_list {vs : List Value} (ih : ∀ w ∈ vs, ∀ position, Settles schemas position w)
    (position : Position) : Settles schemas position (.list vs) := by
  have schemasIn : settleItems schemas .one (convertItems (settleItems schemas .one vs))
      = convertItems (settleItems schemas .one vs) := by
    rw [settleItems_eq_map .one vs, convertItems_eq_map, settleItems_eq_map, List.map_map,
      List.map_map, List.map_map]
    exact List.map_congr_left fun w mem => ih w mem .one
  have data : settleItems schemas .data (settleItems schemas .data vs)
      = settleItems schemas .data vs := by
    rw [settleItems_eq_map .data vs, settleItems_eq_map, List.map_map]
    exact List.map_congr_left fun w mem => ih w mem .data
  cases position <;> simp only [Settles, settleAt, convertAt, convert, schemasIn, data]

theorem settles_tuple {vs : List Value} (ih : ∀ w ∈ vs, ∀ position, Settles schemas position w)
    (position : Position) : Settles schemas position (.tuple vs) := by
  have data : settleItems schemas .data (settleItems schemas .data vs)
      = settleItems schemas .data vs := by
    rw [settleItems_eq_map .data vs, settleItems_eq_map, List.map_map]
    exact List.map_congr_left fun w mem => ih w mem .data
  cases position <;> simp only [Settles, settleAt, convertAt, convert, data]

/-- **A schema that has been settled and converted is settled**: among its data every mapping that
is one of the schemas has been converted already. -/
theorem settles (position : Position) (v : Value) : Settles schemas position v := by
  induction v using Value.inductionOnParts generalizing position with
  | step v ih =>
      cases v with
      | mapping es => exact settles_mapping (fun e mem => ih e.2 (Value.mem_parts mem)) position
      | list vs => exact settles_list ih position
      | tuple vs => exact settles_tuple ih position
      | _ => cases position <;> simp only [Settles, settleAt, convertAt, convert]

end Settled

/-! ## §5. The numbers of the schemas. -/

section Numbers

variable {schemas : List Nat}

theorem numbersAt_data (v : Value) : numbersAt .data v = [] := by
  cases v <;> simp only [numbersAt]

theorem numbersIn_put (data : positionOf (.str name) = .data) (v : Value) (es : Entries) :
    numbersIn (Entries.put name v es) = numbersIn es := by
  unfold Entries.put
  induction es with
  | nil => simp only [Entries.insert, numbersIn, data, numbersAt_data, List.append_nil]
  | cons e es ih =>
      obtain ⟨k, u⟩ := e
      rw [Entries.insert]
      split
      next same =>
        rw [numbersIn, numbersIn, Value.sameKey_str_iff.mp same, data, numbersAt_data,
          numbersAt_data]
      next => rw [numbersIn, numbersIn, ih]

theorem numbersIn_dropUnsupported (es : Entries) :
    numbersIn (dropUnsupported es) = numbersIn es := by
  have apart : ∀ l ∈ unsupportedKeywords, positionOf (.str l) = .data := by decide
  unfold dropUnsupported
  induction es with
  | nil => rfl
  | cons e es ih =>
      obtain ⟨k, u⟩ := e
      cases unsupported : isUnsupported k with
      | false =>
          rw [List.filter_cons_of_pos (by simp [unsupported]), numbersIn, numbersIn, ih]
      | true =>
          obtain ⟨l, mem, rfl⟩ := isUnsupported_eq_true_iff.mp unsupported
          rw [List.filter_cons_of_neg (by simp [unsupported]), numbersIn, apart l mem,
            numbersAt_data, List.nil_append, ih]

theorem numbersIn_admitNullType (es : Entries) : numbersIn (admitNullType es) = numbersIn es := by
  unfold admitNullType
  split
  next =>
    split
    next => rfl
    next => exact numbersIn_put rfl _ es
  next => rfl
  next => rfl
  next => exact numbersIn_put rfl _ es

theorem numbersIn_admitNullEnum (es : Entries) : numbersIn (admitNullEnum es) = numbersIn es := by
  unfold admitNullEnum
  split
  next =>
    split
    next => rfl
    next => exact numbersIn_put rfl _ es
  next => rfl

theorem numbersIn_finish (es : Entries) : numbersIn (finish es) = numbersIn es := by
  unfold finish
  rw [numbersIn_dropUnsupported]
  split
  next => rw [numbersIn_admitNullEnum, numbersIn_admitNullType]
  next => rfl

/-- Does a value at a position hold the same schemas when it has been settled and converted? -/
abbrev KeepsNumbers (schemas : List Nat) (position : Position) (v : Value) : Prop :=
  numbersAt position (convertAt position (settleAt schemas position v)) = numbersAt position v

theorem keepsNumbers_mapping (ih : ∀ e ∈ es, ∀ position, KeepsNumbers schemas position e.2)
    (position : Position) : KeepsNumbers schemas position (.mapping (p := p) es) := by
  have inside : numbersIn (convertEntries (settleIn schemas es)) = numbersIn es := by
    rw [numbersIn_eq_flatMap, numbersIn_eq_flatMap, convertEntries_eq_map, settleIn_eq_map,
      List.map_map, List.flatMap_map]
    exact List.flatMap_congr fun e mem => ih e mem (positionOf e.1)
  have named : numbersOfNamed (convertNamed (settleValues schemas .one es))
      = numbersOfNamed es := by
    rw [numbersOfNamed_eq_flatMap, numbersOfNamed_eq_flatMap, convertNamed_eq_map,
      settleValues_eq_map, List.map_map, List.flatMap_map]
    exact List.flatMap_congr fun e mem => ih e mem .one
  cases shared : p.any schemas.contains <;> cases position <;>
    simp [KeepsNumbers, settleAt, convertAt, convert, numbersAt, shared, numbersIn_finish, inside,
      named]

theorem keepsNumbers_list {vs : List Value}
    (ih : ∀ w ∈ vs, ∀ position, KeepsNumbers schemas position w) (position : Position) :
    KeepsNumbers schemas position (.list vs) := by
  have inside : numbersOfItems (convertItems (settleItems schemas .one vs))
      = numbersOfItems vs := by
    rw [numbersOfItems_eq_flatMap, numbersOfItems_eq_flatMap, convertItems_eq_map,
      settleItems_eq_map, List.map_map, List.flatMap_map]
    exact List.flatMap_congr fun w mem => ih w mem .one
  cases position <;> simp only [KeepsNumbers, settleAt, convertAt, convert, numbersAt, inside]

/-- **Conversion leaves the schemas what they are.** -/
theorem keepsNumbers (position : Position) (v : Value) : KeepsNumbers schemas position v := by
  induction v using Value.inductionOnParts generalizing position with
  | step v ih =>
      cases v with
      | mapping es =>
          exact keepsNumbers_mapping (fun e mem => ih e.2 (Value.mem_parts mem)) position
      | list vs => exact keepsNumbers_list ih position
      | _ => cases position <;> simp only [KeepsNumbers, settleAt, convertAt, convert, numbersAt]

end Numbers

/-! ## §6. Converting shared schemas twice. -/

/-- A converted schema is settled. -/
theorem settled_convertShared (v : Value) : settled (convertShared v) = convertShared v := by
  have same : numbersAt .one (convertShared v) = numbersAt .one v := keepsNumbers .one v
  rw [settled, same]
  exact settles .one v

theorem convert_convertShared (v : Value) : convert (convertShared v) = convertShared v :=
  convert_convert (settled v)

theorem convertShared_convertShared (v : Value) :
    convertShared (convertShared v) = convertShared v := by
  have converted : convertShared (convertShared v) = convert (convertShared v) :=
    congrArg convert (settled_convertShared v)
  rw [converted, convert_convertShared]

/-- What a name has been stored into is not absent. -/
theorem orElse_put (name : String) (v : Value) (es : Entries) :
    (Value.mapping (p := p) (Entries.put name v es)).orElse (.mapping (p := none) [])
      = .mapping (p := p) (Entries.put name v es) := by
  cases es with
  | nil => rfl
  | cons e es =>
      unfold Entries.put
      rw [Entries.insert]
      split <;> rfl

/-- Stating the dialect leaves nothing to settle … -/
theorem settled_put_dialect (h : settled (.mapping (p := p) es) = .mapping (p := p) es) :
    settled (.mapping (p := p) (Entries.put "$schema" (.str draft) es))
      = .mapping (p := p) (Entries.put "$schema" (.str draft) es) := by
  rw [settled_mapping, Value.mapping.injEq] at h
  have data : positionOf (.str "$schema") = .data := rfl
  have numbers : numbersAt .one (.mapping (p := p) (Entries.put "$schema" (.str draft) es))
      = numbersAt .one (.mapping (p := p) es) := by
    simp only [numbersAt, numbersIn_put data]
  rw [settled_mapping, numbers, settleIn_eq_mapAt, mapAt_put data, ← settleIn_eq_mapAt, h.2,
    keepsForm_settleAt.str_eq]

/-- … and nothing to convert. -/
theorem convert_put_dialect (h : convert (.mapping (p := p) es) = .mapping (p := p) es) :
    convert (.mapping (p := p) (Entries.put "$schema" (.str draft) es))
      = .mapping (p := p) (Entries.put "$schema" (.str draft) es) := by
  rw [convert, Value.mapping.injEq] at h
  have inside : convertEntries es = es := calc
    convertEntries es = convertEntries (finish (convertEntries es)) := by rw [h.2]
    _ = finish (convertEntries es) := convertEntries_finish_convertEntries es
    _ = es := h.2
  have itself : finish es = es := by
    rw [inside] at h
    exact h.2
  have finished := finish_put_dialect (.str draft) es
  rw [itself] at finished
  rw [convert, convertEntries_eq_mapAt, mapAt_put rfl, ← convertEntries_eq_mapAt, inside]
  exact congrArg Value.mapping finished

/-- **CONVERSION IS IDEMPOTENT**: a schema that has been converted can be converted, and this gives
it back; and so it is with every value in the position of a schema. -/
theorem conversion_idempotent :
    (∀ schema converted, ofOpenApi schema = .ok converted → ofOpenApi converted = .ok converted)
      ∧ (∀ v, convertShared (convertShared v) = convertShared v)
      ∧ ∀ v, convert (convert v) = convert v := by
  refine ⟨?_, convertShared_convertShared, convert_convert⟩
  intro schema converted h
  unfold ofOpenApi at h
  split at h
  next p es made =>
    injection h with h
    -- what has been converted is settled and converted, and stating the dialect does not matter
    have still_settled := settled_convertShared (schema.orElse (.mapping (p := none) []))
    have still_converted := convert_convertShared (schema.orElse (.mapping (p := none) []))
    rw [made] at still_settled still_converted
    subst h
    rw [ofOpenApi, orElse_put, convertShared, settled_put_dialect still_settled,
      convert_put_dialect still_converted]
    exact congrArg Except.ok (congrArg Value.mapping (Entries.put_put_self ..))
  next => exact absurd h (by simp)

/-- A schema with types and values that hold null already, in it one that is shared by two
places, and a mark in every place that a mark can have. -/
def markedSchema : Value :=
  let shared : Value := .mapping (p := some 1) [
    (.str "nullable", .bool true), (.str "type", .list [.str "null", .str "integer"]),
    (.str "enum", .list [.int 1, .null])]
  .object [
    ("nullable", .bool true),
    ("type", .str "object"),
    ("enum", .list [.str "nullable", shared]),
    ("properties", .object [("nullable", shared), ("example", .object [("type", .str "null")])]),
    ("items", .list [shared, .bool true]),
    ("example", .int 1)]

theorem conversion_idempotent_marked :
    ∃ converted, ofOpenApi markedSchema = .ok converted
      ∧ Entries.get? "type" converted.entries = some (.list [.str "object", .str "null"])
      ∧ ofOpenApi converted = .ok converted := by
  obtain ⟨converted, made⟩ : ∃ converted, ofOpenApi markedSchema = .ok converted := ⟨_, rfl⟩
  refine ⟨converted, made, ?_, conversion_idempotent.1 _ _ made⟩
  injection made with made
  rw [← made]
  rfl

end Schema

end ApiTools
