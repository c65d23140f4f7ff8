/-
  ApiTools.Proofs.Schema.Structure
  ────────────────────────────────
  **WHAT CONVERSION CHANGES, AND WHERE.**

  The same word is a keyword, the name of a property or data, depending on
  where it stands.  Which it is, is told by the way from the root: a step
  leads from a schema object to a schema that one of its keywords holds
  (`Leads`), and a value stands in the position of a schema if steps lead to
  it (`SchemaAt`).

  Conversion commutes with walking: what stands at a place of the converted
  schema is the conversion of what stood there (`schemaAt_convert`,
  `schemaAt_of_convert`).  So it is enough to say what conversion does to one
  schema object, apart from the schemas that it holds (`Altered`).

  Main result: `structure_of_ofOpenApi`.  A converted schema has the places of
  the schema; the objects there have lost the unsupported keywords and admit
  null where they were marked as nullable; nothing else is different but the
  dialect at the root, unless a schema is data as well.
-/
import ApiTools.Proofs.Schema.Conversion
import ApiTools.Proofs.Value.Keyed

namespace ApiTools

namespace Entries

variable {es : Entries} {key v : Value} {name : String}

/-- Storing under a name leaves the other keys alone. -/
theorem find?_put_of_ne (h : key ≠ .str name) : find? key (put name v es) = find? key es := by
  refine find?_insert_of_not_sameKey (Bool.eq_false_iff.mpr fun same => h ?_) v es
  exact Value.sameKey_str_iff.mp (Value.sameKey_symm same)

theorem keys_filter (p : Value → Bool) (es : Entries) :
    keys (List.filter (fun e => p e.1) es) = es.keys.filter p :=
  List.filter_map.symm

theorem keys_map (f : Value × Value → Value) (es : Entries) :
    keys (es.map fun e => (e.1, f e)) = es.keys :=
  List.map_map

end Entries

namespace Schema

/-! ## §1. Places. -/

/-- The keywords that hold one schema, if their value is a mapping. -/
def oneKeywords : List String := ["items", "additionalProperties", "not"]

/-- The keywords that hold schemas, if their value is a list. -/
def manyKeywords : List String := ["items", "allOf", "anyOf", "oneOf"]

/-- The keywords that hold a schema for each name, if their value is a mapping. -/
def namedKeywords : List String := ["properties", "patternProperties"]

/-- The keywords that may hold schemas. -/
def holderKeywords : List String := oneKeywords ++ manyKeywords ++ namedKeywords

/-- A step from a schema object into one of the schemas that it holds. -/
inductive Step where
  | one (keyword : String)
  | item (keyword : String) (index : Nat)
  | field (keyword : String) (name : Value)

/-- What a step leads to from a schema object. -/
inductive Leads (es : Entries) : Step → Value → Prop
  | one {k : String} {p : Option Nat} {fs : Entries} (holds : k ∈ oneKeywords)
      (found : Entries.get? k es = some (.mapping (p := p) fs)) :
      Leads es (.one k) (.mapping (p := p) fs)
  | item {k : String} {vs : List Value} {i : Nat} {v : Value} (holds : k ∈ manyKeywords)
      (found : Entries.get? k es = some (.list vs)) (at_index : vs[i]? = some v) :
      Leads es (.item k i) v
  | field {k : String} {p : Option Nat} {fs : Entries} {name v : Value}
      (holds : k ∈ namedKeywords) (found : Entries.get? k es = some (.mapping (p := p) fs))
      (at_name : Entries.find? name fs = some v) : Leads es (.field k name) v

/-- The value that stands in the position of a schema, by the steps that lead to it. -/
inductive SchemaAt : Value → List Step → Value → Prop
  | root (s : Value) : SchemaAt s [] s
  | inside {p : Option Nat} {es : Entries} {step : Step} {u : Value} {place : List Step} {v : Value}
      (leads : Leads es step u) (rest : SchemaAt u place v) :
      SchemaAt (.mapping (p := p) es) (step :: place) v

theorem schemaAt_nil_iff {s v : Value} : SchemaAt s [] v ↔ v = s := by
  constructor
  · intro h
    cases h
    rfl
  · rintro rfl
    exact .root v

theorem schemaAt_cons_iff {p : Option Nat} {es : Entries} {step : Step} {place : List Step}
    {v : Value} :
    SchemaAt (.mapping (p := p) es) (step :: place) v
      ↔ ∃ u, Leads es step u ∧ SchemaAt u place v := by
  constructor
  · intro h
    cases h with
    | inside leads rest => exact ⟨_, leads, rest⟩
  · rintro ⟨u, leads, rest⟩
    exact .inside leads rest

/-! ## §2. What becomes of one schema object. -/

/-- The type of a nullable schema and the one that admits null of itself. -/
inductive NullableType : Value → Value → Prop
  | null : NullableType .null .null
  | listed {ts : List Value} (h : .str "null" ∈ ts) : NullableType (.list ts) (.list ts)
  | list {ts : List Value} (h : .str "null" ∉ ts) :
      NullableType (.list ts) (.list (ts ++ [.str "null"]))
  | single {t : Value} (present : t ≠ .null) (no_list : ∀ ts, t ≠ .list ts) :
      NullableType t (.list [t, .str "null"])

/-- The enumeration of a nullable schema and the one that admits null of itself. -/
inductive NullableEnum : Value → Value → Prop
  | listed {vs : List Value} (h : .null ∈ vs) : NullableEnum (.list vs) (.list vs)
  | list {vs : List Value} (h : .null ∉ vs) :
      NullableEnum (.list vs) (.list (vs ++ [.null]))
  | other {v : Value} (no_list : ∀ vs, v ≠ .list vs) : NullableEnum v v

/-- The value of a keyword that holds schemas, before and after, if the schemas do not count. -/
inductive SameHolder (keyword : String) : Value → Value → Prop
  | one {p q : Option Nat} {es fs : Entries} (holds : keyword ∈ oneKeywords) :
      SameHolder keyword (.mapping (p := p) es) (.mapping (p := q) fs)
  | many {vs ws : List Value} (holds : keyword ∈ manyKeywords) (h : ws.length = vs.length) :
      SameHolder keyword (.list vs) (.list ws)
  | named {p q : Option Nat} {es fs : Entries} (holds : keyword ∈ namedKeywords)
      (h : fs.keys = es.keys) : SameHolder keyword (.mapping (p := p) es) (.mapping (p := q) fs)
  | data (v : Value) : SameHolder keyword v v

/-- Is the schema marked as nullable? -/
def Marked (es : Entries) : Prop := Entries.get? "nullable" es = some (.bool true)

/-- What conversion does to a schema object, apart from the schemas that it holds. -/
structure Altered (es fs : Entries) : Prop where
  /-- the unsupported keywords go, and the other keys stay in their order -/
  keys_eq : fs.keys = es.keys.filter fun k => !isUnsupported k
  type_marked : Marked es →
    Option.Rel NullableType (Entries.get? "type" es) (Entries.get? "type" fs)
  enum_marked : Marked es →
    Option.Rel NullableEnum (Entries.get? "enum" es) (Entries.get? "enum" fs)
  unmarked : ¬ Marked es → Entries.get? "type" fs = Entries.get? "type" es
    ∧ Entries.get? "enum" fs = Entries.get? "enum" es
  holders : ∀ k ∈ holderKeywords,
    Option.Rel (SameHolder k) (Entries.get? k es) (Entries.get? k fs)
  /-- all that stands under another key is data and stays as it is -/
  data : ∀ key : Value,
    (∀ k ∈ ["type", "enum"] ++ holderKeywords ++ unsupportedKeywords, key ≠ .str k) →
      Entries.find? key fs = Entries.find? key es

/-- What conversion does to a value in the position of a schema, apart from the schemas in it. -/
inductive AlteredValue : Value → Value → Prop
  | schema {p q : Option Nat} {es fs : Entries} (h : Altered es fs) :
      AlteredValue (.mapping (p := p) es) (.mapping (p := q) fs)
  | other {v : Value} (h : v.isMapping = false) : AlteredValue v v

/-- Are two schemas the same but for what conversion does at the places of schemas? -/
structure AlteredThroughout (s t : Value) : Prop where
  altered : ∀ place v, SchemaAt s place v → ∃ w, SchemaAt t place w ∧ AlteredValue v w
  no_more : ∀ place w, SchemaAt t place w → ∃ v, SchemaAt s place v

/-- Does no schema object have an unsupported keyword? -/
def Supported (s : Value) : Prop :=
  ∀ place p es, SchemaAt s place (.mapping (p := p) es) → ∀ k ∈ unsupportedKeywords,
    Entries.get? k es = none

/-! ## §3. One value rewritten. -/

section Rewritten

variable {es fs : Entries} {key : Value} {name : String} {R : Value → Value → Prop}

/-- The entry under one name is rewritten, and nothing else. -/
structure Rewritten (name : String) (R : Value → Value → Prop) (es fs : Entries) : Prop where
  value : Option.Rel R (Entries.get? name es) (Entries.get? name fs)
  others : ∀ key : Value, key ≠ .str name → Entries.find? key fs = Entries.find? key es
  keys_eq : fs.keys = es.keys

theorem rewritten_self (h : Option.Rel R (Entries.get? name es) (Entries.get? name es)) :
    Rewritten name R es es :=
  ⟨h, fun _ _ => rfl, rfl⟩

theorem rewritten_put {t u : Value} (found : Entries.get? name es = some t) (h : R t u) :
    Rewritten name R es (Entries.put name u es) where
  value := by
    rw [found, Entries.get?_put_self]
    exact .some h
  others := fun _ other => Entries.find?_put_of_ne other
  keys_eq := Entries.keys_insert_of_find? found

theorem rewritten_admitNullType (es : Entries) :
    Rewritten "type" NullableType es (admitNullType es) := by
  unfold admitNullType
  split
  next ts found =>
    split
    next present =>
      obtain ⟨t, mem, null⟩ := List.any_eq_true.mp present
      rw [Value.isText_eq_true_iff] at null
      subst null
      apply rewritten_self
      rw [found]
      exact .some (.listed mem)
    next absent =>
      refine rewritten_put found (.list fun mem => absent ?_)
      exact List.any_eq_true.mpr ⟨_, mem, rfl⟩
  next found =>
    apply rewritten_self
    rw [found]
    exact .some .null
  next found =>
    apply rewritten_self
    rw [found]
    exact .none
  next t no_list present found =>
    refine rewritten_put found (.single ?_ ?_)
    · rintro rfl
      exact present rfl
    · rintro ts rfl
      exact no_list ts rfl

theorem rewritten_admitNullEnum (es : Entries) :
    Rewritten "enum" NullableEnum es (admitNullEnum es) := by
  unfold admitNullEnum
  split
  next vs found =>
    split
    next present =>
      obtain ⟨v, mem, null⟩ := List.any_eq_true.mp present
      rw [Value.isNull_eq_true_iff] at null
      subst null
      apply rewritten_self
      rw [found]
      exact .some (.listed mem)
    next absent =>
      refine rewritten_put found (.list fun mem => absent ?_)
      exact List.any_eq_true.mpr ⟨_, mem, rfl⟩
  next no_list =>
    apply rewritten_self
    cases found : Entries.get? "enum" es with
    | none => exact .none
    | some v => exact .some (.other fun vs same => no_list vs (by rw [found, same]))

end Rewritten

/-! ## §4. One schema object. -/

section Finishing

variable {es : Entries} {key : Value} {k : String}

theorem isNullable_eq_true_iff : isNullable es = true ↔ Marked es := by
  unfold isNullable Marked
  split
  next b found =>
    rw [found]
    cases b <;> simp
  next other =>
    constructor
    · exact fun h => absurd h Bool.false_ne_true
    · exact fun marked => (other true marked).elim

theorem isUnsupported_eq_true_iff :
    isUnsupported key = true ↔ ∃ k ∈ unsupportedKeywords, key = .str k := by
  unfold isUnsupported
  rw [List.any_eq_true]
  exact exists_congr fun k => and_congr_right fun _ => Value.isText_eq_true_iff

theorem find?_dropUnsupported (h : isUnsupported key = false) (es : Entries) :
    Entries.find? key (dropUnsupported es) = Entries.find? key es := by
  refine Entries.find?_filter fun e _ same => ?_
  rw [Bool.not_eq_true', Bool.eq_false_iff]
  intro dropped
  obtain ⟨k, _, name⟩ := isUnsupported_eq_true_iff.mp dropped
  -- the keys that go are texts, and a text shares its slot with itself only
  rw [name] at same
  have key_eq : key = .str k := Value.sameKey_str_iff.mp (Value.sameKey_symm same)
  rw [key_eq, ← name, dropped] at h
  exact absurd h (by simp)

theorem finish_of_marked (marked : Marked es) :
    finish es = dropUnsupported (admitNullEnum (admitNullType es)) := by
  rw [finish, if_pos (isNullable_eq_true_iff.mpr marked)]

theorem finish_of_not_marked (h : ¬ Marked es) : finish es = dropUnsupported es := by
  rw [finish, if_neg fun marked => h (isNullable_eq_true_iff.mp marked)]

theorem keys_dropUnsupported (es : Entries) :
    (dropUnsupported es).keys = es.keys.filter fun k => !isUnsupported k :=
  Entries.keys_filter (fun k => !isUnsupported k) es

theorem keys_finish (es : Entries) :
    (finish es).keys = es.keys.filter fun k => !isUnsupported k := by
  by_cases marked : Marked es
  · rw [finish_of_marked marked, keys_dropUnsupported, (rewritten_admitNullEnum _).keys_eq,
      (rewritten_admitNullType es).keys_eq]
  · rw [finish_of_not_marked marked, keys_dropUnsupported]

/-- Finishing a schema touches its type, its enumeration and the unsupported keywords. -/
theorem find?_finish (type : key ≠ .str "type") (enum : key ≠ .str "enum")
    (supported : isUnsupported key = false) (es : Entries) :
    Entries.find? key (finish es) = Entries.find? key es := by
  by_cases marked : Marked es
  · rw [finish_of_marked marked, find?_dropUnsupported supported,
      (rewritten_admitNullEnum _).others key enum, (rewritten_admitNullType es).others key type]
  · rw [finish_of_not_marked marked, find?_dropUnsupported supported]

/-- Finishing a schema leaves the schemas inside. -/
theorem get?_finish_of_mem (holds : k ∈ holderKeywords) (es : Entries) :
    Entries.get? k (finish es) = Entries.get? k es := by
  have apart : ∀ l ∈ holderKeywords, l ≠ "type" ∧ l ≠ "enum" ∧ isUnsupported (.str l) = false := by
    decide
  obtain ⟨type, enum, supported⟩ := apart k holds
  exact find?_finish (fun same => type (Value.str.inj same))
    (fun same => enum (Value.str.inj same)) supported es

theorem type_finish (marked : Marked es) :
    Option.Rel NullableType (Entries.get? "type" es) (Entries.get? "type" (finish es)) := by
  have kept : Entries.get? "type" (finish es) = Entries.get? "type" (admitNullType es) := by
    rw [finish_of_marked marked]
    exact (find?_dropUnsupported rfl _).trans
      ((rewritten_admitNullEnum _).others _ (by simp))
  rw [kept]
  exact (rewritten_admitNullType es).value

theorem enum_finish (marked : Marked es) :
    Option.Rel NullableEnum (Entries.get? "enum" es) (Entries.get? "enum" (finish es)) := by
  -- the type has been rewritten before, which leaves the enumeration
  have before : Entries.get? "enum" (admitNullType es) = Entries.get? "enum" es :=
    (rewritten_admitNullType es).others _ (by simp)
  have kept : Entries.get? "enum" (finish es)
      = Entries.get? "enum" (admitNullEnum (admitNullType es)) := by
    rw [finish_of_marked marked]
    exact find?_dropUnsupported rfl _
  rw [kept, ← before]
  exact (rewritten_admitNullEnum _).value

end Finishing

/-! ## §5. The schemas inside. -/

section Inside

variable {p : Option Nat} {es fs : Entries} {key v w : Value} {k : String} {position : Position}

theorem convertAt_data (v : Value) : convertAt .data v = v := rfl

/-- The tables of keywords and that of positions agree. -/
theorem convertAt_one (holds : k ∈ oneKeywords) (fs : Entries) :
    convertAt (positionOf (.str k)) (.mapping (p := p) fs) = convert (.mapping (p := p) fs) := by
  simp only [oneKeywords, List.mem_cons, List.not_mem_nil, or_false] at holds
  rcases holds with rfl | rfl | rfl <;> rfl

theorem convertAt_many (holds : k ∈ manyKeywords) (vs : List Value) :
    convertAt (positionOf (.str k)) (.list vs) = .list (vs.map convert) := by
  rw [← convertItems_eq_map]
  simp only [manyKeywords, List.mem_cons, List.not_mem_nil, or_false] at holds
  rcases holds with rfl | rfl | rfl | rfl <;> rfl

theorem convertAt_named (holds : k ∈ namedKeywords) (fs : Entries) :
    convertAt (positionOf (.str k)) (.mapping (p := p) fs)
      = .mapping (p := none) (fs.map fun e => (e.1, convert e.2)) := by
  rw [← convertNamed_eq_map]
  simp only [namedKeywords, List.mem_cons, List.not_mem_nil, or_false] at holds
  rcases holds with rfl | rfl <;> rfl

theorem positionOf_eq_data (h : ∀ k ∈ holderKeywords, key ≠ .str k) :
    positionOf key = .data := by
  unfold positionOf
  split
  case h_9 => rfl
  all_goals exact absurd rfl (h _ (by decide))

/-- Conversion makes mappings of mappings … -/
theorem exists_mapping_of_convertAt (h : convertAt position v = .mapping (p := p) fs) :
    ∃ q es, v = .mapping (p := q) es := by
  cases v with
  | mapping es => exact ⟨_, es, rfl⟩
  | _ => cases position <;> simp [convertAt, convert] at h

/-- … and lists of lists. -/
theorem exists_list_of_convertAt {ws : List Value} (h : convertAt position v = .list ws) :
    ∃ vs, v = .list vs := by
  cases v with
  | list vs => exact ⟨vs, rfl⟩
  | _ => cases position <;> simp [convertAt, convert] at h

/-- Which table a keyword with schemas is in. -/
theorem positionOf_cases (k : String) :
    (positionOf (.str k) = .one ∧ k ∈ oneKeywords)
      ∨ (positionOf (.str k) = .oneOrMany ∧ k ∈ oneKeywords ∧ k ∈ manyKeywords)
      ∨ (positionOf (.str k) = .many ∧ k ∈ manyKeywords)
      ∨ (positionOf (.str k) = .named ∧ k ∈ namedKeywords)
      ∨ positionOf (.str k) = .data := by
  -- the table is read key by key, and each of its keys is a closed text
  generalize key_eq : Value.str k = key
  unfold positionOf
  split
  case h_9 => simp
  all_goals
    obtain rfl := Value.str.inj key_eq
    decide

/-- Conversion keeps what a keyword's value is apart from the schemas in it. -/
theorem sameHolder_convertAt (k : String) (v : Value) :
    SameHolder k v (convertAt (positionOf (.str k)) v) := by
  rcases positionOf_cases k with ⟨p, one⟩ | ⟨p, one, many⟩ | ⟨p, many⟩ | ⟨p, named⟩ | p
  case inl =>
    rw [p]
    cases v with
    | mapping es =>
        rw [convertAt, convert]
        exact .one one
    | _ => exact .data _
  case inr.inl =>
    rw [p]
    cases v with
    | mapping es =>
        rw [convertAt, convert]
        · exact .one one
        · simp
    | list vs =>
        rw [convertAt, convertItems_eq_map]
        exact .many many (List.length_map _)
    | _ => exact .data _
  case inr.inr.inl =>
    rw [p]
    cases v with
    | list vs =>
        rw [convertAt, convertItems_eq_map]
        exact .many many (List.length_map _)
    | _ => exact .data _
  case inr.inr.inr.inl =>
    rw [p]
    cases v with
    | mapping es =>
        rw [convertAt, convertNamed_eq_map]
        exact .named named (Entries.keys_map _ es)
    | _ => exact .data _
  case inr.inr.inr.inr =>
    rw [p]
    exact .data v

theorem keys_convertEntries (es : Entries) : Entries.keys (convertEntries es) = es.keys := by
  rw [convertEntries_eq_map]
  exact Entries.keys_map (fun e => convertAt (positionOf e.1) e.2) es

/-- Data stay as they are. -/
theorem find?_convertEntries (h : ∀ k ∈ holderKeywords, key ≠ .str k) (es : Entries) :
    Entries.find? key (convertEntries es) = Entries.find? key es := by
  rw [convertEntries_eq_map,
    Entries.find?_map (f := fun e => convertAt (positionOf e.1) e.2) (g := id)]
  · exact Option.map_id'
  · intro e _ same
    have data : positionOf e.1 = .data := by
      refine positionOf_eq_data fun k mem name => h k mem ?_
      rw [name] at same
      exact Value.sameKey_str_iff.mp (Value.sameKey_symm same)
    rw [data, convertAt_data]
    rfl

theorem get?_convertEntries_of_not_mem (h : k ∉ holderKeywords) (es : Entries) :
    Entries.get? k (convertEntries es) = Entries.get? k es := by
  refine find?_convertEntries (fun l mem same => h ?_) es
  rw [Value.str.inj same]
  exact mem

theorem marked_convertEntries : Marked (convertEntries es) ↔ Marked es := by
  unfold Marked
  rw [get?_convertEntries_of_not_mem (by decide)]

/-- **What conversion does to one schema object.** -/
theorem altered_convert (es : Entries) : Altered es (finish (convertEntries es)) := by
  constructor
  case keys_eq => rw [keys_finish, keys_convertEntries]
  case type_marked =>
    intro marked
    rw [← get?_convertEntries_of_not_mem (k := "type") (by decide) es]
    exact type_finish (marked_convertEntries.mpr marked)
  case enum_marked =>
    intro marked
    rw [← get?_convertEntries_of_not_mem (k := "enum") (by decide) es]
    exact enum_finish (marked_convertEntries.mpr marked)
  case unmarked =>
    intro unmarked
    -- without a mark keys are dropped only, and neither of the two is
    rw [finish_of_not_marked fun marked => unmarked (marked_convertEntries.mp marked)]
    constructor
    · exact (find?_dropUnsupported rfl _).trans (get?_convertEntries_of_not_mem (by decide) es)
    · exact (find?_dropUnsupported rfl _).trans (get?_convertEntries_of_not_mem (by decide) es)
  case holders =>
    intro k holds
    rw [get?_finish_of_mem holds, get?_convertEntries]
    cases Entries.get? k es with
    | none => exact .none
    | some v => exact .some (sameHolder_convertAt k v)
  case data =>
    intro key other
    have apart : ∀ k ∈ holderKeywords, key ≠ .str k := by
      intro k mem
      exact other k (by simp [mem])
    rw [find?_finish (other "type" (by simp)) (other "enum" (by simp)),
      find?_convertEntries apart]
    rw [Bool.eq_false_iff]
    intro dropped
    obtain ⟨k, mem, name⟩ := isUnsupported_eq_true_iff.mp dropped
    exact other k (by simp [mem]) name

end Inside

/-! ## §6. Conversion commutes with walking. -/

section Walking

variable {es : Entries} {s u v w : Value} {step : Step} {place : List Step} {k : String}

theorem mem_holderKeywords_iff :
    k ∈ holderKeywords ↔ k ∈ oneKeywords ∨ k ∈ manyKeywords ∨ k ∈ namedKeywords := by
  unfold holderKeywords
  rw [List.mem_append, List.mem_append, or_assoc]

theorem get?_finish_convertEntries (holds : k ∈ holderKeywords) (es : Entries) :
    Entries.get? k (finish (convertEntries es))
      = (Entries.get? k es).map (convertAt (positionOf (.str k))) := by
  rw [get?_finish_of_mem holds, get?_convertEntries]

theorem find?_convertNamed (name : Value) (fs : Entries) :
    Entries.find? name (fs.map fun e => (e.1, convert e.2))
      = (Entries.find? name fs).map convert :=
  Entries.find?_map fun _ _ _ => rfl

/-- A step leads to the conversion of what it led to. -/
theorem leads_convert (h : Leads es step u) :
    Leads (finish (convertEntries es)) step (convert u) := by
  cases h with
  | @one k _ fs holds found =>
      have now := get?_finish_convertEntries (mem_holderKeywords_iff.mpr (.inl holds)) es
      rw [found, Option.map_some, convertAt_one holds] at now
      rw [convert] at now ⊢
      exact .one holds now
  | @item k vs i v holds found at_index =>
      have now := get?_finish_convertEntries (mem_holderKeywords_iff.mpr (.inr (.inl holds))) es
      rw [found, Option.map_some, convertAt_many holds] at now
      refine .item holds now ?_
      rw [List.getElem?_map, at_index]
      rfl
  | @field k _ fs name v holds found at_name =>
      have now := get?_finish_convertEntries (mem_holderKeywords_iff.mpr (.inr (.inr holds))) es
      rw [found, Option.map_some, convertAt_named holds] at now
      refine .field holds now ?_
      rw [find?_convertNamed, at_name]
      rfl

/-- A step that leads to something after conversion led to something before. -/
theorem exists_leads_of_convert (h : Leads (finish (convertEntries es)) step w) :
    ∃ u, Leads es step u ∧ w = convert u := by
  cases h with
  | @one k _ gs holds found =>
      rw [get?_finish_convertEntries (mem_holderKeywords_iff.mpr (.inl holds)),
        Option.map_eq_some_iff] at found
      obtain ⟨v, stated, converted⟩ := found
      obtain ⟨p, fs, rfl⟩ := exists_mapping_of_convertAt converted
      rw [convertAt_one holds] at converted
      exact ⟨.mapping (p := p) fs, .one holds stated, converted.symm⟩
  | @item k ws i w holds found at_index =>
      rw [get?_finish_convertEntries (mem_holderKeywords_iff.mpr (.inr (.inl holds))),
        Option.map_eq_some_iff] at found
      obtain ⟨v, stated, converted⟩ := found
      obtain ⟨vs, rfl⟩ := exists_list_of_convertAt converted
      rw [convertAt_many holds, Value.list.injEq] at converted
      rw [← converted, List.getElem?_map, Option.map_eq_some_iff] at at_index
      obtain ⟨u, at_index, rfl⟩ := at_index
      exact ⟨u, .item holds stated at_index, rfl⟩
  | @field k _ gs name w holds found at_name =>
      rw [get?_finish_convertEntries (mem_holderKeywords_iff.mpr (.inr (.inr holds))),
        Option.map_eq_some_iff] at found
      obtain ⟨v, stated, converted⟩ := found
      obtain ⟨_, fs, rfl⟩ := exists_mapping_of_convertAt converted
      rw [convertAt_named holds, Value.mapping.injEq] at converted
      rw [← converted.2, find?_convertNamed, Option.map_eq_some_iff] at at_name
      obtain ⟨u, at_name, rfl⟩ := at_name
      exact ⟨u, .field holds stated at_name, rfl⟩

/-- **What stands at a place is converted.** -/
theorem schemaAt_convert (h : SchemaAt s place v) : SchemaAt (convert s) place (convert v) := by
  -- on the way from the root: every schema object on it is finished, and `finish` leaves the steps
  induction h with
  | root s => exact .root _
  | inside leads _ ih =>
      rw [convert]
      exact .inside (leads_convert leads) ih

/-- **A converted schema has no other places than the schema.** -/
theorem exists_schemaAt_of_convert (h : SchemaAt (convert s) place w) :
    ∃ v, SchemaAt s place v ∧ w = convert v := by
  induction place generalizing s with
  | nil =>
      rw [schemaAt_nil_iff] at h
      exact ⟨s, .root s, h⟩
  | cons step place ih =>
      cases s with
      | mapping es =>
          rw [convert, schemaAt_cons_iff] at h
          obtain ⟨_, leads, rest⟩ := h
          obtain ⟨u, led, rfl⟩ := exists_leads_of_convert leads
          obtain ⟨v, stood, rfl⟩ := ih rest
          exact ⟨v, .inside led stood, rfl⟩
      | _ =>
          -- only schema objects hold schemas
          simp only [convert] at h
          cases h

theorem alteredValue_convert (v : Value) : AlteredValue v (convert v) := by
  cases v with
  | mapping es =>
      rw [convert]
      exact .schema (altered_convert es)
  | _ => exact .other rfl

/-- What number a schema object has does not matter. -/
theorem alteredThroughout_convert (p q : Option Nat) (es : Entries) :
    AlteredThroughout (.mapping (p := p) es) (.mapping (p := q) (finish (convertEntries es))) := by
  constructor
  case altered =>
    intro place v stands
    cases stands with
    | root => exact ⟨_, .root _, .schema (altered_convert es)⟩
    | inside leads rest =>
        exact ⟨_, .inside (leads_convert leads) (schemaAt_convert rest), alteredValue_convert v⟩
  case no_more =>
    intro place w stands
    cases stands with
    | root => exact ⟨_, .root _⟩
    | inside leads rest =>
        obtain ⟨u, led, rfl⟩ := exists_leads_of_convert leads
        obtain ⟨v, stood, _⟩ := exists_schemaAt_of_convert rest
        exact ⟨v, .inside led stood⟩

theorem get?_eq_none_of_unsupported (mem : k ∈ unsupportedKeywords) (es : Entries) :
    Entries.get? k (finish es) = none := by
  cases found : Entries.get? k (finish es) with
  | none => rfl
  | some v =>
      have key : Value.str k ∈ (finish es).keys :=
        List.mem_map_of_mem (Entries.mem_of_get? found)
      rw [keys_finish, List.mem_filter, Bool.not_eq_true'] at key
      rw [isUnsupported_eq_true_iff.mpr ⟨k, mem, rfl⟩] at key
      exact absurd key.2 (by simp)

theorem supported_convert (s : Value) : Supported (convert s) := by
  intro place p es stands k mem
  obtain ⟨v, _, converted⟩ := exists_schemaAt_of_convert stands
  cases v with
  | mapping fs =>
      rw [convert, Value.mapping.injEq] at converted
      rw [converted.2]
      exact get?_eq_none_of_unsupported mem _
  | _ => exact absurd converted (by simp [convert])

/-! ## §7. The root. -/

/-- The dialect is no place of a schema. -/
theorem leads_put_dialect (h : Leads (Entries.put "$schema" w es) step u) : Leads es step u := by
  have kept : ∀ {k}, k ∈ holderKeywords →
      Entries.get? k (Entries.put "$schema" w es) = Entries.get? k es := by
    intro k holds
    refine Entries.get?_put_of_ne ?_
    rintro rfl
    exact absurd holds (by decide)
  cases h with
  | one holds found =>
      rw [kept (mem_holderKeywords_iff.mpr (.inl holds))] at found
      exact .one holds found
  | item holds found at_index =>
      rw [kept (mem_holderKeywords_iff.mpr (.inr (.inl holds)))] at found
      exact .item holds found at_index
  | field holds found at_name =>
      rw [kept (mem_holderKeywords_iff.mpr (.inr (.inr holds)))] at found
      exact .field holds found at_name

theorem supported_put_dialect {p : Option Nat} (h : Supported (.mapping (p := p) es)) :
    Supported (.mapping (p := p) (Entries.put "$schema" w es)) := by
  intro place q fs stands k mem
  cases stands with
  | root =>
      rw [Entries.get?_put_of_ne]
      · exact h [] _ es (.root _) k mem
      · rintro rfl
        exact absurd mem (by decide)
  | inside leads rest => exact h _ _ fs (.inside (leads_put_dialect leads) rest) k mem

end Walking

/-- **THE STRUCTURE OF A CONVERTED SCHEMA**: at its root it states the dialect, and no schema object
in it has an unsupported keyword.  If no mapping of the schema is a schema at one place and
something else at another, then nothing else is different but what conversion does at the places of
schemas: the unsupported keywords go, and null is let into the type and the enumeration. -/
theorem structure_of_ofOpenApi (p : Option Nat) (es : Entries) :
    ∃ q fs, ofOpenApi (.mapping (p := p) es)
        = .ok (.mapping (p := q) (Entries.put "$schema" (.str draft) fs))
      ∧ Supported (.mapping (p := q) (Entries.put "$schema" (.str draft) fs))
      ∧ (Apart (.mapping (p := p) es) →
        AlteredThroughout (.mapping (p := p) es) (.mapping (p := q) fs)) := by
  obtain ⟨q, stated⟩ := exists_orElse_mapping p es
  have whole : settled ((Value.mapping (p := p) es).orElse (.mapping (p := none) []))
      = .mapping (p := q) (settleIn (numbersAt .one (.mapping (p := q) es)) es) := by
    rw [stated, settled_mapping]
  refine ⟨q, _, ofOpenApi_of_settled whole, supported_put_dialect ?_, fun apart => ?_⟩
  · have converted := supported_convert (settled (.mapping (p := q) es))
    rwa [settled_mapping, convert] at converted
  · have unchanged : settleIn (numbersAt .one (.mapping (p := q) es)) es = es := by
      have itself := whole.symm.trans (apart.orElse.settled_eq.trans stated)
      exact (Value.mapping.inj itself).2
    rw [unchanged]
    exact alteredThroughout_convert p q es

/-- The schema with one schema at two places. -/
theorem structure_of_ofOpenApi_twice :
    Apart twiceSchema ∧ ∃ q fs, ofOpenApi twiceSchema
        = .ok (.mapping (p := q) (Entries.put "$schema" (.str draft) fs))
      ∧ Supported (.mapping (p := q) (Entries.put "$schema" (.str draft) fs))
      ∧ AlteredThroughout twiceSchema (.mapping (p := q) fs) := by
  have apart : Apart twiceSchema := by decide
  obtain ⟨q, fs, made, supported, altered⟩ := structure_of_ofOpenApi none twiceSchema.entries
  exact ⟨apart, q, fs, made, supported, altered apart⟩

/-- A schema with one of its schemas for a default. -/
def defaultSchema : Value :=
  .object [("default", nullableText), ("properties", .object [("name", nullableText)])]

/-- If one of the schemas is data as well, the data change. -/
theorem not_structure_of_ofOpenApi_default :
    ¬ ∃ q fs, ofOpenApi defaultSchema
        = .ok (.mapping (p := q) (Entries.put "$schema" (.str draft) fs))
      ∧ AlteredThroughout defaultSchema (.mapping (p := q) fs) := by
  rintro ⟨q, fs, made, altered⟩
  have now : (ofOpenApi defaultSchema).map (Value.get? "default")
      = .ok (some (.mapping (p := some 1) [
        (.str "type", .list [.str "string", .str "null"])])) := rfl
  obtain ⟨w, stands, value⟩ := altered.altered [] defaultSchema (.root _)
  obtain rfl := schemaAt_nil_iff.mp stands
  cases value with
  | schema root =>
      -- the default is neither a keyword with schemas nor one that goes
      have kept : Entries.find? (.str "default") fs = some nullableText :=
        root.data (.str "default") (by simp [holderKeywords, oneKeywords, manyKeywords,
          namedKeywords, unsupportedKeywords])
      rw [made, map_ok] at now
      have stored : Value.get? "default" (.mapping (p := q) (Entries.put "$schema" (.str draft) fs))
          = some nullableText := (Entries.get?_put_of_ne (by decide)).trans kept
      rw [stored] at now
      exact absurd now (by simp [nullableText])
  | other no_schema => exact absurd no_schema (by decide)

/-- A word as a keyword, as the name of a property and in data. -/
example :
    ofOpenApi (.object [
        ("example", .str "x"),
        ("properties", .object [("example", .object [("example", .str "x")])]),
        ("default", .object [("example", .str "x")])])
      = .ok (.object [
        ("properties", .object [("example", .object [])]),
        ("default", .object [("example", .str "x")]),
        ("$schema", .str draft)]) := by rfl

end Schema

end ApiTools
