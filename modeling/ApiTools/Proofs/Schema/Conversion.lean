/-
  ApiTools.Proofs.Schema.Conversion
  ─────────────────────────────────
  **CONVERSION KEEPS THE MEANING OF SCHEMAS.**

  A converted schema admits as a JSON schema what the schema admits as an
  OpenAPI schema.  There are two halves.  The schemas inside a schema are
  converted first, which leaves its keywords as they were: each keyword says
  in one reading what it said in the other (`keywords_convertEntries`).  Then
  `finish` writes into `type` and `enum` what `nullable` says and removes it
  (`hold_finish`).

  Main results: `admits_convert`, for every value in a schema position, and
  `admits_ofOpenApi`, for a schema object whose schemas stand nowhere else
  (`Apart`).  Without that the meaning may change (`not_admits_ofOpenApi_listed`).
-/
import ApiTools.Proofs.Schema.Sharing
import ApiTools.Proofs.Schema.Validity
import ApiTools.Proofs.Value.Entries
import ApiTools.Proofs.Value.Hereditary

namespace ApiTools.Schema

/-! ## §1. Null beside types and enumerations. -/

theorem same_null (v : Value) : same .null v = v.isNull := by
  cases v <;> simp [same, Value.isNull, Value.sameKey, Value.sameAtom, Value.keyInt?]

theorem isOfType_null (v : Value) : isOfType (.str "null") v = v.isNull := by
  cases v <;> simp [isOfType, hasType, Value.isNull]

/-- A test that null passes already does not change if null is let in. -/
theorem any_or_isNull {p : Value → Value → Bool} {xs : List Value} {x v : Value} (hx : x ∈ xs)
    (h : p x v = v.isNull) : (xs.any (p · v) || v.isNull) = xs.any (p · v) := by
  cases null : v.isNull with
  | false => exact Bool.or_false _
  | true =>
      rw [Bool.or_true]
      exact (List.any_eq_true.mpr ⟨x, hx, h.trans null⟩).symm

/-- Types with null among them admit null of themselves. -/
theorem typeHolds_of_null_mem {ts : List Value} (h : Value.str "null" ∈ ts) (v : Value) :
    typeHolds false (some (.list ts)) v = typeHolds true (some (.list ts)) v := by
  rw [typeHolds, typeHolds, Bool.false_and, Bool.true_and, Bool.or_false]
  exact (any_or_isNull h (isOfType_null v)).symm

/-- Null at the end of a list of types. -/
theorem typeHolds_append_null (ts : List Value) (v : Value) :
    typeHolds false (some (.list (ts ++ [.str "null"]))) v
      = typeHolds true (some (.list ts)) v := by
  rw [typeHolds, typeHolds, Bool.false_and, Bool.true_and, Bool.or_false, isOfTypes, isOfTypes,
    List.any_append, List.any_cons, List.any_nil, Bool.or_false, isOfType_null]

/-- Null beside a single type. -/
theorem typeHolds_pair_null {t : Value} (single : ∀ ts, t ≠ .list ts) (v : Value) :
    typeHolds false (some (.list [t, .str "null"])) v = typeHolds true (some t) v := by
  have alone : isOfTypes t v = isOfType t v := by
    cases t with
    | list ts => exact absurd rfl (single ts)
    | _ => rfl
  rw [typeHolds, typeHolds, Bool.false_and, Bool.true_and, Bool.or_false, alone, isOfTypes,
    List.any_cons, List.any_cons, List.any_nil, Bool.or_false, isOfType_null]

/-- A list with null in it admits null of itself. -/
theorem enumHolds_of_null_mem {ws : List Value} (h : Value.null ∈ ws) (v : Value) :
    enumHolds false (some ws) v = enumHolds true (some ws) v := by
  rw [enumHolds, enumHolds, Bool.false_and, Bool.true_and, Bool.or_false]
  exact (any_or_isNull h (same_null v)).symm

/-- Null at the end of an enumeration. -/
theorem enumHolds_append_null (ws : List Value) (v : Value) :
    enumHolds false (some (ws ++ [.null])) v = enumHolds true (some ws) v := by
  rw [enumHolds, enumHolds, Bool.false_and, Bool.true_and, Bool.or_false, List.any_append,
    List.any_cons, List.any_nil, Bool.or_false, same_null]

/-! ## §2. Keywords of changed schemas. -/

section Changed

variable (r : Reading) (matching : String → String → Bool) (es : Entries)

theorem readPart_put_of_ne {α : Type} {name other : String} (read : Part → Option α) (v : Value)
    (h : name ≠ other) :
    readPart name read (r.parts matching (Entries.put other v es))
      = readPart name read (r.parts matching es) := by
  rw [readPart_parts, readPart_parts, Entries.get?_put_of_ne h]

theorem readPart_put_self {α : Type} {name : String} (read : Part → Option α) (v : Value) :
    readPart name read (r.parts matching (Entries.put name v es)) = read (r.part matching v) := by
  rw [readPart_parts, Entries.get?_put_self]
  rfl

/-- A new type changes no other keyword. -/
theorem keywords_put_type (t : Value) :
    r.keywords matching (Entries.put "type" t es)
      = { r.keywords matching es with type := if t.isNull then none else some t } := by
  simp only [Reading.keywords, keywordsOf, readPart_put_self, readPart_put_of_ne, ne_eq,
    String.reduceEq, not_false_eq_true]
  rfl

/-- A new enumeration changes no other keyword. -/
theorem keywords_put_enum (vs : List Value) :
    r.keywords matching (Entries.put "enum" (.list vs) es)
      = { r.keywords matching es with enum := some vs } := by
  simp only [Reading.keywords, keywordsOf, readPart_put_self, readPart_put_of_ne, ne_eq,
    String.reduceEq, not_false_eq_true]
  rfl

/-- The dialect constrains nothing. -/
theorem keywords_put_dialect (v : Value) :
    r.keywords matching (Entries.put "$schema" v es) = r.keywords matching es := by
  simp only [Reading.keywords, keywordsOf, readPart_put_of_ne, ne_eq, String.reduceEq,
    not_false_eq_true]

theorem readPart_dropUnsupported {α : Type} {name : String} (read : Part → Option α)
    (h : isUnsupported (.str name) = false) :
    readPart name read (r.parts matching (dropUnsupported es))
      = readPart name read (r.parts matching es) := by
  rw [readPart_parts, readPart_parts, dropUnsupported, Entries.get?_filter]
  intro v
  rw [h]
  rfl

/-- Of the keywords that constrain values only the mark of nullable schemas goes. -/
theorem keywords_dropUnsupported :
    r.keywords matching (dropUnsupported es)
      = { r.keywords matching es with nullable := false } := by
  have gone : Entries.get? "nullable" (dropUnsupported es) = none :=
    Entries.get?_filter_eq_none fun _ => rfl
  have mark : readPart "nullable" Part.truth (r.parts matching (dropUnsupported es)) = none := by
    rw [readPart_parts, gone]
    rfl
  simp (disch := decide) only [Reading.keywords, keywordsOf, mark, readPart_dropUnsupported]
  rfl

/-! ## §3. Nullable schemas. -/

theorem nullable_keywords : (r.keywords matching es).nullable = isNullable es := by
  show (readPart "nullable" Part.truth (r.parts matching es)).getD false = isNullable es
  rw [readPart_parts, isNullable]
  cases Entries.get? "nullable" es with
  | none => rfl
  | some v => cases v <;> rfl

theorem type_keywords :
    (r.keywords matching es).type
      = (Entries.get? "type" es).bind fun t => if t.isNull then none else some t :=
  readPart_parts r matching "type" Part.types es

theorem enum_keywords :
    (r.keywords matching es).enum
      = (Entries.get? "enum" es).bind fun v => (r.part matching v).elements :=
  readPart_parts r matching "enum" Part.elements es

/-- Letting null into the type changes the type only, and the new one says of itself what the old
one says of a nullable schema. -/
theorem keywords_admitNullType :
    ∃ types,
      r.keywords matching (admitNullType es) = { r.keywords matching es with type := types }
        ∧ ∀ v, typeHolds false types v = typeHolds true (r.keywords matching es).type v := by
  have old := type_keywords r matching es
  unfold admitNullType
  split
  next ts found =>
    have stated : (r.keywords matching es).type = some (.list ts) := by
      rw [old, found]
      rfl
    rw [stated]
    split
    next present =>
      -- the list names null already
      obtain ⟨t, mem, null⟩ := List.any_eq_true.mp present
      rw [Value.isText_eq_true_iff] at null
      subst null
      exact ⟨_, by rw [← stated], typeHolds_of_null_mem mem⟩
    next => exact ⟨_, keywords_put_type r matching es _, typeHolds_append_null ts⟩
  next found =>
    rw [found] at old
    exact ⟨(r.keywords matching es).type, rfl, fun v => by rw [old]; rfl⟩
  next found =>
    rw [found] at old
    exact ⟨(r.keywords matching es).type, rfl, fun v => by rw [old]; rfl⟩
  next t single present found =>
    have stated : (r.keywords matching es).type = some t := by
      rw [old, found]
      cases t with
      | null => exact absurd rfl present
      | _ => rfl
    rw [stated]
    refine ⟨_, keywords_put_type r matching es _, typeHolds_pair_null ?_⟩
    intro ts list
    exact single ts (by rw [list])

/-- Letting null into the enumeration changes the enumeration only, and the new one says of itself
what the old one says of a nullable schema. -/
theorem keywords_admitNullEnum :
    ∃ listed,
      r.keywords matching (admitNullEnum es) = { r.keywords matching es with enum := listed }
        ∧ ∀ v, enumHolds false listed v = enumHolds true (r.keywords matching es).enum v := by
  have old := enum_keywords r matching es
  unfold admitNullEnum
  split
  next ws found =>
    have stated : (r.keywords matching es).enum = some ws := by
      rw [old, found]
      rfl
    rw [stated]
    split
    next present =>
      -- null is listed already
      obtain ⟨w, mem, null⟩ := List.any_eq_true.mp present
      rw [Value.isNull_eq_true_iff] at null
      subst null
      exact ⟨_, by rw [← stated], enumHolds_of_null_mem mem⟩
    next => exact ⟨_, keywords_put_enum r matching es _, enumHolds_append_null ws⟩
  next unlisted =>
    have stated : (r.keywords matching es).enum = none := by
      rw [old]
      cases found : Entries.get? "enum" es with
      | none => rfl
      | some w =>
          cases w with
          | list ws => exact absurd found (unlisted ws)
          | _ => rfl
    rw [stated]
    exact ⟨none, by rw [← stated], fun _ => rfl⟩

/-- What a finished schema says without a mark is what the schema said with it. -/
theorem hold_finish (v : Value) :
    (r.keywords matching (finish es)).hold false matching v
      = (r.keywords matching es).hold (r.keywords matching es).nullable matching v := by
  rw [nullable_keywords, finish, keywords_dropUnsupported]
  cases isNullable es with
  | false => rfl
  | true =>
      obtain ⟨types, new_type, type_holds⟩ := keywords_admitNullType r matching es
      obtain ⟨listed, new_enum, enum_holds⟩ := keywords_admitNullEnum r matching (admitNullType es)
      rw [new_type] at enum_holds
      rw [if_pos rfl, new_enum, new_type]
      -- only the first two tests read what has changed
      unfold Keywords.hold
      rw [type_holds, enum_holds]
      rfl

end Changed

/-! ## §4. Keywords after the schemas inside are converted. -/

/-- Converts the schemas inside a value that stands at a position. -/
def convertAt (position : Position) (v : Value) : Value :=
  match position, v with
  | .one, v => convert v
  | .oneOrMany, .list vs => .list (convertItems vs)
  | .oneOrMany, v => convert v
  | .many, .list vs => .list (convertItems vs)
  | .named, .mapping fs => .mapping (p := none) (convertNamed fs)
  | _, v => v

theorem convertEntries_eq_map (es : Entries) :
    convertEntries es = es.map fun e => (e.1, convertAt (positionOf e.1) e.2) := by
  induction es with
  | nil => rw [convertEntries, List.map_nil]
  | cons e es ih =>
      rw [List.map_cons, ← ih]
      conv => lhs; unfold convertEntries
      rfl

theorem convertItems_eq_map (vs : List Value) : convertItems vs = vs.map convert := by
  induction vs with
  | nil => rw [convertItems, List.map_nil]
  | cons v vs ih => rw [convertItems, ih, List.map_cons]

theorem convertNamed_eq_map (es : Entries) :
    convertNamed es = es.map fun e => (e.1, convert e.2) := by
  induction es with
  | nil => rw [convertNamed, List.map_nil]
  | cons e es ih => rw [convertNamed, ih, List.map_cons]

theorem get?_convertEntries (name : String) (es : Entries) :
    Entries.get? name (convertEntries es)
      = (Entries.get? name es).map (convertAt (positionOf (.str name))) := by
  rw [convertEntries_eq_map]
  exact Entries.get?_map fun key v => convertAt (positionOf key) v

section Inside

variable {matching : String → String → Bool} {es : Entries}

/-- A keyword says after the conversion what it said before if conversion keeps what its value
says. -/
theorem readPart_convertEntries {α : Type} {name : String} {read : Part → Option α}
    (keeps : ∀ v, Entries.get? name es = some v →
      read (Reading.jsonSchema.part matching (convertAt (positionOf (.str name)) v))
        = read (Reading.openApi.part matching v)) :
    readPart name read (Reading.jsonSchema.parts matching (convertEntries es))
      = readPart name read (Reading.openApi.parts matching es) := by
  rw [readPart_parts, readPart_parts, get?_convertEntries]
  cases found : Entries.get? name es with
  | none => rfl
  | some v => exact keeps v found

/-! ## §5. The schemas inside. -/

/-- Does the conversion of a value keep what it admits as a schema? -/
abbrev Kept (matching : String → String → Bool) (v : Value) : Prop :=
  Reading.jsonSchema.admits matching (convert v) = Reading.openApi.admits matching v

theorem manyOf_convertItems {vs : List Value} (kept : ∀ v ∈ vs, Kept matching v) :
    Reading.jsonSchema.manyOf matching (convertItems vs) = Reading.openApi.manyOf matching vs := by
  rw [convertItems_eq_map, manyOf_eq_map, manyOf_eq_map, List.map_map]
  exact List.map_congr_left kept

theorem namedOf_convertNamed {fs : Entries} (kept : ∀ f ∈ fs, Kept matching f.2) :
    Reading.jsonSchema.namedOf matching (convertNamed fs)
      = Reading.openApi.namedOf matching fs := by
  rw [convertNamed_eq_map, namedOf_eq_map, namedOf_eq_map, List.map_map]
  refine List.map_congr_left fun f hf => ?_
  show (f.1, _) = (f.1, _)
  rw [kept f hf]

/-- Are the schemas inside a value kept, in whatever way it is read? -/
structure KeptInside (matching : String → String → Bool) (v : Value) : Prop where
  one : Kept matching v
  many : ∀ vs, v = .list vs → ∀ w ∈ vs, Kept matching w
  named : ∀ p fs, v = .mapping (p := p) fs → ∀ f ∈ fs, Kept matching f.2

section Positions

variable {v : Value}

theorem asMany_convertAt_many (h : KeptInside matching v) :
    Reading.jsonSchema.asMany matching (convertAt .many v) = Reading.openApi.asMany matching v := by
  cases v with
  | list vs =>
      show some (Reading.jsonSchema.manyOf matching (convertItems vs)) = _
      rw [manyOf_convertItems (h.many vs rfl), Reading.asMany]
  | _ => rfl

theorem asNamed_convertAt_named (h : KeptInside matching v) :
    Reading.jsonSchema.asNamed matching (convertAt .named v)
      = Reading.openApi.asNamed matching v := by
  cases v with
  | mapping fs =>
      show some (Reading.jsonSchema.namedOf matching (convertNamed fs)) = _
      rw [namedOf_convertNamed (h.named _ fs rfl), Reading.asNamed]
  | _ => rfl

theorem items_convertAt_oneOrMany (h : KeptInside matching v) :
    (Reading.jsonSchema.part matching (convertAt .oneOrMany v)).items
      = (Reading.openApi.part matching v).items := by
  cases v with
  | list vs =>
      show some (Items.each (Reading.jsonSchema.manyOf matching (convertItems vs)))
        = some (Items.each (Reading.openApi.manyOf matching vs))
      rw [manyOf_convertItems (h.many vs rfl)]
  | @mapping p es =>
      have still_one : (Reading.jsonSchema.part matching (convert (.mapping (p := p) es))).items
          = some (Items.all
            (Reading.jsonSchema.admits matching (convert (.mapping (p := p) es)))) := by
        rw [convert]
        rfl
      show (Reading.jsonSchema.part matching (convert (.mapping (p := p) es))).items
        = some (Items.all (Reading.openApi.admits matching (.mapping (p := p) es)))
      rw [still_one, h.one]
  | _ => exact congrArg (fun c => some (Items.all c)) h.one

end Positions

section Keywords

variable (kept : ∀ name v, Entries.get? name es = some v → KeptInside matching v) (name : String)

include kept

/-- A keyword with one schema. -/
theorem readPart_check (position : positionOf (.str name) = .one) :
    readPart name Part.check (Reading.jsonSchema.parts matching (convertEntries es))
      = readPart name Part.check (Reading.openApi.parts matching es) := by
  refine readPart_convertEntries fun v found => ?_
  rw [position]
  exact congrArg some (kept name v found).one

/-- A keyword with a list of schemas. -/
theorem readPart_many (position : positionOf (.str name) = .many) :
    readPart name Part.many (Reading.jsonSchema.parts matching (convertEntries es))
      = readPart name Part.many (Reading.openApi.parts matching es) := by
  refine readPart_convertEntries fun v found => ?_
  rw [position]
  exact asMany_convertAt_many (kept name v found)

/-- A keyword with named schemas. -/
theorem readPart_named (position : positionOf (.str name) = .named) :
    readPart name Part.named (Reading.jsonSchema.parts matching (convertEntries es))
      = readPart name Part.named (Reading.openApi.parts matching es) := by
  refine readPart_convertEntries fun v found => ?_
  rw [position]
  exact asNamed_convertAt_named (kept name v found)

/-- The keyword with one schema or a list of them. -/
theorem readPart_items (position : positionOf (.str name) = .oneOrMany) :
    readPart name Part.items (Reading.jsonSchema.parts matching (convertEntries es))
      = readPart name Part.items (Reading.openApi.parts matching es) := by
  refine readPart_convertEntries fun v found => ?_
  rw [position]
  exact items_convertAt_oneOrMany (kept name v found)

omit kept in
/-- A keyword without schemas. -/
theorem readPart_data {α : Type} {read : Part → Option α}
    (position : positionOf (.str name) = .data)
    (raw : ∀ p q : Part, p.data = q.data → read p = read q) :
    readPart name read (Reading.jsonSchema.parts matching (convertEntries es))
      = readPart name read (Reading.openApi.parts matching es) := by
  refine readPart_convertEntries fun v _ => ?_
  rw [position]
  exact raw _ _ rfl

/-- The keywords of a schema say the same after the schemas inside are converted. -/
theorem keywords_convertEntries :
    Reading.jsonSchema.keywords matching (convertEntries es)
      = Reading.openApi.keywords matching es := by
  have types : ∀ p q : Part, p.data = q.data → p.types = q.types := by
    intro p q same
    rw [Part.types, Part.types, same]
  have elements : ∀ p q : Part, p.data = q.data → p.elements = q.elements := by
    intro p q same
    rw [Part.elements, Part.elements, same]
  have truth : ∀ p q : Part, p.data = q.data → p.truth = q.truth := by
    intro p q same
    rw [Part.truth, Part.truth, same]
  unfold Reading.keywords keywordsOf
  rw [readPart_data "type" rfl types, readPart_data "enum" rfl elements,
    readPart_data "nullable" rfl truth, readPart_data "required" rfl elements,
    readPart_items kept "items" rfl, readPart_named kept "properties" rfl,
    readPart_named kept "patternProperties" rfl, readPart_check kept "additionalProperties" rfl,
    readPart_check kept "not" rfl, readPart_many kept "allOf" rfl, readPart_many kept "anyOf" rfl,
    readPart_many kept "oneOf" rfl]

end Keywords

end Inside

/-! ## §6. All schemas. -/

/-- A mapping that is converted says of itself what its converted schemas inside leave it to say. -/
theorem admits_convert_mapping {matching : String → String → Bool} {p : Option Nat} {es : Entries}
    (kept : ∀ name v, Entries.get? name es = some v → KeptInside matching v) :
    Kept matching (.mapping (p := p) es) := by
  funext v
  -- first the mark is taken away, then the schemas inside are read as before
  calc Reading.jsonSchema.admits matching (convert (.mapping (p := p) es)) v
      = (Reading.jsonSchema.keywords matching (finish (convertEntries es))).hold false matching
          v := by
        rw [convert, admits_mapping]
        rfl
    _ = (Reading.openApi.keywords matching es).hold
          (Reading.openApi.keywords matching es).nullable matching v := by
        rw [hold_finish, keywords_convertEntries kept]
    _ = Reading.openApi.admits matching (.mapping (p := p) es) v := by
        rw [admits_mapping]
        rfl

/-- A value keeps what it admits, and so do its items and the values of its entries. -/
theorem keptInside (matching : String → String → Bool) (s : Value) : KeptInside matching s := by
  induction s using Value.inductionOnParts with
  | step s ih =>
      cases s with
      | @mapping p es =>
          have inner : ∀ e ∈ es, KeptInside matching e.2 :=
            fun e mem => ih e.2 (Value.mem_parts mem)
          constructor
          case one =>
            exact admits_convert_mapping fun name v found => inner _ (Entries.mem_of_get? found)
          case many => exact fun vs same => absurd same nofun
          case named =>
            rintro q fs ⟨⟩ f hf
            exact (inner f hf).one
      | list vs =>
          constructor
          case one => rfl
          case many =>
            rintro ws ⟨⟩ w hw
            exact (ih w hw).one
          case named => exact fun q fs same => absurd same nofun
      | _ => exact ⟨rfl, fun _ same => absurd same nofun, fun _ _ same => absurd same nofun⟩

/-- **CONVERSION KEEPS THE MEANING** of every value in the position of a schema. -/
theorem admits_convert (matching : String → String → Bool) (s : Value) : Kept matching s :=
  (keptInside matching s).one

/-! ## §7. Schema objects. -/

section Objects

variable {p : Option Nat} {es : Entries}

/-- A schema object is converted as it is; only an empty one is a new one. -/
theorem exists_orElse_mapping (p : Option Nat) (es : Entries) :
    ∃ q, (Value.mapping (p := p) es).orElse (.mapping (p := none) []) = .mapping (p := q) es := by
  cases es with
  | nil => exact ⟨none, rfl⟩
  | cons e es => exact ⟨p, rfl⟩

/-- The JSON schema of a settled schema object. -/
theorem ofOpenApi_of_settled {schema : Value} {fs : Entries}
    (h : settled (schema.orElse (.mapping (p := none) [])) = .mapping (p := p) fs) :
    ofOpenApi schema
      = .ok (.mapping (p := p)
        (Entries.put "$schema" (.str draft) (finish (convertEntries fs)))) := by
  rw [ofOpenApi, convertShared, h, convert]

/-- What is converted is a mapping, the empty one in the place of an absent schema. -/
theorem exists_settled_of_ofOpenApi {schema converted : Value}
    (h : ofOpenApi schema = .ok converted) :
    ∃ p es, schema.orElse (.mapping (p := none) []) = .mapping (p := p) es
      ∧ ofOpenApi schema = .ok (.mapping (p := p) (Entries.put "$schema" (.str draft)
        (finish (convertEntries (settleIn (numbersAt .one (.mapping (p := p) es)) es))))) := by
  cases stated : schema.orElse (.mapping (p := none) []) with
  | @mapping p es =>
      refine ⟨p, es, rfl, ofOpenApi_of_settled ?_⟩
      rw [stated, settled_mapping]
  | _ =>
      -- what is no mapping cannot be stored into
      rw [ofOpenApi, convertShared, stated] at h
      exact absurd h (by simp [settled, settleAt, convert])

/-- **CONVERSION KEEPS THE MEANING OF A SCHEMA** in which no mapping is a schema at one place and
something else at another: the schema object is converted, and the result admits as a JSON schema
exactly the values that the schema admits as an OpenAPI schema, whatever the patterns match. -/
theorem admits_ofOpenApi (matching : String → String → Bool)
    (apart : Apart (.mapping (p := p) es)) :
    ∃ converted, ofOpenApi (.mapping (p := p) es) = .ok converted
      ∧ ∀ v, Reading.openApi.admits matching (.mapping (p := p) es) v = true
          ↔ Reading.jsonSchema.admits matching converted v = true := by
  obtain ⟨q, stated⟩ := exists_orElse_mapping p es
  have whole : settled ((Value.mapping (p := p) es).orElse (.mapping (p := none) []))
      = .mapping (p := q) es := apart.orElse.settled_eq.trans stated
  refine ⟨_, ofOpenApi_of_settled whole, fun v => ?_⟩
  have same : Reading.jsonSchema.admits matching
        (.mapping (p := q) (Entries.put "$schema" (.str draft) (finish (convertEntries es))))
      = Reading.openApi.admits matching (.mapping (p := p) es) := by
    rw [← admits_convert matching (.mapping (p := p) es), convert, admits_mapping,
      admits_mapping, keywords_put_dialect]
  rw [same]

end Objects

/-! ## §8. A schema at two places. -/

/-- A nullable text; with a number it is one mapping wherever it stands. -/
def nullableText : Value :=
  .mapping (p := some 1) [(.str "nullable", .bool true), (.str "type", .str "string")]

/-- A schema that has one schema for its items and for one of its properties. -/
def twiceSchema : Value :=
  .object [("items", nullableText), ("properties", .object [("name", nullableText)])]

theorem admits_ofOpenApi_twice :
    Apart twiceSchema ∧ ∃ converted, ofOpenApi twiceSchema = .ok converted
      ∧ ∀ v, Reading.openApi.admits (fun _ _ => false) twiceSchema v = true
        ↔ Reading.jsonSchema.admits (fun _ _ => false) converted v = true := by
  have apart : Apart twiceSchema := by decide
  exact ⟨apart, admits_ofOpenApi _ apart⟩

/-- A schema that lists one of its schemas among the values that it admits. -/
def listedSchema : Value :=
  .object [("enum", .list [nullableText]), ("properties", .object [("name", nullableText)])]

/-- If one of the schemas is data as well, the converted schema refuses the very value that the
schema lists. -/
theorem not_admits_ofOpenApi_listed :
    ¬ Apart listedSchema ∧ ∃ converted, ofOpenApi listedSchema = .ok converted
      ∧ Reading.openApi.admits (fun _ _ => false) listedSchema nullableText = true
      ∧ Reading.jsonSchema.admits (fun _ _ => false) converted nullableText = false :=
  ⟨by decide, _, rfl, by decide +kernel, by decide +kernel⟩

end ApiTools.Schema
