/-
  ApiTools.Proofs.Schema.Validity
  ───────────────────────────────
  **WHICH VALUES A SCHEMA ADMITS.**

  A schema is read either as a JSON schema or as an OpenAPI schema
  (`Reading`).  The two readings agree on all keywords but one: in OpenAPI a
  schema marked as nullable admits null in its own `type` and in its own
  `enum`.  Keywords that are not listed in `Keywords` constrain nothing, and
  neither does a keyword whose value has the wrong form; how the pattern of a
  `patternProperties` entry matches a name is left open.

  `Reading.admits` follows the structure of the schema: the schemas inside it
  become checks (`Part`), the keywords collect them (`keywordsOf`), and a
  value is tested against the keywords (`Keywords.hold`).
-/
import ApiTools.Value.Basic

namespace ApiTools.Schema

/-! ## §1. Equal values. -/

mutual

/-- Are two values equal as JSON?  Numbers are equal as numbers, and the order of the entries of a
mapping does not matter. -/
def same : Value → Value → Bool
  | .list xs, .list ys => sameItems xs ys
  | .mapping es, .mapping fs => es.length == fs.length && sameEntries es fs
  | .bool a, .bool b => a == b
  | .bool _, _ => false
  | _, .bool _ => false
  | v, w => v.sameKey w

/-- Are the values of two lists equal, one by one? -/
def sameItems : List Value → List Value → Bool
  | [], [] => true
  | v :: vs, w :: ws => same v w && sameItems vs ws
  | _, _ => false

/-- Does every entry have an equal one among others? -/
def sameEntries : List (Value × Value) → List (Value × Value) → Bool
  | [], _ => true
  | (k, v) :: es, fs =>
    (match Entries.find? k fs with
      | some w => same v w
      | none => false) && sameEntries es fs

end

/-! ## §2. Types. -/

/-- Has a value the type of that name?  A whole number is written without a fraction. -/
def hasType (name : String) : Value → Bool
  | .null => name == "null"
  | .bool _ => name == "boolean"
  | .int _ => name == "integer" || name == "number"
  | .float _ => name == "number"
  | .str _ => name == "string"
  | .list _ => name == "array"
  | .mapping _ => name == "object"
  | _ => false

/-- Does a single type admit a value?  What is no text names no type. -/
def isOfType (type v : Value) : Bool :=
  match type with
  | .str name => hasType name v
  | _ => false

/-- Does a type, or one of a list of types, admit a value? -/
def isOfTypes (types v : Value) : Bool :=
  match types with
  | .list ts => ts.any fun t => isOfType t v
  | t => isOfType t v

/-! ## §3. Keywords. -/

/-- A test of values. -/
abbrev Check := Value → Bool

/-- The value of a keyword, and what it says as a schema, as a list of schemas and as a mapping
from names to schemas, if it is one. -/
structure Part where
  data : Value
  one : Check
  many : Option (List Check)
  named : Option (List (Value × Check))

/-- What the keywords of a schema say, each by its key. -/
abbrev Parts := List (Value × Part)

/-- The schemas of the items of a list. -/
inductive Items where
  /-- one for all of them -/
  | all (c : Check)
  /-- one for each of the first ones -/
  | each (cs : List Check)

/-- The keywords that constrain values. -/
structure Keywords where
  type : Option Value
  enum : Option (List Value)
  nullable : Bool
  items : Option Items
  properties : List (Value × Check)
  patternProperties : List (Value × Check)
  additionalProperties : Option Check
  required : List Value
  not : Option Check
  allOf : List Check
  anyOf : Option (List Check)
  oneOf : Option (List Check)

namespace Part

/-- The types of a schema; null says nothing. -/
def types (p : Part) : Option Value := if p.data.isNull then none else some p.data

/-- The values of a list. -/
def elements (p : Part) : Option (List Value) :=
  match p.data with
  | .list vs => some vs
  | _ => none

def truth (p : Part) : Option Bool :=
  match p.data with
  | .bool b => some b
  | _ => none

def check (p : Part) : Option Check := some p.one

def items (p : Part) : Option Items :=
  match p.many with
  | some cs => some (.each cs)
  | none => some (.all p.one)

end Part

/-- What the first part of a name says, read in one way. -/
def readPart {α : Type} (name : String) (read : Part → Option α) (ps : Parts) : Option α :=
  (List.find? (fun p => (Value.str name).sameKey p.1) ps).bind fun p => read p.2

/-- The keywords of a schema. -/
def keywordsOf (ps : Parts) : Keywords where
  type := readPart "type" Part.types ps
  enum := readPart "enum" Part.elements ps
  nullable := (readPart "nullable" Part.truth ps).getD false
  items := readPart "items" Part.items ps
  properties := (readPart "properties" Part.named ps).getD []
  patternProperties := (readPart "patternProperties" Part.named ps).getD []
  additionalProperties := readPart "additionalProperties" Part.check ps
  required := (readPart "required" Part.elements ps).getD []
  not := readPart "not" Part.check ps
  allOf := (readPart "allOf" Part.many ps).getD []
  anyOf := readPart "anyOf" Part.many ps
  oneOf := readPart "oneOf" Part.many ps

/-! ## §4. Values under keywords. -/

/-- Do the types admit a value, or, beside them, null? -/
def typeHolds (nulls : Bool) (types : Option Value) (v : Value) : Bool :=
  match types with
  | some t => isOfTypes t v || nulls && v.isNull
  | none => true

/-- Is a value listed, or, beside the list, null? -/
def enumHolds (nulls : Bool) (listed : Option (List Value)) (v : Value) : Bool :=
  match listed with
  | some ws => (ws.any fun w => same w v) || nulls && v.isNull
  | none => true

def itemsHold (items : Option Items) (v : Value) : Bool :=
  match items, v with
  | some (.all c), .list vs => vs.all c
  | some (.each cs), .list vs => (cs.zip vs).all fun p => p.1 p.2
  | _, _ => true

/-- Does a pattern match a name?  Both have to be texts. -/
def nameMatches (matching : String → String → Bool) (pattern name : Value) : Bool :=
  match pattern, name with
  | .str p, .str n => matching p n
  | _, _ => false

/-- Do the fields of a mapping hold?  Additional ones have no property and match no pattern. -/
def fieldsHold (matching : String → String → Bool) (k : Keywords) (v : Value) : Bool :=
  match v with
  | .mapping fields => fields.all fun (name, w) =>
    let checks := k.properties.filter (fun p => p.1.sameKey name)
      ++ k.patternProperties.filter (fun p => nameMatches matching p.1 name)
    if checks.isEmpty then k.additionalProperties.all fun c => c w
    else checks.all fun p => p.2 w
  | _ => true

def requiredHold (required : List Value) (v : Value) : Bool :=
  match v with
  | .mapping fields => required.all fun name => (Entries.find? name fields).isSome
  | _ => true

/-- Do the combined schemas hold? -/
def combinedHold (k : Keywords) (v : Value) : Bool :=
  k.not.all (fun c => !c v)
    && k.allOf.all (fun c => c v)
    && k.anyOf.all (fun cs => cs.any fun c => c v)
    && k.oneOf.all (fun cs => cs.countP (fun c => c v) == 1)

/-- Does a value satisfy all keywords, where the types and the enumeration admit null beside what
they list or do not? -/
def Keywords.hold (nulls : Bool) (matching : String → String → Bool) (k : Keywords) : Check :=
  fun v => typeHolds nulls k.type v && enumHolds nulls k.enum v && itemsHold k.items v
    && fieldsHold matching k v && requiredHold k.required v && combinedHold k v

/-! ## §5. The two readings. -/

/-- The two ways to read a schema. -/
inductive Reading where
  | jsonSchema
  | openApi

/-- Does a schema admit null beside its types and its enumeration? -/
def Reading.nulls (r : Reading) (k : Keywords) : Bool :=
  match r with
  | .jsonSchema => false
  | .openApi => k.nullable

mutual

/-- Does a schema admit a value?  A truth value admits all values or none, and what is no schema
constrains nothing. -/
def Reading.admits (r : Reading) (matching : String → String → Bool) : Value → Check
  | .mapping es =>
    let k := keywordsOf (r.parts matching es)
    k.hold (r.nulls k) matching
  | .bool b => fun _ => b
  | _ => fun _ => true

/-- What the keywords of a schema say. -/
def Reading.parts (r : Reading) (matching : String → String → Bool) : List (Value × Value) → Parts
  | [] => []
  | (k, v) :: es =>
    (k, ⟨v, r.admits matching v, r.asMany matching v, r.asNamed matching v⟩) :: r.parts matching es

/-- A list of schemas. -/
def Reading.asMany (r : Reading) (matching : String → String → Bool) : Value → Option (List Check)
  | .list vs => some (r.manyOf matching vs)
  | _ => none

def Reading.manyOf (r : Reading) (matching : String → String → Bool) : List Value → List Check
  | [] => []
  | v :: vs => r.admits matching v :: r.manyOf matching vs

/-- A mapping from names to schemas. -/
def Reading.asNamed (r : Reading) (matching : String → String → Bool) :
    Value → Option (List (Value × Check))
  | .mapping es => some (r.namedOf matching es)
  | _ => none

def Reading.namedOf (r : Reading) (matching : String → String → Bool) :
    List (Value × Value) → List (Value × Check)
  | [] => []
  | (k, v) :: es => (k, r.admits matching v) :: r.namedOf matching es

end

/-! ## §6. Parts. -/

section Parts

variable (r : Reading) (matching : String → String → Bool)

/-- What a keyword with a value says. -/
def Reading.part (v : Value) : Part :=
  ⟨v, r.admits matching v, r.asMany matching v, r.asNamed matching v⟩

/-- The keywords of a schema with the given entries. -/
def Reading.keywords (es : Entries) : Keywords := keywordsOf (r.parts matching es)

theorem parts_eq_map (es : Entries) :
    r.parts matching es = es.map fun e => (e.1, r.part matching e.2) := by
  induction es with
  | nil => rw [Reading.parts, List.map_nil]
  | cons e es ih =>
      rw [Reading.parts, ih, List.map_cons]
      rfl

theorem manyOf_eq_map (vs : List Value) : r.manyOf matching vs = vs.map (r.admits matching) := by
  induction vs with
  | nil => rw [Reading.manyOf, List.map_nil]
  | cons v vs ih => rw [Reading.manyOf, ih, List.map_cons]

theorem namedOf_eq_map (es : Entries) :
    r.namedOf matching es = es.map fun e => (e.1, r.admits matching e.2) := by
  induction es with
  | nil => rw [Reading.namedOf, List.map_nil]
  | cons e es ih => rw [Reading.namedOf, ih, List.map_cons]

/-- A part is read off the value that its name stands for. -/
theorem readPart_parts {α : Type} (name : String) (read : Part → Option α) (es : Entries) :
    readPart name read (r.parts matching es)
      = (Entries.get? name es).bind fun v => read (r.part matching v) := by
  rw [readPart, parts_eq_map, List.find?_map, Entries.get?, Entries.find?]
  show ((List.find? (fun e => (Value.str name).sameKey e.1) es).map _).bind _ = _
  cases List.find? (fun e => (Value.str name).sameKey e.1) es with
  | none => rfl
  | some e => rfl

/-- A schema object admits what its keywords hold of. -/
theorem admits_mapping (p : Option Nat) (es : Entries) :
    r.admits matching (.mapping (p := p) es)
      = (r.keywords matching es).hold (r.nulls (r.keywords matching es)) matching := by
  rw [Reading.admits]
  rfl

/-- A nullable text is where the readings part. -/
example :
    let schema := Value.object [("type", .str "string"), ("nullable", .bool true)]
    Reading.openApi.admits (fun _ _ => false) schema .null = true
      ∧ Reading.jsonSchema.admits (fun _ _ => false) schema .null = false := by decide

end Parts

end ApiTools.Schema
