/-
  ApiTools.Schema.Basic
  ─────────────────────
  **FROM OPENAPI SCHEMAS TO JSON SCHEMAS.**

  An OpenAPI schema says with `nullable` what a JSON schema says with a type,
  and carries annotations that a JSON schema validator does not know.
  `Schema.convert` converts a schema and every schema inside it: a nullable
  one admits null in its `type` and `enum`, and the unsupported keywords go.
  Only schema positions are converted; a property that happens to be called
  `example` stays, and so does data such as a default.

  A mapping that aliases make stand at several places is one mapping, and
  converting it at one of them converts it at all.  So data do not always
  stay: a mapping among them that stands as a schema elsewhere is converted
  there too (`Schema.settled`).
-/
import ApiTools.Value.Access

namespace ApiTools.Schema

/-! ## §1. Keywords. -/

/-- The dialect that converted schemas are written in. -/
def draft : String := "http://json-schema.org/draft-04/schema#"

/-- The keywords that only OpenAPI knows. -/
def unsupportedKeywords : List String := [
  "nullable", "discriminator", "readOnly", "writeOnly", "xml", "externalDocs", "example",
  "deprecated"]

/-- Is the key one of the unsupported keywords? -/
def isUnsupported (key : Value) : Bool := unsupportedKeywords.any fun name => key.isText name

/-- What schemas the value of a keyword holds. -/
inductive Position where
  /-- one schema -/
  | one
  /-- one schema, or a list of them -/
  | oneOrMany
  /-- a list of schemas -/
  | many
  /-- a mapping from names to schemas -/
  | named
  /-- none -/
  | data
  deriving DecidableEq

/-- What schemas the value of a key holds. -/
def positionOf (key : Value) : Position :=
  match key with
  | .str "items" => .oneOrMany
  | .str "additionalProperties" => .one
  | .str "not" => .one
  | .str "allOf" => .many
  | .str "anyOf" => .many
  | .str "oneOf" => .many
  | .str "properties" => .named
  | .str "patternProperties" => .named
  | _ => .data

/-! ## §2. One schema. -/

/-- Lets null into the type: at the end of a list of types that lacks it, or beside a single
type. -/
def admitNullType (es : Entries) : Entries :=
  match Entries.get? "type" es with
  | some (.list ts) =>
    if ts.any (Value.isText "null") then es
    else Entries.put "type" (.list (ts ++ [.str "null"])) es
  | some .null => es
  | none => es
  | some t => Entries.put "type" (.list [t, .str "null"]) es

/-- Lets null into the enumeration, at its end. -/
def admitNullEnum (es : Entries) : Entries :=
  match Entries.get? "enum" es with
  | some (.list vs) =>
    if vs.any Value.isNull then es else Entries.put "enum" (.list (vs ++ [.null])) es
  | _ => es

/-- Is the schema marked as nullable? -/
def isNullable (es : Entries) : Bool :=
  match Entries.get? "nullable" es with
  | some (.bool b) => b
  | _ => false

/-- Removes the keywords that only OpenAPI knows. -/
def dropUnsupported (es : Entries) : Entries := List.filter (fun e => !isUnsupported e.1) es

/-- Converts the schema itself, after the schemas inside it. -/
def finish (es : Entries) : Entries :=
  dropUnsupported (if isNullable es then admitNullEnum (admitNullType es) else es)

/-! ## §3. A schema and those inside it. -/

mutual

/-- Converts a schema; what is no mapping is no schema and stays. -/
def convert : Value → Value
  | .mapping (p := p) es => .mapping (p := p) (finish (convertEntries es))
  | v => v

/-- Converts the schemas of a list. -/
def convertItems : List Value → List Value
  | [] => []
  | v :: vs => convert v :: convertItems vs

/-- Converts the schemas that the names of a mapping stand for. -/
def convertNamed : List (Value × Value) → List (Value × Value)
  | [] => []
  | (k, v) :: es => (k, convert v) :: convertNamed es

/-- Converts the schemas inside the value of each keyword. -/
def convertEntries : List (Value × Value) → List (Value × Value)
  | [] => []
  | (k, v) :: es =>
    let w :=
      match positionOf k, v with
      | .one, v => convert v
      | .oneOrMany, .list vs => .list (convertItems vs)
      | .oneOrMany, v => convert v
      | .many, .list vs => .list (convertItems vs)
      | .named, .mapping fs => .mapping (p := none) (convertNamed fs)
      | _, v => v
    (k, w) :: convertEntries es

end

/-! ## §4. Mappings that are schemas and data. -/

mutual

/-- The numbers of the mappings that stand as schemas in a value at a position. -/
def numbersAt : Position → Value → List Nat
  | position, .mapping (p := p) es =>
    match position with
    | .one => p.toList ++ numbersIn es
    | .oneOrMany => p.toList ++ numbersIn es
    | .named => numbersOfNamed es
    | .many => []
    | .data => []
  | .oneOrMany, .list vs => numbersOfItems vs
  | .many, .list vs => numbersOfItems vs
  | _, _ => []

def numbersOfItems : List Value → List Nat
  | [] => []
  | v :: vs => numbersAt .one v ++ numbersOfItems vs

def numbersOfNamed : List (Value × Value) → List Nat
  | [] => []
  | (_, v) :: es => numbersAt .one v ++ numbersOfNamed es

/-- The numbers of the schemas that the keywords of a schema hold. -/
def numbersIn : List (Value × Value) → List Nat
  | [] => []
  | (k, v) :: es => numbersAt (positionOf k) v ++ numbersIn es

end

section Settle

variable (schemas : List Nat)

mutual

/-- A value at a position, with every mapping among the data in it converted whose number is one of
the schemas'.  A mapping of named schemas is taken as it is before it may be converted itself. -/
def settleAt : Position → Value → Value
  | position, .mapping (p := p) es =>
    match position with
    | .one => .mapping (p := p) (settleIn es)
    | .oneOrMany => .mapping (p := p) (settleIn es)
    | .named => .mapping (p := p) (settleValues .one es)
    | _ =>
      if p.any schemas.contains then convert (.mapping (p := p) (settleIn es))
      else .mapping (p := p) (settleValues .data es)
  | position, .list vs =>
    match position with
    | .oneOrMany => .list (settleItems .one vs)
    | .many => .list (settleItems .one vs)
    | _ => .list (settleItems .data vs)
  | _, .tuple vs => .tuple (settleItems .data vs)
  | _, v => v

def settleItems (position : Position) : List Value → List Value
  | [] => []
  | v :: vs => settleAt position v :: settleItems position vs

def settleValues (position : Position) : List (Value × Value) → List (Value × Value)
  | [] => []
  | (k, v) :: es => (k, settleAt position v) :: settleValues position es

/-- The entries of a schema, each at its position. -/
def settleIn : List (Value × Value) → List (Value × Value)
  | [] => []
  | (k, v) :: es => (k, settleAt (positionOf k) v) :: settleIn es

end

end Settle

/-- A schema with what stands as a schema in it converted wherever else it stands. -/
def settled (v : Value) : Value := settleAt (numbersAt .one v) .one v

/-- Converts a schema and the schemas inside it, wherever they stand. -/
def convertShared (v : Value) : Value := convert (settled v)

/-- The JSON schema of an OpenAPI schema; one that is absent admits everything. -/
def ofOpenApi (schema : Value) : Except Fault Value :=
  match convertShared (schema.orElse (.mapping (p := none) [])) with
  | .mapping (p := p) es => .ok (.mapping (p := p) (Entries.put "$schema" (.str draft) es))
  | v => .error (.misuse (.noStoring v.kindName))

end ApiTools.Schema
