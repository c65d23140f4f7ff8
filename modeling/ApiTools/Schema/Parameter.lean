/-
  ApiTools.Schema.Parameter
  ─────────────────────────
  **THE SCHEMA OF A PARAMETER'S VALUE.**

  A parameter says what its values are in one of three ways: by a schema, by
  the schema of its content, where a JSON content comes first, or by keywords
  of its own.
-/
import ApiTools.Schema.Basic

namespace ApiTools.Schema

/-- The keywords of a parameter that say what its values are. -/
def inlineKeywords : List String := [
  "type", "format", "items", "collectionFormat", "default", "maximum", "exclusiveMaximum",
  "minimum", "exclusiveMinimum", "maxLength", "minLength", "pattern", "maxItems", "minItems",
  "uniqueItems", "enum", "multipleOf"]

/-- The keywords that a parameter has, with their values, in the order of `inlineKeywords`. -/
def inlineFields (parameter : Value) : List String → Except Fault Entries
  | [] => .ok []
  | name :: names => do
    let v ← parameter.field name
    let others ← inlineFields parameter names
    .ok (if v.isNull then others else (.str name, v) :: others)

/-- The schema that a parameter's own keywords make up; values are texts if nothing else is
said. -/
def inlineSchema (parameter : Value) : Except Fault Value := do
  let fields ← inlineFields parameter inlineKeywords
  let typed := if Entries.contains "type" fields then fields
    else Entries.put "type" (.str "string") fields
  match Entries.get? "collectionFormat" typed with
  | none => .ok (.mapping (p := none) typed)
  | some v =>
    let renamed := Entries.put "x-collection-format" v (Entries.erase "collectionFormat" typed)
    .ok (.mapping (p := none) renamed)

/-- The first entry whose content type speaks of JSON. -/
def findJson : Entries → Except Fault (Option Value)
  | [] => .ok none
  | (contentType, spec) :: rest => do
    if ← contentType.has "json" then .ok (some spec) else findJson rest

/-- The schema that the content of a parameter states. -/
def contentSchema (content : Value) : Except Fault Value := do
  let entries ← content.pairs
  let chosen ← findJson entries
  let spec := chosen.getD ((entries.map (·.2)).headD .null)
  let schema ← spec.field? "schema"
  .ok (schema.getD (.mapping (p := none) []))

/-- Does the parameter have content that is not empty? -/
def hasContent (parameter : Value) : Except Fault Bool := do
  if ← parameter.has "content" then
    let content ← parameter.part "content"
    .ok content.truthy
  else .ok false

/-- The schema that a parameter states for its value. -/
def statedSchema (parameter : Value) : Except Fault Value := do
  if ← parameter.has "schema" then parameter.part "schema"
  else if ← hasContent parameter then
    let content ← parameter.part "content"
    contentSchema content
  else inlineSchema parameter

/-- The JSON schema of a parameter's value; the parameter's description serves where the schema
has none. -/
def ofParameter (parameter : Value) : Except Fault Value := do
  let schema ← statedSchema parameter
  let converted ← ofOpenApi schema
  let description ← parameter.field "description"
  if description.truthy && (converted.get? "description").isNone then
    .ok (.mapping (p := none) (Entries.put "description" description converted.entries))
  else .ok converted

end ApiTools.Schema
