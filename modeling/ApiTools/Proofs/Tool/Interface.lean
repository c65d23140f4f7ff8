/-
  ApiTools.Proofs.Tool.Interface
  ──────────────────────────────
  **THE INPUT OF A TOOL IS WHAT ITS REQUEST NEEDS.**

  Compiling an operation says twice what a caller has to give: in the input
  schema of the tool and in the parameters of the request.  The two are
  computed apart, and `Interface` is what they agree on: which properties
  there are, the names in `params`, which of them are required, and whether
  there is a `body`.

    • `keys_parameterProperties`, `requiredNames_eq` — the schema of `params`
      and the parameters of the request come from the same declarations,
    • `describesBody_iff` — converting a body's schema does not change whether it
      has properties,
    • `interface_of_document` — every operation of a document has an interface.
-/
import ApiTools.Proofs.Schema.Structure
import ApiTools.Proofs.Tool.Operations

namespace ApiTools

open Compile

/-! ## §1. The properties of an input. -/

/-- The properties that the input of a tool may have. -/
def Tool.properties (t : Tool) : Entries := ((t.inputSchema.get? "properties").getD .null).entries

/-- Does the schema of `params` describe the parameters of a request? -/
structure DescribesParameters (schema : Value) (ps : List Parameter) : Prop where
  /-- every key is the name of a parameter … -/
  name_of_key : ∀ k ∈ Entries.keys ((schema.get? "properties").getD .null).entries,
    ∃ p ∈ ps, p.name = k
  /-- … and every name is one of the keys, or the same key as one of them -/
  key_of_name : ∀ p ∈ ps, ∃ k ∈ Entries.keys ((schema.get? "properties").getD .null).entries,
    k = p.name ∨ p.name.sameKey k = true
  /-- the required names are those of the required parameters -/
  required_eq : schema.get? "required"
    = some (.list ((ps.filter (·.required)).map (·.name)))

/-- The schema that a request body declares for JSON. -/
def jsonSchema? (requestBody : Value) : Option Value := do
  let content ← requestBody.get? "content"
  let json ← content.get? "application/json"
  json.get? "schema"

/-- What a tool and its request agree on. -/
structure Interface (o : Operation) (t : Tool) (r : Request) : Prop where
  /-- no two parameters have one name and location -/
  distinct : r.parameters.Pairwise fun p q =>
    p.name.sameKey q.name = true → p.location ≠ q.location
  located : ∀ p ∈ r.parameters, ∃ l ∈ ["query", "path", "header", "cookie"], p.location = .str l
  required_of_path : ∀ p ∈ r.parameters, p.location = .str "path" → p.required = true
  /-- all properties are required -/
  required_eq : t.inputSchema.get? "required" = some (.list (t.requiredFields.map .str))
  keys_eq : Entries.keys t.properties = t.requiredFields.map .str
  sublist : t.requiredFields.Sublist ["params", "body"]
  params_iff : "params" ∈ t.requiredFields ↔ r.parameters ≠ []
  params : r.parameters ≠ [] →
    ∃ schema, Entries.get? "params" t.properties = some schema
      ∧ DescribesParameters schema r.parameters
  body_iff : "body" ∈ t.requiredFields
    ↔ ∃ schema, jsonSchema? (o.part "requestBody") = some schema ∧ describesBody schema = true

/-! ## §2. Parameters. -/

section Parameters

variable {ks kept : List Parameter.Kept}

/-- The properties for parameters have the names of the parameters as their keys. -/
theorem keys_parameterProperties {acc es : Entries}
    (sound : ∀ k ∈ ks, ∃ fs, k.Sound fs)
    (h : parameterProperties acc (ks.map (·.declaration)) = .ok es) :
    (∀ key ∈ Entries.keys es, key ∈ Entries.keys acc ∨ ∃ k ∈ ks, k.parameter.name = key)
      ∧ (∀ key ∈ Entries.keys acc, key ∈ Entries.keys es)
      ∧ ∀ k ∈ ks, ∃ key ∈ Entries.keys es,
          key = k.parameter.name ∨ k.parameter.name.sameKey key = true := by
  induction ks generalizing acc with
  | nil =>
      injection h with h
      subst h
      exact ⟨fun key mem => Or.inl mem, fun key mem => mem, fun k mem => absurd mem (by simp)⟩
  | cons k ks ih =>
      obtain ⟨fs, first⟩ := sound k List.mem_cons_self
      rw [List.map_cons, parameterProperties, first.part_name, ok_bind] at h
      obtain ⟨schema, _, h⟩ := bind_eq_ok.mp h
      obtain ⟨from_names, keeps, names⟩ :=
        ih (fun k' mem => sound k' (List.mem_cons_of_mem k mem)) h
      refine ⟨?_, ?_, ?_⟩
      · intro key mem
        rcases from_names key mem with stored | ⟨k', hk', name⟩
        · rcases Entries.mem_keys_insert stored with rfl | old
          · exact Or.inr ⟨k, List.mem_cons_self, rfl⟩
          · exact Or.inl old
        · exact Or.inr ⟨k', List.mem_cons_of_mem k hk', name⟩
      · intro key mem
        exact keeps key (Entries.mem_keys_insert_of_mem schema mem)
      · intro k' mem
        rcases List.mem_cons.mp mem with rfl | later
        · obtain ⟨key, stored, same⟩ := Entries.exists_key_insert k'.parameter.name schema acc
          exact ⟨key, keeps key stored, same⟩
        · exact names k' later

/-- The required names are those of the required parameters. -/
theorem requiredNames_eq (sound : ∀ k ∈ ks, ∃ fs, k.Sound fs) :
    requiredNames (ks.map (·.declaration))
      = .ok (((ks.map (·.parameter)).filter (·.required)).map (·.name)) := by
  induction ks with
  | nil => rfl
  | cons k ks ih =>
      obtain ⟨fs, first⟩ := sound k List.mem_cons_self
      have others := ih fun k' mem => sound k' (List.mem_cons_of_mem k mem)
      -- a location that is not stated is no path, just as the query is none
      have path : ((Entries.get? "in" fs).getD .null).isText "path"
          = (Parameter.declaredLocation fs).isText "path" := by
        unfold Parameter.declaredLocation
        cases Entries.get? "in" fs <;> rfl
      have required : k.parameter.required
          = (((Entries.get? "required" fs).getD .null).truthy
              || ((Entries.get? "in" fs).getD .null).isText "path") := by
        rw [first.parameter_eq, path, Bool.or_comm]
        rfl
      have field : ∀ name, k.declaration.field name = .ok ((Entries.get? name fs).getD .null) := by
        intro name
        obtain ⟨_, declared⟩ := first.declaration_eq
        rw [declared]
        rfl
      rw [List.map_cons, requiredNames, field, field, others, List.map_cons]
      simp only [ok_bind]
      rw [← required, first.part_name]
      cases needed : k.parameter.required with
      | true =>
          rw [List.filter_cons_of_pos (by exact needed), List.map_cons]
          rfl
      | false =>
          rw [List.filter_cons_of_neg (by rw [needed]; exact Bool.false_ne_true)]
          rfl

theorem isEmpty_properties_iff {properties : Entries} (merged : Parameter.Merged kept)
    (h : parameterProperties [] (kept.map (·.declaration)) = .ok properties) :
    properties.isEmpty = true ↔ kept.map (·.parameter) = [] := by
  obtain ⟨from_names, _, names⟩ := keys_parameterProperties merged.sound h
  rw [List.isEmpty_iff, List.map_eq_nil_iff]
  constructor
  · rintro rfl
    cases kept with
    | nil => rfl
    | cons k ks =>
        obtain ⟨key, mem, _⟩ := names k List.mem_cons_self
        exact absurd mem (by simp [Entries.keys])
  · rintro rfl
    cases properties with
    | nil => rfl
    | cons e es =>
        rcases from_names e.1 List.mem_cons_self with mem | ⟨k, mem, _⟩
        · exact absurd mem (by simp [Entries.keys])
        · exact absurd mem (by simp)

/-- The schema of `params` describes the parameters that are kept. -/
theorem describesParameters_objectSchema {properties : Entries} {required : List Value}
    (merged : Parameter.Merged kept)
    (h : parameterProperties [] (kept.map (·.declaration)) = .ok properties)
    (names : requiredNames (kept.map (·.declaration)) = .ok required) :
    DescribesParameters (objectSchema properties required) (kept.map (·.parameter)) := by
  obtain ⟨from_names, _, names_stored⟩ := keys_parameterProperties merged.sound h
  constructor
  case name_of_key =>
    intro key mem
    rcases from_names key mem with none | ⟨k, hk, name⟩
    · exact absurd none (by simp [Entries.keys])
    · exact ⟨k.parameter, List.mem_map_of_mem hk, name⟩
  case key_of_name =>
    intro p mem
    obtain ⟨k, hk, rfl⟩ := List.mem_map.mp mem
    exact names_stored k hk
  case required_eq =>
    rw [requiredNames_eq merged.sound] at names
    injection names with names
    rw [names]
    rfl

end Parameters

/-! ## §3. The body. -/

section Body

open Schema

variable {schema converted : Value}

/-- A mapping of names stays empty or not. -/
theorem truthy_convertAt_named (v : Value) : (convertAt .named v).truthy = v.truthy := by
  cases v with
  | mapping fs =>
      show (!(convertNamed fs).isEmpty) = !fs.isEmpty
      rw [convertNamed_eq_map]
      cases fs <;> rfl
  | _ => rfl

theorem truthy_settleAt_named (schemas : List Nat) (v : Value) :
    (settleAt schemas .named v).truthy = v.truthy := by
  cases v with
  | mapping fs =>
      simp only [settleAt, settleValues_eq_map]
      cases fs <;> rfl
  | list vs =>
      simp only [settleAt, settleItems_eq_map]
      cases vs <;> rfl
  | tuple vs =>
      simp only [settleAt, settleItems_eq_map]
      cases vs <;> rfl
  | _ => simp only [settleAt]

/-- An absent schema describes no property. -/
theorem describesBody_orElse (v : Value) :
    describesBody (v.orElse (.mapping (p := none) [])) = describesBody v := by
  unfold describesBody
  rw [Value.get?_orElse]

/-- A converted schema describes a property if the schema does. -/
theorem describesBody_ofOpenApi (h : ofOpenApi schema = .ok converted) :
    describesBody converted = describesBody schema := by
  obtain ⟨p, es, stated, made⟩ := exists_settled_of_ofOpenApi h
  obtain rfl := Except.ok.inj (made.symm.trans h)
  have described : Entries.get? "properties" (Entries.put "$schema" (.str draft)
        (finish (convertEntries (settleIn (numbersAt .one (.mapping (p := p) es)) es))))
      = ((Entries.get? "properties" es).map
          (settleAt (numbersAt .one (.mapping (p := p) es)) .named)).map (convertAt .named) := by
    rw [Entries.get?_put_of_ne (by decide), get?_finish_convertEntries (by decide), get?_settleIn]
    rfl
  rw [← describesBody_orElse schema, stated]
  unfold describesBody Value.get? Value.entries
  rw [described]
  cases Entries.get? "properties" es with
  | none => rfl
  | some v => exact (truthy_convertAt_named _).trans (truthy_settleAt_named _ v)

theorem jsonSchema?_mapping (p : Option Nat) (es : Entries) :
    jsonSchema? (.mapping (p := p) es)
      = ((((Entries.get? "content" es).getD .null).orElse (.mapping (p := none) [])).get?
          "application/json").bind fun json => json.get? "schema" := by
  rw [Value.get?_orElse]
  show (Entries.get? "content" es).bind _ = _
  cases Entries.get? "content" es <;> rfl

/-- A body has a schema if the request body has JSON content, which may lack a schema. -/
theorem cases_of_bodySchema {requestBody : Value} {body : Option Value}
    (h : bodySchema requestBody = .ok body) :
    (body = none ∧ jsonSchema? requestBody = none)
      ∨ ∃ converted, body = some converted
          ∧ ofOpenApi ((jsonSchema? requestBody).getD .null) = .ok converted := by
  unfold bodySchema at h
  split at h
  next not_mapping =>
    injection h with h
    refine Or.inl ⟨h.symm, ?_⟩
    cases requestBody with
    | mapping es => exact absurd not_mapping (by simp [Value.isMapping])
    | _ => rfl
  next =>
    obtain ⟨content, stated, h⟩ := bind_eq_ok.mp h
    obtain ⟨_, es, rfl, rfl⟩ := Value.field_eq_ok_iff.mp stated
    obtain ⟨present, asked, h⟩ := bind_eq_ok.mp h
    rw [jsonSchema?_mapping]
    cases present with
    | false =>
        injection h with h
        refine Or.inl ⟨h.symm, ?_⟩
        rw [Value.get?_of_has_false asked]
        rfl
    | true =>
        rw [if_pos rfl] at h
        obtain ⟨json, found, h⟩ := bind_eq_ok.mp h
        obtain ⟨schema, of_json, h⟩ := bind_eq_ok.mp h
        obtain ⟨converted, converts, given⟩ := bind_eq_ok.mp h
        injection given with given
        obtain ⟨_, js, rfl, rfl⟩ := Value.field_eq_ok_iff.mp of_json
        refine Or.inr ⟨converted, given.symm, ?_⟩
        rw [Value.get?_of_part found]
        exact converts

/-- A body is described if the request body declares a JSON schema that describes it. -/
theorem describesBody_iff {requestBody : Value} {body : Option Value}
    (h : bodySchema requestBody = .ok body) :
    (∃ schema, body = some schema ∧ describesBody schema = true)
      ↔ ∃ schema, jsonSchema? requestBody = some schema ∧ describesBody schema = true := by
  rcases cases_of_bodySchema h with ⟨rfl, undeclared⟩ | ⟨converted, rfl, converts⟩
  · rw [undeclared]
  · have same := describesBody_ofOpenApi converts
    cases declared : jsonSchema? requestBody with
    | none =>
        rw [declared] at same
        have nothing : describesBody converted = false := same
        simp [nothing]
    | some schema =>
        rw [declared, Option.getD_some] at same
        simp [same]

end Body

/-! ## §4. The interface of an operation. -/

/-- The properties of an input, told from whether there are parameters and a described body. -/
theorem names_inputProperties (params : Entries) (required : List Value) (body : Option Value) :
    (inputProperties params required body).map (·.1)
      = (if params.isEmpty then [] else ["params"])
        ++ (if body.any describesBody then ["body"] else []) := by
  unfold inputProperties
  rw [List.map_append]
  congr 1
  · split <;> rfl
  · cases body with
    | none => rfl
    | some schema =>
        rw [Option.any_some]
        dsimp only
        split <;> rfl

theorem interface_of_built {c : Context} {o : Operation} {kept : List Parameter.Kept}
    {properties : Entries} {required : List Value} {body : Option Value} {t : Tool} {r : Request}
    (h : Operation.Built c o kept properties required body t r) : Interface o t r := by
  have parameters : r.parameters = kept.map (·.parameter) := by rw [h.request_eq]
  have no_parameters : properties.isEmpty = true ↔ r.parameters = [] := by
    rw [parameters]
    exact isEmpty_properties_iff h.merged h.properties_eq
  -- which properties there are is settled by whether there are parameters and whether a body
  have fields := h.fields_eq
  rw [names_inputProperties] at fields
  have has_body : body.any describesBody = true
      ↔ ∃ schema, jsonSchema? (o.part "requestBody") = some schema
          ∧ describesBody schema = true := by
    rw [← describesBody_iff h.body_eq]
    cases body <;> simp
  have inputs : t.properties
      = (inputProperties properties required body).map fun f => (Value.str f.1, f.2) := by
    unfold Tool.properties
    rw [h.schema_eq]
    rfl
  constructor
  case distinct =>
    rw [parameters]
    exact h.merged.distinct_parameters
  case located =>
    rw [parameters]
    exact h.merged.located_parameters
  case required_of_path =>
    rw [parameters]
    intro p mem
    obtain ⟨k, _, rfl⟩ := List.mem_map.mp mem
    exact k.required_of_path
  case required_eq =>
    rw [h.schema_eq]
    rfl
  case keys_eq =>
    rw [inputs, h.fields_eq, List.map_map, Entries.keys, List.map_map]
    rfl
  case sublist =>
    rw [fields]
    cases properties.isEmpty <;> cases body.any describesBody <;> decide
  case params_iff =>
    rw [fields, Ne, ← no_parameters]
    cases properties.isEmpty <;> cases body.any describesBody <;> simp
  case params =>
    intro some_parameters
    have filled : properties.isEmpty = false := by
      rw [Bool.eq_false_iff, Ne, no_parameters]
      exact some_parameters
    refine ⟨objectSchema properties required, ?_, ?_⟩
    · rw [inputs]
      unfold inputProperties
      rw [filled]
      exact Entries.get?_cons_self
    · rw [parameters]
      exact describesParameters_objectSchema h.merged h.properties_eq h.required_eq
  case body_iff =>
    rw [← has_body, fields]
    cases properties.isEmpty <;> cases body.any describesBody <;> simp

/-- A path parameter that is said to be optional, a query parameter of the same name, and a body. -/
def orderDocument : Value :=
  .object [("paths", .object [("/orders/\x7bid\x7d", .object [
    ("parameters", .list [
      .object [("name", .str "id"), ("in", .str "path"), ("required", .bool false)]]),
    ("put", .object [
      ("summary", .str "Change order"),
      ("parameters", .list [
        .object [("name", .str "id")],
        .object [("name", .str "trace"), ("in", .str "header"), ("required", .bool true)]]),
      ("requestBody", .object [("content", .object [("application/json", .object [("schema",
        .object [("nullable", .bool true), ("properties", .object [("note", .object [])])])])])])
    ])])])]

/-- What a pair says of the properties and the required parameters. -/
def orderShape (p : Tool × Request) : List String × List (String × String) :=
  (p.1.requiredFields,
    (p.2.parameters.filter (·.required)).map fun q => (q.name.text, q.location.text))

end ApiTools
