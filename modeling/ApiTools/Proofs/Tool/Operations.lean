/-
  ApiTools.Proofs.Tool.Operations
  ───────────────────────────────
  **THE OPERATIONS OF A DOCUMENT.**

  `Operation.ofDocument` reads the operations off a document, path by path and
  within a path method by method, and compiles none of them.  The pairs of a
  document that compiles are those of its operations, one for each and in the
  same order (`forall₂_of_pairs`).

  The steps of compiling one operation are read off its definition once, by
  `Steps`.  What it is compiled to is said by `Built`: the merged declarations
  it starts from, the parts of the input schema, the name and the request.
  Statements about tools and requests follow from it and do not go through the
  compilation again.
-/
import ApiTools.Proofs.Lists
import ApiTools.Proofs.Parameter.Merging
import ApiTools.Proofs.Tool.Pairs

namespace ApiTools

/-- An operation of a document. -/
structure Operation where
  path : Value
  /-- the HTTP method, in lower case -/
  method : String
  /-- the parameters that the path declares for all its operations -/
  common : Value
  /-- what the document says of the operation itself -/
  declared : Value

namespace Operation

open Compile

/-! ## §1. Reading operations off a document. -/

/-- The operation that an entry of a path is, if it is one. -/
def ofKey? (path common : Value) (e : Value × Value) : Option Operation :=
  match methodOf? e.1 e.2 with
  | .ok (some method) => some ⟨path, method, common, e.2⟩
  | _ => none

/-- The operations of a path. -/
def ofItem (path item : Value) : List Operation :=
  match item with
  | .mapping es =>
    es.filterMap (ofKey? path (((Entries.get? "parameters" es).getD .null).orElse (.list [])))
  | _ => []

/-- The paths of a document. -/
def itemsOf (doc : Value) : Entries :=
  (((doc.get? "paths").getD .null).orElse (.mapping (p := none) [])).entries

/-- The operations of a document. -/
def ofDocument (doc : Value) : List Operation :=
  (itemsOf doc).flatMap fun e => ofItem e.1 e.2

/-- A field of the operation, null if it does not have it. -/
def part (o : Operation) (name : String) : Value := (o.declared.get? name).getD .null

/-- The parameters that the operation declares itself. -/
def ownParameters (o : Operation) : Value := (o.part "parameters").orElse (.list [])

/-- Merging the parameters of the operation. -/
def merging (o : Operation) : Reported (List Value) :=
  Parameter.merge o.common o.ownParameters o.method o.path

/-- The summary of the operation, or method and path if it has none. -/
def displayName (o : Operation) : Value :=
  if (o.part "summary").truthy then o.part "summary"
  else .str (Text.toUpper o.method ++ " " ++ o.path.text)

/-- Compiles the operation. -/
def compile (c : Context) (o : Operation) : Except Fault (Tool × Request) :=
  (operation c o.path o.method o.declared o.common).outcome

/-! ## §2. One pair for each operation. -/

section Pairs

variable {c : Context} {ps : List (Tool × Request)}

theorem forall₂_of_pairsOfEntries {path common : Value} {es : Entries}
    (h : pairsOfEntries c path common es = .ok ps) :
    List.Forall₂ (fun o p => o.compile c = .ok p) (es.filterMap (ofKey? path common)) ps := by
  induction es generalizing ps with
  | nil =>
      injection h with h
      subst h
      exact List.Forall₂.nil
  | cons e es ih =>
      obtain ⟨key, op⟩ := e
      rw [pairsOfEntries] at h
      obtain ⟨found, method, h⟩ := bind_eq_ok.mp h
      cases found with
      | none =>
          have passed : ofKey? path common (key, op) = none := by
            unfold ofKey?
            rw [method]
          rw [List.filterMap_cons_none passed]
          exact ih h
      | some m =>
          have is_operation : ofKey? path common (key, op) = some ⟨path, m, common, op⟩ := by
            unfold ofKey?
            rw [method]
          obtain ⟨pair, compiled, h⟩ := bind_eq_ok.mp h
          obtain ⟨others, rest, h⟩ := bind_eq_ok.mp h
          injection h with h
          subst h
          rw [List.filterMap_cons_some is_operation]
          exact List.Forall₂.cons compiled (ih rest)

theorem forall₂_of_pairsOfPaths {items : Entries} (h : pairsOfPaths c items = .ok ps) :
    List.Forall₂ (fun o p => o.compile c = .ok p) (items.flatMap fun e => ofItem e.1 e.2) ps := by
  induction items generalizing ps with
  | nil =>
      injection h with h
      subst h
      exact List.Forall₂.nil
  | cons e items ih =>
      obtain ⟨path, item⟩ := e
      rw [List.flatMap_cons]
      cases item with
      | mapping es =>
          rw [pairsOfPaths] at h
          obtain ⟨own, of_item, h⟩ := bind_eq_ok.mp h
          obtain ⟨others, rest, h⟩ := bind_eq_ok.mp h
          injection h with h
          subst h
          exact List.rel_append (forall₂_of_pairsOfEntries of_item) (ih rest)
      | _ => exact ih h

/-- The paths that compiling goes through. -/
theorem itemsOf_eq {doc declared : Value} {items : Entries} (stated : doc.field "paths" = .ok declared)
    (listed : (declared.orElse (.mapping (p := none) [])).pairs = .ok items) : itemsOf doc = items := by
  obtain ⟨p, es, rfl, rfl⟩ := Value.field_eq_ok_iff.mp stated
  have whole : itemsOf (.mapping (p := p) es)
      = (((Entries.get? "paths" es).getD .null).orElse (.mapping (p := none) [])).entries := rfl
  rw [whole]
  cases items_of : ((Entries.get? "paths" es).getD .null).orElse (.mapping (p := none) []) with
  | mapping fs =>
      rw [items_of] at listed
      injection listed
  | _ =>
      rw [items_of] at listed
      exact absurd listed (by simp [Value.pairs, Value.lacks])

/-- **The pairs of a document are those of its operations.** -/
theorem forall₂_of_pairs {doc integrationName integrationId : Value}
    (h : pairs doc integrationName integrationId = .ok ps) :
    ∃ baseUrl, Server.baseUrl doc = .ok baseUrl
      ∧ List.Forall₂ (fun o p => o.compile ⟨integrationName, integrationId, baseUrl⟩ = .ok p)
          (ofDocument doc) ps := by
  unfold pairs at h
  obtain ⟨declared, stated, h⟩ := bind_eq_ok.mp h
  obtain ⟨baseUrl, base, h⟩ := bind_eq_ok.mp h
  obtain ⟨items, listed, h⟩ := bind_eq_ok.mp h
  refine ⟨baseUrl, base, ?_⟩
  unfold ofDocument
  rw [itemsOf_eq stated listed]
  exact forall₂_of_pairsOfPaths h

/-- Every pair is that of an operation. -/
theorem exists_of_mem_pairs {R : Operation → Tool × Request → Prop} {os : List Operation}
    (h : List.Forall₂ R os ps) {p : Tool × Request} (mem : p ∈ ps) : ∃ o ∈ os, R o p :=
  exists_of_mem_right h mem

/-- A document keeps the last pair of each name: its tool, and its request under the name. -/
theorem kept_of_mem_lastBy {integrationName : Value} {p : Tool × Request}
    (h : p ∈ lastBy pairName ps) :
    p.1 ∈ (Compiled.ofPairs integrationName ps).tools
      ∧ Table.get? p.1.name (Compiled.ofPairs integrationName ps).requests = some p.2 := by
  rw [Compiled.tools_ofPairs, Compiled.requests_ofPairs]
  have entry : pairEntry p ∈ lastBy (·.1) (ps.map pairEntry) := by
    rw [lastBy_map]
    exact List.mem_map_of_mem h
  exact ⟨List.mem_map_of_mem h, Table.get?_ofList_of_mem_lastBy entry⟩

/-- The pair of a tool that a document keeps. -/
theorem exists_pair_of_mem_tools {integrationName : Value} {t : Tool}
    (mem : t ∈ (Compiled.ofPairs integrationName ps).tools) :
    ∃ r, (t, r) ∈ ps
      ∧ Table.get? t.name (Compiled.ofPairs integrationName ps).requests = some r := by
  rw [Compiled.tools_ofPairs] at mem
  obtain ⟨⟨t', r⟩, last, rfl⟩ := List.mem_map.mp mem
  exact ⟨r, (sublist_lastBy pairName ps).subset last, (kept_of_mem_lastBy last).2⟩

end Pairs

/-! ## §3. What an operation is compiled to. -/

/-- A field that can be asked for is a part of the operation. -/
theorem part_of_field {o : Operation} {name : String} {v : Value}
    (h : o.declared.field name = .ok v) : o.part name = v := by
  obtain ⟨_, es, mapping, rfl⟩ := Value.field_eq_ok_iff.mp h
  unfold part
  rw [mapping]
  rfl

/-- The answers of the steps that lead from an operation to a tool and a request. -/
structure Steps (c : Context) (o : Operation) (ds : List Value) (properties : Entries)
    (required : List Value) (body : Option Value) (t : Tool) (r : Request) : Prop where
  stated : ∃ own, o.declared.field "parameters" = .ok own
    ∧ own.orElse (.list []) = o.ownParameters
  merged : o.merging.outcome = .ok ds
  properties_eq : parameterProperties [] ds = .ok properties
  required_eq : requiredNames ds = .ok required
  body_eq : bodySchema (o.part "requestBody") = .ok body
  name_eq : Tool.nameFor c.integrationName o.displayName = .ok t.name
  fields_eq : t.requiredFields = (inputProperties properties required body).map (·.1)
  schema_eq : t.inputSchema = .object [
    ("type", .str "object"),
    ("properties", .object (inputProperties properties required body)),
    ("required", .list (t.requiredFields.map .str))]
  read : ds.mapM Parameter.ofOpenApi = .ok r.parameters
  request_eq : r = ⟨o.method, o.path.text, r.parameters, c.baseUrl⟩

/-- A tool and a request that an operation is compiled to, and what they are made of: the
declarations kept of its parameters, the properties and the required names of `params`, and the
schema of its body. -/
structure Built (c : Context) (o : Operation) (kept : List Parameter.Kept) (properties : Entries)
    (required : List Value) (body : Option Value) (t : Tool) (r : Request) : Prop where
  merged : Parameter.Merged kept
  properties_eq : parameterProperties [] (kept.map (·.declaration)) = .ok properties
  required_eq : requiredNames (kept.map (·.declaration)) = .ok required
  body_eq : bodySchema (o.part "requestBody") = .ok body
  name_eq : Tool.nameFor c.integrationName o.displayName = .ok t.name
  fields_eq : t.requiredFields = (inputProperties properties required body).map (·.1)
  schema_eq : t.inputSchema = .object [
    ("type", .str "object"),
    ("properties", .object (inputProperties properties required body)),
    ("required", .list (t.requiredFields.map .str))]
  request_eq : r = ⟨o.method, o.path.text, kept.map (·.parameter), c.baseUrl⟩

theorem displayName_eq {o : Operation} {name : Value}
    (h : Tool.displayNameFor (.str o.method) o.path o.declared = .ok name) :
    o.displayName = name := by
  unfold Tool.displayNameFor at h
  obtain ⟨summary, stated, h⟩ := bind_eq_ok.mp h
  unfold displayName
  rw [part_of_field stated]
  split at h
  next summed =>
    rw [if_pos summed]
    injection h
  next unsummed =>
    rw [if_neg unsummed]
    injection h

/-- Every step of a compilation has an answer. -/
theorem exists_steps_of_compile {c : Context} {o : Operation} {t : Tool} {r : Request}
    (h : o.compile c = .ok (t, r)) :
    ∃ ds properties required body, Steps c o ds properties required body t r := by
  unfold compile operation at h
  simp only [Reported.outcome_bind, Reported.outcome_ofExcept] at h
  obtain ⟨own, stated, h⟩ := bind_eq_ok.mp h
  obtain ⟨ds, merged, h⟩ := bind_eq_ok.mp h
  obtain ⟨properties, properties_eq, h⟩ := bind_eq_ok.mp h
  obtain ⟨required, required_eq, h⟩ := bind_eq_ok.mp h
  obtain ⟨requestBody, with_body, h⟩ := bind_eq_ok.mp h
  obtain ⟨body, body_eq, h⟩ := bind_eq_ok.mp h
  obtain ⟨display, displayed, h⟩ := bind_eq_ok.mp h
  obtain ⟨name, name_eq, h⟩ := bind_eq_ok.mp h
  obtain ⟨description, _, h⟩ := bind_eq_ok.mp h
  obtain ⟨specs, read, h⟩ := bind_eq_ok.mp h
  injection h with h
  obtain ⟨rfl, rfl⟩ := Prod.mk.inj h
  have own_eq : own.orElse (.list []) = o.ownParameters := by
    rw [ownParameters, part_of_field stated]
  refine ⟨ds, properties, required, body, ?_⟩
  constructor
  case stated => exact ⟨own, stated, own_eq⟩
  case merged => rw [merging, ← own_eq, merged]
  case properties_eq => exact properties_eq
  case required_eq => exact required_eq
  case body_eq => rw [part_of_field with_body, body_eq]
  case name_eq => rw [displayName_eq displayed, name_eq]
  case fields_eq => rfl
  case schema_eq => rfl
  case read => exact read
  case request_eq => rfl

/-- **Everything that compiling an operation does.** -/
theorem exists_built_of_compile {c : Context} {o : Operation} {t : Tool} {r : Request}
    (h : o.compile c = .ok (t, r)) :
    ∃ kept properties required body, Built c o kept properties required body t r := by
  obtain ⟨ds, properties, required, body, steps⟩ := exists_steps_of_compile h
  obtain ⟨kept, sound, rfl⟩ := Parameter.exists_merged_of_merge steps.merged
  have parameters : r.parameters = kept.map (·.parameter) := by
    have read := steps.read
    rw [Parameter.mapM_ofOpenApi sound] at read
    injection read with read
    exact read.symm
  refine ⟨kept, properties, required, body, ?_⟩
  constructor
  case merged => exact sound
  case properties_eq => exact steps.properties_eq
  case required_eq => exact steps.required_eq
  case body_eq => exact steps.body_eq
  case name_eq => exact steps.name_eq
  case fields_eq => exact steps.fields_eq
  case schema_eq => exact steps.schema_eq
  case request_eq => rw [← parameters, ← steps.request_eq]

end Operation

end ApiTools
