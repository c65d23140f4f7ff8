/-
  ApiTools.Proofs.Tool.Plain
  ──────────────────────────
  **TOOLS OF PLAIN DOCUMENTS ARE PLAIN.**

  Values travel from a document into the descriptors of its tools: names and
  schemas of parameters, the schema of the body.  Descriptions are texts
  whatever they were made of.  So the descriptor of a tool holds nothing that
  JSON lacks if its document and the id of its integration hold nothing of the
  kind (`Compile.plain_toValue_of_document`).
-/
import ApiTools.Proofs.Schema.Plain
import ApiTools.Proofs.Tool.Operations

namespace ApiTools

open Value (Plain PlainKey plain_list_iff plain_mapping_iff)

/-- What stands under a name is a part and a field. -/
theorem Value.field_of_part {name : String} {v w : Value} (h : v.part name = .ok w) :
    v.field name = .ok w := by
  have found := get?_of_part h
  cases v with
  | mapping es =>
      refine field_eq_ok_iff.mpr ⟨_, es, rfl, ?_⟩
      rw [show Entries.get? name es = some w from found, Option.getD_some]
  | _ => exact absurd h (by simp [Value.part])

/-! ## §1. Declarations of parameters. -/

namespace Parameter

/-- A plain declaration whose name can be a key. -/
structure Usable (declaration : Value) : Prop where
  plain : Plain declaration
  name_hashable : KeyNamed declaration

/-- Of plain declarations those with a name that can be a key are kept. -/
theorem usable_of_merge {common own path : Value} {method : String} {ds : List Value}
    (plain_common : Plain common) (plain_own : Plain own)
    (h : (merge common own method path).outcome = .ok ds) : ∀ d ∈ ds, Usable d := by
  obtain ⟨declared, added, of_path, of_operation, kept⟩ := declared_of_merge h
  have plain : ∀ d ∈ declared ++ added, Plain d :=
    List.forall_mem_append.mpr
      ⟨Value.plain_of_elements plain_common of_path, Value.plain_of_elements plain_own of_operation⟩
  exact fun d mem => ⟨plain d (kept d mem).1, (kept d mem).2⟩

/-- The name of a declaration is the key of its property. -/
theorem Usable.plainKey_of_part {d name : Value} (h : Usable d) (part : d.part "name" = .ok name) :
    PlainKey name :=
  (Value.plain_of_part h.plain part).key (h.name_hashable name (Value.field_of_part part))

end Parameter

/-! ## §2. The parts of a schema. -/

namespace Compile

open Parameter (Usable)

variable {ds : List Value}

theorem plain_of_parameterProperties {p : Option Nat} {acc properties : Entries}
    (h : ∀ d ∈ ds, Usable d) (before : Plain (.mapping (p := p) acc))
    (made : parameterProperties acc ds = .ok properties) : Plain (.mapping (p := p) properties) := by
  induction ds generalizing acc with
  | nil =>
      injection made with made
      rwa [← made]
  | cons d ds ih =>
      rw [List.forall_mem_cons] at h
      unfold parameterProperties at made
      obtain ⟨name, part, made⟩ := bind_eq_ok.mp made
      obtain ⟨schema, of_parameter, made⟩ := bind_eq_ok.mp made
      exact ih h.2 (Entries.plain_insert before (h.1.plainKey_of_part part)
        (Schema.plain_of_ofParameter h.1.plain of_parameter)) made

theorem plain_of_requiredNames {names : List Value} (h : ∀ d ∈ ds, Usable d)
    (made : requiredNames ds = .ok names) : ∀ n ∈ names, Plain n := by
  induction ds generalizing names with
  | nil =>
      injection made with made
      rw [← made]
      exact fun n mem => absurd mem List.not_mem_nil
  | cons d ds ih =>
      rw [List.forall_mem_cons] at h
      unfold requiredNames at made
      obtain ⟨required, _, made⟩ := bind_eq_ok.mp made
      obtain ⟨location, _, made⟩ := bind_eq_ok.mp made
      obtain ⟨others, rest, made⟩ := bind_eq_ok.mp made
      split at made
      next =>
        obtain ⟨name, part, made⟩ := bind_eq_ok.mp made
        injection made with made
        rw [← made, List.forall_mem_cons]
        exact ⟨(h.1.plainKey_of_part part).plain, ih h.2 rest⟩
      next =>
        injection made with made
        rw [← made]
        exact ih h.2 rest

theorem plain_objectSchema {properties : Entries} {required : List Value}
    (hp : Plain (.mapping (p := none) properties)) (hr : ∀ n ∈ required, Plain n) :
    Plain (objectSchema properties required) := by
  apply Value.plain_object
  simp only [List.forall_mem_cons]
  exact ⟨.str "object", hp, .list hr, fun f mem => absurd mem List.not_mem_nil⟩

theorem plain_inputProperties {params : Entries} {required : List Value} {body : Option Value}
    (hp : Plain (.mapping (p := none) params)) (hr : ∀ n ∈ required, Plain n)
    (hb : ∀ v, body = some v → Plain v) :
    ∀ f ∈ inputProperties params required body, Plain f.2 := by
  unfold inputProperties
  refine List.forall_mem_append.mpr ⟨?_, ?_⟩
  · split
    next => exact fun f mem => absurd mem List.not_mem_nil
    next =>
      intro f mem
      rw [List.mem_singleton.mp mem]
      exact plain_objectSchema hp hr
  · split
    next schema =>
      split
      next =>
        intro f mem
        rw [List.mem_singleton.mp mem]
        exact hb schema rfl
      next => exact fun f mem => absurd mem List.not_mem_nil
    next => exact fun f mem => absurd mem List.not_mem_nil

end Compile

/-! ## §3. Operations. -/

namespace Operation

open Compile

/-- What the document says about the operation is plain. -/
structure IsPlain (o : Operation) : Prop where
  common : Plain o.common
  declared : Plain o.declared

theorem plain_of_get? {v w : Value} {name : String} (h : Plain v) (found : v.get? name = some w) :
    Plain w := by
  cases h with
  | mapping keys values => exact Entries.plain_get? (p := none) (.mapping keys values) found
  | _ => exact absurd found (by simp [Value.get?, Value.entries, Entries.get?, Entries.find?])

theorem plain_getD_get? {v : Value} (h : Plain v) (name : String) :
    Plain ((v.get? name).getD .null) := by
  cases found : v.get? name with
  | none => exact .null
  | some w => exact plain_of_get? h found

theorem isPlain_of_mem_ofDocument {doc : Value} {o : Operation} (h : Plain doc)
    (mem : o ∈ ofDocument doc) : o.IsPlain := by
  unfold ofDocument itemsOf at mem
  obtain ⟨e, he, mem⟩ := List.mem_flatMap.mp mem
  have plain_paths : Plain (((doc.get? "paths").getD .null).orElse (.mapping (p := none) [])) :=
    (plain_getD_get? h "paths").orElse .empty
  have plain_item : Plain e.2 := by
    cases paths : ((doc.get? "paths").getD .null).orElse (.mapping (p := none) []) with
    | mapping es =>
        rw [paths] at he plain_paths
        exact (plain_mapping_iff.mp plain_paths e he).2
    | _ =>
        rw [paths] at he
        exact absurd he List.not_mem_nil
  unfold ofItem at mem
  split at mem
  next es item =>
    rw [item] at plain_item
    obtain ⟨d, hd, operation⟩ := List.mem_filterMap.mp mem
    unfold ofKey? at operation
    split at operation
    next =>
      injection operation with operation
      rw [← operation]
      exact ⟨(Entries.plain_getD plain_item "parameters").orElse (.list fun x mem =>
        absurd mem List.not_mem_nil), (plain_mapping_iff.mp plain_item d hd).2⟩
    next => exact absurd operation (by simp)
  next => exact absurd mem List.not_mem_nil

theorem IsPlain.part {o : Operation} (h : o.IsPlain) (name : String) : Plain (o.part name) :=
  plain_getD_get? h.declared name

/-- **The tool of a plain operation is plain.** -/
theorem plain_inputSchema_of_compile {c : Context} {o : Operation} {t : Tool} {r : Request}
    (h : o.IsPlain) (compiled : o.compile c = .ok (t, r)) : Plain t.inputSchema := by
  obtain ⟨ds, properties, required, body, steps⟩ := exists_steps_of_compile compiled
  have own : Plain o.ownParameters :=
    (h.part "parameters").orElse (.list fun x mem => absurd mem List.not_mem_nil)
  have usable := Parameter.usable_of_merge h.common own steps.merged
  have plain_properties := plain_of_parameterProperties (p := none) usable .empty steps.properties_eq
  have plain_required := plain_of_requiredNames usable steps.required_eq
  have plain_body : ∀ v, body = some v → Plain v := by
    rintro v rfl
    exact plain_of_bodySchema (h.part "requestBody") steps.body_eq
  rw [steps.schema_eq]
  apply Value.plain_object
  simp only [List.forall_mem_cons]
  exact ⟨.str "object",
    Value.plain_object (plain_inputProperties plain_properties plain_required plain_body),
    .list (Value.plain_texts t.requiredFields), fun f mem => absurd mem List.not_mem_nil⟩

theorem integrationId_of_compile {c : Context} {o : Operation} {t : Tool} {r : Request}
    (compiled : o.compile c = .ok (t, r)) : t.integrationId = c.integrationId := by
  unfold compile operation at compiled
  simp only [Reported.outcome_bind, Reported.outcome_ofExcept] at compiled
  iterate 10 obtain ⟨_, _, compiled⟩ := bind_eq_ok.mp compiled
  injection compiled with compiled
  rw [← (Prod.mk.inj compiled).1]

end Operation

/-- A descriptor is plain if the id and the schema in it are. -/
theorem Tool.plain_toValue {t : Tool} (id : Plain t.integrationId) (schema : Plain t.inputSchema) :
    Plain t.toValue := by
  apply Value.plain_object
  simp only [List.forall_mem_cons]
  exact ⟨.bool true, .str _, id, .str _, .str _, schema, .list (Value.plain_texts t.requiredFields),
    fun f mem => absurd mem List.not_mem_nil⟩

/-- **Tools of plain documents are plain.** -/
theorem Compile.plain_toValue_of_document {doc integrationName integrationId : Value}
    {compiled : Compiled} (h : Plain doc) (id : Plain integrationId)
    (done : (document doc integrationName integrationId).outcome = .ok compiled) :
    ∀ t ∈ compiled.tools, Plain t.toValue := by
  obtain ⟨ps, listed, rfl⟩ := document_eq_ok_iff.mp done
  obtain ⟨baseUrl, _, compiles⟩ := Operation.forall₂_of_pairs listed
  intro t mem
  obtain ⟨r, pair, _⟩ := Operation.exists_pair_of_mem_tools mem
  obtain ⟨o, ho, made⟩ := Operation.exists_of_mem_pairs compiles pair
  refine Tool.plain_toValue ?_ ?_
  · rw [Operation.integrationId_of_compile made]
    exact id
  · exact Operation.plain_inputSchema_of_compile (Operation.isPlain_of_mem_ofDocument h ho) made

end ApiTools
