/-
  ApiTools.Proofs.Tool.Requirements
  ─────────────────────────────────
  **THE NAMES THAT A TOOL'S PARAMETERS REQUIRE.**

  In the schema of `params`, `properties` has an entry for every name and
  `required` lists names.  Both are made from the same declarations, of which
  one is kept for each name and location; but a property has a name and no
  location.  So every required name is a property, and it is listed once for
  each location that requires it (`Requires.occurrences`).

  What an object schema requires is listed once.  So the schema is one exactly
  if no name is required at two locations (`Requires.objectSchema_iff`), and
  there are documents in which a name is
  (`not_isObjectSchema_of_two_locations`).
-/
import ApiTools.Proofs.Tool.Interface
import Mathlib.Data.List.Nodup
import Mathlib.Data.List.Pairwise

namespace ApiTools

open Compile

/-- What stands under a name has the name among the keys. -/
theorem Entries.mem_keys_of_get? {name : String} {v : Value} {es : Entries}
    (h : get? name es = some v) : .str name ∈ keys es := by
  rw [get?, find?, Option.map_eq_some_iff] at h
  obtain ⟨e, found, _⟩ := h
  have same : (Value.str name).sameKey e.1 = true := by
    simpa using List.find?_some found
  have named : e.1 = .str name := Value.sameKey_str_iff.mp same
  rw [← named]
  exact List.mem_map_of_mem (List.mem_of_find?_eq_some found)

/-! ## §1. Object schemas. -/

/-- The schema of the parameters in the input of a tool. -/
def Tool.params? (t : Tool) : Option Value := Entries.get? "params" t.properties

namespace Schema

/-- Is a name one of the properties of a schema? -/
def HasProperty (schema name : Value) : Prop :=
  ∃ k ∈ Entries.keys ((schema.get? "properties").getD .null).entries,
    k = name ∨ name.sameKey k = true

/-- No two of the names are the same key. -/
def DistinctNames (names : List Value) : Prop := names.Pairwise fun m n => m.sameKey n = false

/-- Does a schema list what it requires, each name once and every one a property? -/
def IsObjectSchema (schema : Value) : Prop :=
  ∃ names, schema.get? "required" = some (.list names)
    ∧ DistinctNames names ∧ ∀ n ∈ names, HasProperty schema n

end Schema

open Schema (HasProperty DistinctNames IsObjectSchema)

/-! ## §2. Required names. -/

namespace Parameter

/-- Does some parameter require a name at a location? -/
def requires (ps : List Parameter) (name : Value) (location : String) : Bool :=
  ps.any fun p => p.required && name.sameKey p.name && p.location.isText location

/-- Parameters with locations, no two of which have the same name and location. -/
structure Distinct (ps : List Parameter) : Prop where
  distinct : ps.Pairwise fun p q => p.name.sameKey q.name = true → p.location ≠ q.location
  located : ∀ p ∈ ps, ∃ l ∈ locations, p.location = .str l

variable {ps : List Parameter}

theorem requires_eq_true_iff {name : Value} {location : String} :
    requires ps name location = true
      ↔ ∃ p ∈ ps, p.required = true ∧ name.sameKey p.name = true ∧ p.location = .str location := by
  unfold requires
  simp only [List.any_eq_true, Bool.and_eq_true, Value.isText_eq_true_iff, and_assoc]

/-- Parameters with one name have different locations. -/
theorem Distinct.nodup_locations (h : Distinct ps) (name : Value) :
    ((ps.filter fun p => p.required && name.sameKey p.name).map (·.location)).Nodup := by
  rw [List.Nodup, List.pairwise_map]
  refine (h.distinct.filter _).imp_of_mem ?_
  intro p q hp hq apart
  have p_named := (Bool.and_eq_true_iff.mp (List.mem_filter.mp hp).2).2
  have q_named := (Bool.and_eq_true_iff.mp (List.mem_filter.mp hq).2).2
  exact apart (Value.sameKey_trans (Value.sameKey_symm p_named) q_named)

/-- **A name is required once at each of its locations.** -/
theorem Distinct.count_required (h : Distinct ps) (name : Value) :
    (((ps.filter (·.required)).map (·.name)).countP fun n => name.sameKey n)
      = locations.countP fun l => requires ps name l := by
  -- no location comes twice among those of the parameters that require the name, so they are the
  -- locations that require it, in some order
  have located : ((ps.filter fun p => p.required && name.sameKey p.name).map (·.location)).Perm
      ((locations.filter fun l => requires ps name l).map Value.str) := by
    have texts : ((locations.filter fun l => requires ps name l).map Value.str).Nodup := by
      have names : locations.Nodup := by decide
      exact (names.filter _).map fun _ _ => Value.str.inj
    rw [List.perm_ext_iff_of_nodup (h.nodup_locations name) texts]
    intro location
    simp only [List.mem_map, List.mem_filter, Bool.and_eq_true, requires_eq_true_iff]
    constructor
    · rintro ⟨p, ⟨mem, required, named⟩, rfl⟩
      obtain ⟨l, hl, location_eq⟩ := h.located p mem
      exact ⟨l, ⟨hl, p, mem, required, named, location_eq⟩, location_eq.symm⟩
    · rintro ⟨l, ⟨_, p, mem, required, named, location_eq⟩, rfl⟩
      exact ⟨p, ⟨mem, required, named⟩, location_eq⟩
  have lengths := located.length_eq
  rw [List.length_map, List.length_map] at lengths
  rw [List.countP_map, List.countP_filter, List.countP_eq_length_filter,
    List.countP_eq_length_filter, ← lengths]
  congr 1
  apply List.filter_congr
  intro p _
  exact Bool.and_comm _ _

/-- A required name comes twice exactly if two locations require it. -/
theorem Distinct.distinctNames_iff (h : Distinct ps) :
    DistinctNames ((ps.filter (·.required)).map (·.name))
      ↔ ∀ p ∈ ps, ∀ q ∈ ps, p.required = true → q.required = true →
          p.name.sameKey q.name = true → p.location = q.location := by
  unfold DistinctNames
  rw [List.pairwise_map]
  constructor
  · -- a parameter is not listed beside itself: if the locations differ, two names have been listed
    intro once p hp q hq p_required q_required same
    by_contra apart
    have different : p ≠ q := fun equal => apart (by rw [equal])
    have symmetric : Std.Symm fun p q : Parameter => p.name.sameKey q.name = false := by
      constructor
      intro a b other
      rw [Bool.eq_false_iff] at other ⊢
      exact fun same => other (Value.sameKey_symm same)
    have other := once.forall (List.mem_filter.mpr ⟨hp, p_required⟩)
      (List.mem_filter.mpr ⟨hq, q_required⟩) different
    rw [same] at other
    exact absurd other (by simp)
  · intro one_location
    refine (h.distinct.filter _).imp_of_mem ?_
    intro p q hp hq apart
    obtain ⟨hp, p_required⟩ := List.mem_filter.mp hp
    obtain ⟨hq, q_required⟩ := List.mem_filter.mp hq
    rw [Bool.eq_false_iff]
    exact fun same => apart same (one_location p hp q hq p_required q_required same)

end Parameter

/-! ## §3. The schema of `params`. -/

/-- What the schema of `params` requires of the parameters of a request. -/
structure Requires (schema : Value) (ps : List Parameter) (names : List Value) : Prop where
  listed : schema.get? "required" = some (.list names)
  property : ∀ n ∈ names, HasProperty schema n
  /-- a name is listed as often as there are locations that require it … -/
  occurrences : ∀ name, (names.countP fun n => name.sameKey n)
    = Parameter.locations.countP fun l => Parameter.requires ps name l
  /-- … so the schema is an object schema unless two locations require one name -/
  objectSchema_iff : IsObjectSchema schema
    ↔ ∀ p ∈ ps, ∀ q ∈ ps, p.required = true → q.required = true →
        p.name.sameKey q.name = true → p.location = q.location

/-- If what a schema requires are properties, all that counts is that no name comes twice. -/
theorem isObjectSchema_iff {schema : Value} {names : List Value}
    (listed : schema.get? "required" = some (.list names))
    (property : ∀ n ∈ names, HasProperty schema n) :
    IsObjectSchema schema ↔ DistinctNames names := by
  constructor
  · rintro ⟨names', listed', distinct, _⟩
    rw [listed, Option.some.injEq, Value.list.injEq] at listed'
    rwa [listed']
  · exact fun distinct => ⟨names, listed, distinct, property⟩

theorem requires_of_describes {schema : Value} {ps : List Parameter}
    (distinct : Parameter.Distinct ps) (h : DescribesParameters schema ps) :
    ∃ names, Requires schema ps names := by
  have property : ∀ n ∈ (ps.filter (·.required)).map (·.name), HasProperty schema n := by
    intro n mem
    obtain ⟨p, required, rfl⟩ := List.mem_map.mp mem
    exact h.key_of_name p (List.mem_filter.mp required).1
  refine ⟨_, h.required_eq, property, distinct.count_required, ?_⟩
  rw [isObjectSchema_iff h.required_eq property]
  exact distinct.distinctNames_iff

/-- **REQUIRED NAMES ARE PROPERTIES, AND EACH IS LISTED ONCE FOR EVERY LOCATION THAT REQUIRES IT.**
A tool of a document that compiles has a schema of `params` if its request has parameters, and the
schema is an object schema exactly if no two locations require one name. -/
theorem required_of_document {doc integrationName integrationId : Value} {compiled : Compiled}
    (h : (document doc integrationName integrationId).outcome = .ok compiled) :
    ∃ ps, pairs doc integrationName integrationId = .ok ps
      ∧ compiled = Compiled.ofPairs integrationName ps
      ∧ ∀ p ∈ ps,
          (p.1.params? = none ∧ p.2.parameters = [])
            ∨ ∃ schema names, p.1.params? = some schema
                ∧ Requires schema p.2.parameters names := by
  obtain ⟨ps, listed, rfl⟩ := document_eq_ok_iff.mp h
  refine ⟨ps, listed, rfl, fun p mem => ?_⟩
  obtain ⟨_, _, compiles⟩ := Operation.forall₂_of_pairs listed
  obtain ⟨o, _, compiled_to⟩ := Operation.exists_of_mem_pairs compiles mem
  obtain ⟨_, _, _, _, built⟩ := Operation.exists_built_of_compile compiled_to
  have interface := interface_of_built built
  by_cases none : p.2.parameters = []
  case pos =>
    left
    refine ⟨?_, none⟩
    cases found : p.1.params? with
    | none => rfl
    | some schema =>
        -- the keys of the properties are the required fields, and `params` is none of them
        have key := Entries.mem_keys_of_get? found
        rw [interface.keys_eq, List.mem_map_of_injective (fun _ _ => Value.str.inj)] at key
        exact absurd none (interface.params_iff.mp key)
  case neg =>
    right
    obtain ⟨schema, found, describes⟩ := interface.params none
    obtain ⟨names, requires⟩ :=
      requires_of_describes ⟨interface.distinct, interface.located⟩ describes
    exact ⟨schema, names, found, requires⟩

/-! ## §4. One name at three locations. -/

/-- A path that declares a parameter in itself and in the query, and two operations: one that
leaves the two as they are, and one that needs the second one too, and a third in a header. -/
def ticketsDocument : Value :=
  .object [("paths", .object [("/tickets/\x7bid\x7d", .object [
    ("parameters", .list [
      .object [("name", .str "id"), ("in", .str "path")],
      .object [("name", .str "id"), ("in", .str "query"), ("required", .bool false)]]),
    ("get", .object [("summary", .str "Get ticket")]),
    ("put", .object [
      ("summary", .str "Move ticket"),
      ("parameters", .list [
        .object [("name", .str "id"), ("required", .bool true)],
        .object [("name", .str "to"), ("in", .str "header"), ("required", .bool true)],
        .object [("name", .str "id"), ("in", .str "header"), ("required", .bool true)]])])])])]

instance (names : List Value) : Decidable (DistinctNames names) :=
  inferInstanceAs (Decidable (List.Pairwise _ _))

/-- The names that the parameters of a tool require. -/
def Tool.requiredParams (t : Tool) : List Value :=
  match t.params?.bind (·.get? "required") with
  | some (.list names) => names
  | _ => []

/-- A tool whose parameters require a name twice has a schema for them, which is no object
schema. -/
theorem Tool.exists_params_of_repeated {t : Tool} (h : ¬ DistinctNames t.requiredParams) :
    ∃ schema, t.params? = some schema ∧ ¬ IsObjectSchema schema := by
  cases found : t.params? with
  | none =>
      have nothing : t.requiredParams = [] := by
        unfold requiredParams
        rw [found]
        rfl
      rw [nothing] at h
      exact absurd List.Pairwise.nil h
  | some schema =>
      refine ⟨schema, rfl, ?_⟩
      rintro ⟨names, listed, distinct, _⟩
      have all : t.requiredParams = names := by
        unfold requiredParams
        rw [found, Option.bind_some, listed]
      rw [all] at h
      exact h distinct

/-- What is required by the parameters of a tool, and whether each name is listed once. -/
def Tool.requiredShape (t : Tool) : List String × Bool :=
  (t.requiredParams.map (·.text), decide (DistinctNames t.requiredParams))

theorem exists_pairs_tickets :
    ∃ ps, pairs ticketsDocument (.str "desk") .null = .ok ps
      ∧ ps.map (fun p => p.1.requiredShape)
        = [(["id"], true), (["id", "id", "to", "id"], false)] := by
  have shape : ((pairs ticketsDocument (.str "desk") .null).map
      (List.map fun p => p.1.requiredShape)).toOption
        = some [(["id"], true), (["id", "id", "to", "id"], false)] := by
    decide +kernel
  cases listed : pairs ticketsDocument (.str "desk") .null with
  | error e =>
      rw [listed] at shape
      exact absurd shape (by simp)
  | ok ps =>
      rw [listed, map_ok, toOption_ok, Option.some.injEq] at shape
      exact ⟨ps, rfl, shape⟩

/-- One operation requires the name at its path only, the other one at all three locations. -/
theorem required_of_document_tickets :
    ∃ compiled ps, (document ticketsDocument (.str "desk") .null).outcome = .ok compiled
      ∧ compiled = Compiled.ofPairs (.str "desk") ps
      ∧ ps.map (fun p => p.1.requiredShape)
        = [(["id"], true), (["id", "id", "to", "id"], false)]
      ∧ ∀ p ∈ ps,
          (p.1.params? = none ∧ p.2.parameters = [])
            ∨ ∃ schema names, p.1.params? = some schema
                ∧ Requires schema p.2.parameters names := by
  obtain ⟨ps, listed, shape⟩ := exists_pairs_tickets
  have compiles := document_eq_ok_iff.mpr ⟨ps, listed, rfl⟩
  obtain ⟨ps', listed', same, requires⟩ := required_of_document compiles
  rw [listed] at listed'
  injection listed' with equal
  subst equal
  exact ⟨_, ps, compiles, same, shape, requires⟩

/-- **A NAME THAT TWO LOCATIONS REQUIRE IS LISTED TWICE**, and what lists a name twice is no object
schema. -/
theorem not_isObjectSchema_of_two_locations :
    ∃ compiled, (document ticketsDocument (.str "desk") .null).outcome = .ok compiled
      ∧ ∃ t ∈ compiled.tools, ∃ schema, t.params? = some schema ∧ ¬ IsObjectSchema schema := by
  have shapes : ((document ticketsDocument (.str "desk") .null).outcome.map
      fun compiled => compiled.tools.map (·.requiredShape)).toOption
        = some [(["id"], true), (["id", "id", "to", "id"], false)] := by
    decide +kernel
  cases compiles : (document ticketsDocument (.str "desk") .null).outcome with
  | error e =>
      rw [compiles] at shapes
      exact absurd shapes (by simp)
  | ok compiled =>
      rw [compiles, map_ok, toOption_ok, Option.some.injEq] at shapes
      have second : (["id", "id", "to", "id"], false) ∈ compiled.tools.map (·.requiredShape) := by
        rw [shapes]
        exact List.mem_cons_of_mem _ List.mem_cons_self
      obtain ⟨t, mem, shape⟩ := List.mem_map.mp second
      have repeated : ¬ DistinctNames t.requiredParams :=
        of_decide_eq_false (Prod.mk.inj shape).2
      exact ⟨compiled, rfl, t, mem, t.exists_params_of_repeated repeated⟩

end ApiTools
