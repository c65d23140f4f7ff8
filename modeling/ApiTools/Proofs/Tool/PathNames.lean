/-
  ApiTools.Proofs.Tool.PathNames
  ──────────────────────────────
  **CHECKED PATHS RESOLVE.**

  Compiling checks that the names in the braces of a path are declared, and
  resolving fills in values for them later.  The check is said here in terms of
  the request alone (`Request.undeclared`).  It is reported for an operation
  exactly if something is undeclared, and if nothing is, a call that gives a
  value to every required parameter gives one to every token, since path
  parameters are required (`pathsChecked_of_document`).
-/
import ApiTools.Proofs.Parameter.Undeclared
import ApiTools.Proofs.Proxy.Path
import ApiTools.Proofs.Tool.Naming
import ApiTools.Proofs.Tool.Notices

namespace ApiTools

open Compile

/-! ## §1. Undeclared names of a request. -/

namespace Request

/-- Has the request a path parameter of a name? -/
def declaresPath (r : Request) (n : String) : Bool :=
  r.parameters.any fun p => p.location.isText "path" && p.name.isText n

/-- The names in the braces of the path that no path parameter has, sorted, each once. -/
def undeclared (r : Request) : List String :=
  (((Template.names r.path).filter fun n => !r.declaresPath n).mergeSort
    fun a b => decide (a ≤ b)).eraseDups

variable {r : Request}

theorem declaresPath_eq_true_iff {n : String} :
    r.declaresPath n = true ↔ ∃ p ∈ r.parameters, p.location = .str "path" ∧ p.name = .str n := by
  unfold declaresPath
  rw [List.any_eq_true]
  simp only [Bool.and_eq_true, Value.isText_eq_true_iff]

theorem mem_undeclared {n : String} :
    n ∈ r.undeclared ↔ n ∈ Template.names r.path
      ∧ ∀ p ∈ r.parameters, p.location = .str "path" → p.name ≠ .str n := by
  unfold undeclared
  rw [List.mem_eraseDups, List.mem_mergeSort, List.mem_filter, Bool.not_eq_true',
    Bool.eq_false_iff, Ne, declaresPath_eq_true_iff]
  simp only [not_exists, not_and]

/-- The parameters that a call has to give are given, and none of them is null. -/
def Supplied (r : Request) (es : Entries) : Prop :=
  ∀ p ∈ r.parameters, p.required = true → ∃ v, Entries.find? p.name es = some v ∧ v ≠ .null

/-- Path parameters are required. -/
def RequiresPath (r : Request) : Prop :=
  ∀ p ∈ r.parameters, p.location = .str "path" → p.required = true

end Request

namespace Downstream

/-- A path without undeclared names is filled in completely, if its values can be said. -/
theorem resolvePath_of_supplied {r : Request} {m : Option Nat} {es : Entries} (requires : r.RequiresPath)
    (declared : r.undeclared = []) (supplied : r.Supplied es) :
    resolvePath r.path (.mapping (p := m) es)
      = ⟨[], saying es (Template.names r.path)
          (Template.substitute (fun n => ((Entries.get? n es).getD .null).inUrl) r.path)⟩ := by
  -- every token has a path parameter, which is required and so has a value
  have filled : ∀ n ∈ Template.names r.path, ∃ v, given? es n = some v := by
    intro n token
    have found : n ∉ r.undeclared := by
      rw [declared]
      exact List.not_mem_nil
    rw [Request.mem_undeclared, not_and] at found
    have some_parameter := found token
    push Not at some_parameter
    obtain ⟨p, mem, location, name⟩ := some_parameter
    obtain ⟨v, given, present⟩ := supplied p mem (requires p mem location)
    rw [name] at given
    exact ⟨v, given?_eq_some_iff.mpr ⟨given, present⟩⟩
  have none_missing : missing es (Template.names r.path) = [] := by
    unfold missing
    rw [List.filter_eq_nil_iff]
    intro n token
    obtain ⟨v, given⟩ := filled n ((List.takeWhile_sublist _).subset token)
    rw [given]
    exact Bool.false_ne_true
  have stands : ∀ n ∈ Template.names r.path,
      standsFor es n = ((Entries.get? n es).getD .null).inUrl := by
    intro n token
    obtain ⟨v, given⟩ := filled n token
    rw [standsFor_of_given? given, (given?_eq_some_iff.mp given).1, Option.getD_some]
  rw [resolvePath_mapping, none_missing, Template.substitute_congr stands]
  rfl

end Downstream

/-! ## §2. What an operation declares. -/

namespace Operation

/-- What the path and the operation declare, in this order. -/
def declarations (o : Operation) : List Value :=
  match o.common.elements, o.ownParameters.elements with
  | .ok declared, .ok added => declared ++ added
  | _, _ => []

/-- The parameters of a request are what is kept of the declarations. -/
structure Considered (o : Operation) (kept : List Parameter.Kept) (r : Request) : Prop where
  considered : (Parameter.considerAll o.method r.path [] o.declarations).outcome = .ok kept
  merged : Parameter.Merged kept
  parameters_eq : r.parameters = kept.map (·.parameter)
  method_eq : r.method = o.method
  notices_eq : o.merging.notices
    = (Parameter.considerAll o.method r.path [] o.declarations).notices
      ++ Parameter.undeclaredNotice o.method r.path (Parameter.undeclaredNames r.path kept)

theorem exists_considered_of_compile {c : Context} {o : Operation} {t : Tool} {r : Request}
    (h : o.compile c = .ok (t, r)) : ∃ kept, o.Considered kept r := by
  obtain ⟨ds, _, _, _, steps⟩ := exists_steps_of_compile h
  obtain ⟨declared, added, template, kept, declared_eq, added_eq, path_eq, considered, rfl,
    notices⟩ := Parameter.exists_kept_of_merge steps.merged
  have merged := Parameter.merged_considerAll Parameter.merged_nil considered
  have all : o.declarations = declared ++ added := by
    unfold declarations
    rw [declared_eq, added_eq]
  have template_eq : r.path = template := by
    rw [steps.request_eq]
    exact path_eq
  refine ⟨kept, ?_⟩
  constructor
  case considered => rw [all, template_eq, considered]
  case merged => exact merged
  case parameters_eq =>
    have read := steps.read
    rw [Parameter.mapM_ofOpenApi merged] at read
    injection read with read
    exact read.symm
  case method_eq => rw [steps.request_eq]
  case notices_eq => rw [merging, notices, all, template_eq]

end Operation

/-! ## §3. The check of one operation. -/

/-- Is the notice about undeclared names of a path? -/
def Notice.isPathCheck : Notice → Bool
  | pathNamesUndeclared .. => true
  | _ => false

theorem ofOperations_isPathCheck : OfOperations Notice.isPathCheck :=
  ⟨fun _ _ _ _ => rfl, fun _ _ _ => rfl⟩

/-- The report on the path of a request, if there is something to report. -/
def Request.pathCheck (r : Request) : Option Notice :=
  if r.undeclared = [] then none
  else some (.pathNamesUndeclared (Text.toUpper r.method) r.path r.undeclared)

theorem Parameter.undeclaredNames_eq {r : Request} {kept : List Kept} (h : Merged kept)
    (parameters : r.parameters = kept.map (·.parameter)) :
    undeclaredNames r.path kept = r.undeclared := by
  have declares : ∀ n, (kept.any fun k => k.location.isText "path" && k.name.isText n)
      = r.declaresPath n := by
    intro n
    rw [Bool.eq_iff_iff, any_declares_iff h, Request.declaresPath_eq_true_iff, parameters]
  unfold undeclaredNames Request.undeclared
  simp only [declares]

/-- An operation reports its undeclared names, and its path parameters are required. -/
theorem pathCheck_of_compile {c : Context} {o : Operation} {t : Tool} {r : Request}
    (h : o.compile c = .ok (t, r)) :
    (o.report c).notices.filter Notice.isPathCheck = r.pathCheck.toList ∧ r.RequiresPath := by
  obtain ⟨kept, parts⟩ := Operation.exists_considered_of_compile h
  constructor
  · -- what was said of locations does not count
    have locations : (Parameter.considerAll o.method r.path [] o.declarations).notices.filter
        Notice.isPathCheck = [] := by
      rw [List.filter_eq_nil_iff]
      intro x mem
      obtain ⟨name, location, rfl⟩ := Parameter.notices_considerAll mem
      exact Bool.false_ne_true
    rw [Operation.notices_report h, parts.notices_eq, List.filter_append, locations,
      List.nil_append, Parameter.undeclaredNames_eq parts.merged parts.parameters_eq]
    unfold Parameter.undeclaredNotice Request.pathCheck
    rw [parts.method_eq]
    cases r.undeclared with
    | nil => rfl
    | cons n ns => rfl
  · intro p mem location
    rw [parts.parameters_eq] at mem
    obtain ⟨k, _, rfl⟩ := List.mem_map.mp mem
    exact k.required_of_path location

/-! ## §4. A document. -/

/-- The operations of a document that compiles, with what they are compiled to. -/
theorem exists_compilations {doc integrationName integrationId : Value} {compiled : Compiled}
    (h : (document doc integrationName integrationId).outcome = .ok compiled) :
    ∃ baseUrl, Server.baseUrl doc = .ok baseUrl ∧ ∃ cs : List Compilation,
      cs.map (·.1) = Operation.ofDocument doc
        ∧ pairs doc integrationName integrationId = .ok (cs.map (·.2))
        ∧ ∀ c ∈ cs, c.1.compile ⟨integrationName, integrationId, baseUrl⟩ = .ok c.2 := by
  obtain ⟨ps, listed, rfl⟩ := document_eq_ok_iff.mp h
  obtain ⟨baseUrl, base, compiles⟩ := Operation.forall₂_of_pairs listed
  have length := compiles.length_eq
  have operations : ((Operation.ofDocument doc).zip ps).map (·.1) = Operation.ofDocument doc :=
    List.map_fst_zip (by omega)
  have given : ((Operation.ofDocument doc).zip ps).map (·.2) = ps :=
    List.map_snd_zip (by omega)
  exact ⟨baseUrl, base, (Operation.ofDocument doc).zip ps, operations, by rw [given, listed],
    fun c hc => List.forall₂_zip compiles hc⟩

/-- What the check of paths says of a document and of calls. -/
structure PathsChecked (cs : List Compilation) (notices : List Notice) : Prop where
  /-- every operation with undeclared names is reported, in order, and no other -/
  reports : notices.filter Notice.isPathCheck = cs.filterMap fun c => c.2.2.pathCheck
  /-- the names are those of the tokens that no path parameter has … -/
  mem_iff : ∀ c ∈ cs, ∀ n, n ∈ c.2.2.undeclared ↔ n ∈ Template.names c.2.2.path
    ∧ ∀ p ∈ c.2.2.parameters, p.location = .str "path" → p.name ≠ .str n
  /-- … sorted, and each once -/
  sorted : ∀ c ∈ cs, c.2.2.undeclared.Pairwise (· < ·)
  /-- without a report, a call that gives what is required fills in every token, if the values can
  be said -/
  resolves : ∀ c ∈ cs, c.2.2.undeclared = [] → ∀ (m : Option Nat) es, c.2.2.Supplied es →
    Downstream.resolvePath c.2.2.path (.mapping (p := m) es)
      = ⟨[], Downstream.saying es (Template.names c.2.2.path)
          (Template.substitute (fun n => ((Entries.get? n es).getD .null).inUrl) c.2.2.path)⟩

/-- **CHECKED PATHS RESOLVE**, in every document that compiles. -/
theorem pathsChecked_of_document {doc integrationName integrationId : Value} {compiled : Compiled}
    (h : (document doc integrationName integrationId).outcome = .ok compiled) :
    ∃ cs : List Compilation, cs.map (·.1) = Operation.ofDocument doc
      ∧ pairs doc integrationName integrationId = .ok (cs.map (·.2))
      ∧ PathsChecked cs (document doc integrationName integrationId).notices := by
  obtain ⟨baseUrl, base, cs, operations, listed, compiles⟩ := exists_compilations h
  obtain ⟨baseUrl', base', notices⟩ := filter_notices_document ofOperations_isPathCheck h
  obtain rfl : baseUrl = baseUrl' := Except.ok.inj (base.symm.trans base')
  refine ⟨cs, operations, listed, ?_⟩
  constructor
  case reports =>
    rw [notices, ← operations, List.flatMap_map, List.filterMap_eq_flatMap_toList]
    apply List.flatMap_congr
    intro c mem
    exact (pathCheck_of_compile (compiles c mem)).1
  case mem_iff => exact fun c mem n => Request.mem_undeclared
  case sorted => exact fun c mem => Parameter.pairwise_lt_sorted _
  case resolves =>
    intro c mem declared m es supplied
    exact Downstream.resolvePath_of_supplied (pathCheck_of_compile (compiles c mem)).2 declared
      supplied

/-! ## §5. A name that is declared elsewhere. -/

/-- The first path has two names, of which one is a query parameter only; the name of the second is
declared for the whole path, as optional. -/
def shopDocument : Value :=
  .object [("paths", .object [
    ("/shops/\x7bshop\x7d/users/\x7buser\x7d", .object [
      ("get", .object [
        ("summary", .str "Get user"),
        ("parameters", .list [
          .object [("name", .str "shop"), ("required", .bool true)],
          .object [("name", .str "user"), ("in", .str "path")]])])]),
    ("/orders/\x7bid\x7d", .object [
      ("parameters", .list [
        .object [("name", .str "id"), ("in", .str "path"), ("required", .bool false)]]),
      ("get", .object [("summary", .str "Get order")])])])]

/-- What the check of a path reports of a pair. -/
def checkShape (p : Tool × Request) : Option (String × List String) :=
  p.2.pathCheck.map fun _ => (p.2.path, p.2.undeclared)

theorem pathsChecked_of_document_shop :
    ∃ compiled, (document shopDocument (.str "shop") .null).outcome = .ok compiled
      ∧ ∃ cs : List Compilation, cs.map (·.1) = Operation.ofDocument shopDocument
          ∧ pairs shopDocument (.str "shop") .null = .ok (cs.map (·.2))
          ∧ PathsChecked cs (document shopDocument (.str "shop") .null).notices
          ∧ cs.map (fun c => checkShape c.2)
            = [some ("/shops/\x7bshop\x7d/users/\x7buser\x7d", ["shop"]), none] := by
  have shape : ((pairs shopDocument (.str "shop") .null).map (List.map checkShape)).toOption
      = some [some ("/shops/\x7bshop\x7d/users/\x7buser\x7d", ["shop"]), none] := by
    decide +kernel
  cases compiles : (document shopDocument (.str "shop") .null).outcome with
  | error e =>
      rw [outcome_document] at compiles
      cases listed : pairs shopDocument (.str "shop") .null with
      | error f =>
          rw [listed] at shape
          exact absurd shape (by simp)
      | ok ps =>
          rw [listed] at compiles
          exact absurd compiles (by simp)
  | ok compiled =>
      obtain ⟨cs, operations, listed, checked⟩ := pathsChecked_of_document compiles
      rw [listed, map_ok, toOption_ok, Option.some.injEq, List.map_map] at shape
      exact ⟨compiled, rfl, cs, operations, listed, checked, shape⟩

end ApiTools
