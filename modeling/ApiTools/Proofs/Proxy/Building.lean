/-
  ApiTools.Proofs.Proxy.Building
  ──────────────────────────────
  **WHY NO MESSAGE IS BUILT.**

  A tool and an integration asked for by texts, with parameters in a mapping:
  then most steps of building a message cannot fail.  Filling in a URL asks
  the parameters for the names that the request declares, and those of
  compiled requests can be keys (`keyNamed_of_load`).  What is left are a tool
  that is not there, a custom integration without an id, a URL that is none, a
  header that is not ASCII and, for plain arguments, a number that cannot be
  written, half of a character and too many levels (`Unbuilt`).

  Main result: `Execution.faultsIn_message`.
-/
import ApiTools.Proofs.Fault
import ApiTools.Proofs.Proxy.Lookup
import ApiTools.Proofs.Proxy.Path
import ApiTools.Proofs.Tool.Plain

namespace ApiTools

open Value (Plain)

/-! ## §1. Names that can be keys. -/

/-- The names of the request's parameters can be keys. -/
def Request.KeyNamed (r : Request) : Prop := ∀ p ∈ r.parameters, p.name.hashable = true

/-- So can those of all requests. -/
def Registry.KeyNamed (r : Registry) : Prop := ∀ e ∈ r.requests, e.2.KeyNamed

theorem Registry.KeyNamed.of_lookup {r : Registry} (h : r.KeyNamed) {name : String}
    {request : Request} (found : r.lookup (.str name) = .ok request) : request.KeyNamed := by
  cases entry : Table.get? name r.requests with
  | none =>
      rw [lookup_of_no_entry entry] at found
      exact absurd found (by simp)
  | some stored =>
      rw [lookup_of_get? entry, Except.ok.injEq] at found
      exact found ▸ h _ (Table.mem_of_get? entry)

theorem Operation.keyNamed_of_compile {c : Compile.Context} {o : Operation} {t : Tool}
    {r : Request} (compiled : o.compile c = .ok (t, r)) : r.KeyNamed := by
  obtain ⟨_, _, _, _, steps⟩ := exists_steps_of_compile compiled
  obtain ⟨_, _, _, _, declared⟩ := Parameter.declared_of_merge steps.merged
  obtain ⟨kept, sound, rfl⟩ := Parameter.exists_merged_of_merge steps.merged
  have parameters := Except.ok.inj (steps.read.symm.trans (Parameter.mapM_ofOpenApi sound))
  intro p mem
  rw [parameters] at mem
  obtain ⟨k, hk, rfl⟩ := List.mem_map.mp mem
  obtain ⟨es, stated⟩ := sound.sound k hk
  -- the name of the parameter is that of the declaration, not that of the key it is kept under
  exact (declared k.declaration (List.mem_map_of_mem hk)).2 _
    (Value.field_of_part stated.part_name)

theorem Loaded.keyNamed_of_pairsOfFile {library : Library} {files : Files} {f : SpecificationFile}
    {ps : List (Tool × Request)} (listed : pairsOfFile library files f = .ok ps) :
    ∀ p ∈ ps, p.2.KeyNamed := by
  intro p mem
  obtain ⟨_, _, listed⟩ := bind_eq_ok.mp listed
  obtain ⟨_, _, compiles⟩ := Operation.forall₂_of_pairs listed
  obtain ⟨o, _, compiled⟩ := Operation.exists_of_mem_pairs compiles mem
  exact Operation.keyNamed_of_compile compiled

/-- **The names in a registry that was loaded can be keys.** -/
theorem Loaded.keyNamed_of_load {settings : LoaderSettings} {library : Library} {files : Files}
    {integrations : List Integration} {loaded : Loaded}
    (done : (load settings library files integrations).outcome = .ok loaded) :
    loaded.registry.KeyNamed := by
  intro e mem
  rw [requests_eq_of_load done] at mem
  obtain ⟨p, hp, rfl⟩ := List.mem_map.mp (Table.mem_of_mem_ofList mem)
  obtain ⟨f, _, from_file⟩ := List.mem_flatMap.mp hp
  cases listed : pairsOfFile library files f with
  | error f =>
      rw [listed] at from_file
      exact absurd from_file List.not_mem_nil
  | ok ps =>
      rw [listed] at from_file
      exact keyNamed_of_pairsOfFile listed p from_file

/-! ## §2. What is left. -/

namespace Execution

/-- **Why no message is built** for arguments with a number of levels by a client that writes no more
than it nests. -/
inductive Unbuilt (nesting levels : Nat) : Fault → Prop
  /-- no tool has the name -/
  | tool (name : String) : Unbuilt nesting levels (.toolNotFound name)
  /-- a custom integration has no id, or a number is none that can be written -/
  | refused (cause : Refusal) : Unbuilt nesting levels (.refused cause)
  /-- half of a character has no octets -/
  | torn : Unbuilt nesting levels .torn
  /-- the arguments nest too deeply to be written -/
  | tooDeep (more : nesting < levels) : Unbuilt nesting levels .tooDeep
  /-- a header is not ASCII -/
  | header (problem : Text.NotAscii) : Unbuilt nesting levels (.unencodable problem)
  /-- the URL of the proxy is none -/
  | url (problem : Http.UrlProblem) : Unbuilt nesting levels (.unusableUrl problem)

variable {nesting levels : Nat}

theorem faultsIn_lookup (r : Registry) (name : String) :
    FaultsIn (Unbuilt nesting levels) (r.lookup (.str name)) := by
  cases entry : Table.get? name r.requests with
  | none =>
      rw [Registry.lookup_of_no_entry entry]
      exact .error (.tool name)
  | some request =>
      rw [Registry.lookup_of_get? entry]
      exact .ok request

/-- An integration with a text as its name has a route, if it has an id where it needs one. -/
theorem faultsIn_route (base project name : String) (id : Value) :
    FaultsIn (Unbuilt nesting levels)
      (Integration.forAction (.str name) id >>= Integration.route base project) := by
  unfold Integration.forAction
  dsimp only
  split
  next =>
    split
    next => exact .error (.refused _)
    next => exact .ok _
  next => exact .ok _

/-! ### The URL. -/

theorem faultsIn_sayInUrl (v : Value) : FaultsIn (Unbuilt nesting levels) v.sayInUrl :=
  .ite (fun _ => .ok _) fun _ => .error (.refused _)

theorem faultsIn_queryPairs {m : Option Nat} {es : Entries} {ps : List Parameter}
    (h : ∀ p ∈ ps, p.name.hashable = true) :
    FaultsIn (Unbuilt nesting levels) (Downstream.queryPairs (.mapping (p := m) es) ps) := by
  induction ps with
  | nil => exact .ok []
  | cons p ps ih =>
      rw [List.forall_mem_cons] at h
      have value : Value.fieldAt? p.name (.mapping (p := m) es) = .ok (Entries.find? p.name es) :=
        if_pos h.1
      have first : FaultsIn (Unbuilt nesting levels)
          (Downstream.queryPair? (.mapping (p := m) es) p) := by
        rw [Downstream.queryPair?, value, ok_bind]
        dsimp only
        split
        next => exact (faultsIn_sayInUrl _).bind fun _ _ => .ok _
        next => exact .ok none
      exact first.bind fun _ _ => (ih h.2).bind fun _ _ => .ok _

theorem faultsIn_pairTexts (p : Value × Value) :
    FaultsIn (Unbuilt nesting levels) (Downstream.pairTexts p) :=
  .ite (fun _ => .error (.refused _)) fun _ => .ite (fun _ => .error .torn) fun _ => .ok _

/-- The URL of a request is filled in from any mapping, but for what cannot be written. -/
theorem faultsIn_url {r : Request} (h : r.KeyNamed) (m : Option Nat) (es : Entries) :
    FaultsIn (Unbuilt nesting levels) (Downstream.url r (.mapping (p := m) es)).outcome := by
  have named : ∀ p ∈ r.queryParameters, p.name.hashable = true :=
    fun p mem => h p (List.mem_of_mem_filter mem)
  have path : FaultsIn (Unbuilt nesting levels)
      (Downstream.resolvePath r.path (.mapping (p := m) es)).outcome := by
    rw [Downstream.resolvePath_mapping]
    exact .ite (fun _ => .ok _) fun _ => .error (.refused _)
  have query : FaultsIn (Unbuilt nesting levels) (Downstream.queryString r (.mapping (p := m) es)) :=
    (faultsIn_queryPairs named).bind fun _ _ =>
      (FaultsIn.mapM fun pair _ => faultsIn_pairTexts pair).bind fun _ _ => .ok _
  exact Reported.faultsIn_bind path fun _ _ => Reported.faultsIn_bind query fun _ _ => .ok _

/-! ### Headers and body. -/

theorem faultsIn_checkHeaders (headers : List (String × String)) :
    FaultsIn (Unbuilt nesting levels) (Http.Message.checkHeaders headers) := by
  have checkAscii : ∀ s, FaultsIn (Unbuilt nesting levels) (Http.Message.checkAscii s) := by
    intro s
    unfold Http.Message.checkAscii
    split
    next => exact .error (.header _)
    next => exact .ok ()
  induction headers with
  | nil => exact .ok ()
  | cons h rest ih => exact (checkAscii h.1).bind fun _ _ => (checkAscii h.2).bind fun _ _ => ih

theorem faultsIn_bodyText {v : Value} (plain : Plain v) (nesting : Nat) :
    FaultsIn (Unbuilt nesting v.depth) (Http.Message.bodyText nesting (some v)) := by
  unfold Http.Message.bodyText
  dsimp only
  split
  next => exact .ite (fun _ => .ok _) fun _ => .error .torn
  next p refused =>
    cases Json.faultsIn_writeAt_of_plain plain 0 p refused with
    | notFinite => exact .error (.refused _)
    | tooManyDigits => exact .error (.refused _)
    | tooDeep more => exact .error (.tooDeep (by rwa [Nat.zero_add] at more))

theorem faultsIn_build {body : Option Value}
    (plain : ∀ v, body = some v → Plain v ∧ v.depth = levels) (client : Http.Client)
    (method url : String) (headers : List (String × String)) :
    FaultsIn (Unbuilt client.writing levels)
      (Http.Message.build client method url headers body) := by
  have written : FaultsIn (Unbuilt client.writing levels)
      (Http.Message.bodyText client.writing body) := by
    cases body with
    | none => exact .ok ""
    | some v =>
        obtain ⟨fit, same⟩ := plain v rfl
        rw [← same]
        exact faultsIn_bodyText fit client.writing
  unfold Http.Message.build
  dsimp only
  split
  next => exact (faultsIn_checkHeaders _).bind fun _ _ => written.bind fun _ _ => .ok _
  next p _ => exact .error (.url p)

/-- **Why no message is built**, for a tool and an integration asked for by texts and plain
arguments with a mapping of parameters. -/
theorem faultsIn_message {r : Registry} (named : r.KeyNamed) (client : Http.Client)
    (settings : ProxySettings) {action : Action} (tool : ∃ name, action.name = .str name)
    (integration : ∃ name, action.integrationName = .str name) {arguments : Arguments}
    (params : ∃ m es, arguments.params = .mapping (p := m) es) (plain : Plain arguments.toValue)
    (credential : Value) :
    FaultsIn (Unbuilt client.writing arguments.toValue.depth)
      (message client r settings action arguments credential).outcome := by
  obtain ⟨tool, tool_eq⟩ := tool
  obtain ⟨integration, integration_eq⟩ := integration
  have mapping : ∃ m es,
      arguments.params.orElse (.mapping (p := none) []) = .mapping (p := m) es := by
    obtain ⟨m, es, params⟩ := params
    rw [params]
    unfold Value.orElse
    split
    next => exact ⟨m, es, rfl⟩
    next => exact ⟨none, [], rfl⟩
  -- integration and route are two steps of a message, but only together do they say which
  -- integrations are routed
  have route : FaultsIn (Unbuilt client.writing arguments.toValue.depth) _ :=
    faultsIn_route settings.baseUrl settings.projectId integration action.integrationId
  unfold message
  rw [tool_eq, integration_eq]
  refine Reported.faultsIn_bind (faultsIn_lookup r tool) fun request found => ?_
  refine Reported.faultsIn_bind (fun f failed => ?_) fun i owner => ?_
  case refine_1 =>
    rw [Reported.outcome_ofExcept] at failed
    exact route f (by rw [failed]; rfl)
  case refine_2 =>
    rw [Reported.outcome_ofExcept] at owner
    rw [owner] at route
    refine Reported.faultsIn_bind route fun proxyUrl _ => ?_
    obtain ⟨m, es, mapping⟩ := mapping
    rw [mapping]
    refine Reported.faultsIn_bind (faultsIn_url (named.of_lookup found) m es) fun u _ => ?_
    refine Reported.faultsIn_bind (.ok ()) fun _ _ => faultsIn_build ?_ _ _ _ _
    intro v some_body
    unfold body at some_body
    split at some_body
    next => exact absurd some_body (by simp)
    next =>
      injection some_body with same
      exact same ▸ ⟨plain, rfl⟩

end Execution

end ApiTools
