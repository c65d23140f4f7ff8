/-
  ApiTools.Proofs.Tool.PathText
  ─────────────────────────────
  **WHICH TEXT A PATH PARAMETER REPLACES.**

  A parameter that is declared for the path stays a parameter of the request,
  as a required one (`exists_parameter_of_declared`).  If its name is made of
  word characters, every occurrence of the name in braces is a token and is
  replaced by the value.  Any other name is no token wherever it stands, so its
  braces stay in the path, and nothing is reported of it
  (`substituted_of_document`).
-/
import ApiTools.Proofs.Tool.PathNames

namespace ApiTools

open Compile

/-! ## §1. Declared path parameters stay. -/

namespace Parameter

/-- A path parameter of a name is kept. -/
def KeepsPath (n : String) (kept : List Kept) : Prop :=
  ∃ k ∈ kept, k.name = .str n ∧ k.location = .str "path"

variable {n : String} {kept kept' : List Kept}

/-- A newer declaration leaves the names and locations that are there. -/
theorem keepsPath_keep (d : Kept) (h : KeepsPath n kept) : KeepsPath n (keep d kept) := by
  induction kept with
  | nil =>
      obtain ⟨k, mem, _⟩ := h
      exact absurd mem (List.not_mem_nil)
  | cons e rest ih =>
      obtain ⟨k, mem, name, location⟩ := h
      rw [keep]
      split
      next =>
        rcases List.mem_cons.mp mem with rfl | later
        · exact ⟨_, List.mem_cons_self, name, location⟩
        · exact ⟨k, List.mem_cons_of_mem _ later, name, location⟩
      next =>
        rcases List.mem_cons.mp mem with rfl | later
        · exact ⟨k, List.mem_cons_self, name, location⟩
        · obtain ⟨k', mem', named⟩ := ih ⟨k, later, name, location⟩
          exact ⟨k', List.mem_cons_of_mem _ mem', named⟩

/-- A declaration is kept itself, or takes the place of one with its name and location. -/
theorem keepsPath_keep_self {d : Kept} (name : d.name = .str n)
    (location : d.location = .str "path") (kept : List Kept) : KeepsPath n (keep d kept) := by
  induction kept with
  | nil => exact ⟨d, List.mem_singleton_self d, name, location⟩
  | cons e rest ih =>
      rw [keep]
      split
      next same =>
        unfold Kept.sameAs at same
        rw [name, location, Bool.and_eq_true, Value.sameKey_str_iff, Value.sameKey_str_iff] at same
        exact ⟨_, List.mem_cons_self, same⟩
      next =>
        obtain ⟨k, mem, named⟩ := ih
        exact ⟨k, List.mem_cons_of_mem _ mem, named⟩

/-- Considering a declaration passes it over or keeps it. -/
theorem consider_eq_ok {method path : String} {declaration : Value}
    (h : (consider method path kept declaration).outcome = .ok kept') :
    kept' = kept ∨ ∃ d, kept' = keep d kept := by
  unfold consider at h
  simp only [Reported.outcome_bind, Reported.outcome_ofExcept] at h
  obtain ⟨name, _, h⟩ := bind_eq_ok.mp h
  obtain ⟨location, _, h⟩ := bind_eq_ok.mp h
  split at h
  next =>
    injection h with h
    exact Or.inl h.symm
  next =>
    split at h
    next =>
      injection h with h
      exact Or.inl h.symm
    next =>
      split at h
      next => exact absurd h (by simp)
      next =>
        injection h with h
        exact Or.inr ⟨_, h.symm⟩

/-- A declaration of a path parameter, as a document writes it. -/
def DeclaresPath (n : String) (declaration : Value) : Prop :=
  ∃ m es, declaration = .mapping (p := m) es ∧ Entries.get? "name" es = some (.str n)
    ∧ Entries.get? "in" es = some (.str "path")

theorem consider_declaresPath {method path : String} {declaration : Value}
    (h : DeclaresPath n declaration) (some_name : n ≠ "") :
    (consider method path kept declaration).outcome
      = .ok (keep ⟨.str n, .str "path", declaration⟩ kept) := by
  obtain ⟨m, es, rfl, name, location⟩ := h
  have named : Value.field "name" (.mapping (p := m) es) = .ok (.str n) := by
    show Except.ok ((Entries.get? "name" es).getD .null) = _
    rw [name, Option.getD_some]
  have located : locationOf (.mapping (p := m) es) = .ok (.str "path") := by
    show Except.ok ((Entries.get? "in" es).getD (.str "query")) = _
    rw [location, Option.getD_some]
  have counts : (Value.str n).truthy = true := by
    simp [Value.truthy, some_name]
  unfold consider
  rw [named, located, Reported.ofExcept_ok_bind, Reported.ofExcept_ok_bind, counts]
  rfl

theorem keepsPath_considerAll {method path : String} {ds : List Value}
    (h : (considerAll method path kept ds).outcome = .ok kept') (some_name : n ≠ "")
    (declared : KeepsPath n kept ∨ ∃ d ∈ ds, DeclaresPath n d) : KeepsPath n kept' := by
  induction ds generalizing kept with
  | nil =>
      injection h with h
      subst h
      rcases declared with keeps | ⟨d, mem, _⟩
      · exact keeps
      · exact absurd mem (List.not_mem_nil)
  | cons d ds ih =>
      rw [considerAll, Reported.outcome_bind] at h
      obtain ⟨next, first, h⟩ := bind_eq_ok.mp h
      -- what is kept stays, and the declaration is kept when its turn comes
      apply ih h
      have after_keeping (keeps : KeepsPath n kept) : KeepsPath n next := by
        rcases consider_eq_ok first with rfl | ⟨k, rfl⟩
        · exact keeps
        · exact keepsPath_keep k keeps
      rcases declared with keeps | ⟨d', mem, declares⟩
      · exact Or.inl (after_keeping keeps)
      · rcases List.mem_cons.mp mem with rfl | later
        · left
          rw [consider_declaresPath declares some_name] at first
          injection first with first
          rw [← first]
          exact keepsPath_keep_self rfl rfl kept
        · exact Or.inr ⟨d', later, declares⟩

end Parameter

namespace Operation

/-- **A declared path parameter stays a parameter of the request**, as a required one. -/
theorem exists_parameter_of_declared {c : Context} {o : Operation} {t : Tool} {r : Request}
    {n : String} (h : o.compile c = .ok (t, r)) (some_name : n ≠ "")
    (declared : ∃ d ∈ o.declarations, Parameter.DeclaresPath n d) :
    ∃ p ∈ r.parameters, p.location = .str "path" ∧ p.name = .str n ∧ p.required = true := by
  obtain ⟨kept, parts⟩ := exists_considered_of_compile h
  obtain ⟨k, mem, name, location⟩ :=
    Parameter.keepsPath_considerAll parts.considered some_name (Or.inr declared)
  obtain ⟨es, sound⟩ := parts.merged.sound k mem
  have in_path := sound.location_parameter.trans location
  rw [parts.parameters_eq]
  exact ⟨k.parameter, List.mem_map_of_mem mem, in_path, sound.name_iff.mpr name,
    k.required_of_path in_path⟩

end Operation

/-! ## §2. Occurrences of a name in braces. -/

namespace Downstream

open Template

/-- Wherever a name stands in braces, a text stands in the resolved path; the parts in front and
behind are resolved on their own.  All of this is so far as the values can be said. -/
def Becomes (path : String) (es : Entries) (n text : String) : Prop :=
  ∀ (m : Option Nat) before after, path = before ++ token n ++ after → ∃ front back,
    (resolvePath before (.mapping (p := m) es)).outcome = saying es (names before) front
      ∧ (resolvePath after (.mapping (p := m) es)).outcome = saying es (names after) back
      ∧ (resolvePath path (.mapping (p := m) es)).outcome
        = saying es (names path) (front ++ text ++ back)

/-- What a value of a declared path parameter does to a path. -/
structure Substituted (path : String) (es : Entries) (n : String) (v : Value) : Prop where
  /-- a name of word characters is replaced by the value wherever it stands in braces -/
  replaced : IsName n.toList → Becomes path es n v.inUrl
  /-- any other name is no name of the path … -/
  not_name : ¬ IsName n.toList → n ∉ names path
  /-- … and stays in its braces wherever it stands, unless it has braces itself -/
  stays : ¬ IsName n.toList → '{' ∉ n.toList ∧ '}' ∉ n.toList → Becomes path es n (token n)

theorem substituted_of_value {es : Entries} {n : String} {v : Value}
    (value : Entries.get? n es = some v) (present : v ≠ .null) (path : String) :
    Substituted path es n v := by
  have stands : standsFor es n = v.inUrl :=
    standsFor_of_given? (given?_eq_some_iff.mpr ⟨value, present⟩)
  constructor
  case replaced =>
    rintro name m before after rfl
    refine ⟨_, _, by rw [resolvePath_mapping], by rw [resolvePath_mapping], ?_⟩
    rw [resolvePath_mapping, substitute_append_token name, stands]
  case not_name => exact fun no_name mem => no_name (isName_of_mem_names mem)
  case stays =>
    rintro no_name plain m before after rfl
    refine ⟨_, _, by rw [resolvePath_mapping], by rw [resolvePath_mapping], ?_⟩
    rw [resolvePath_mapping, substitute_append_text no_name plain]

end Downstream

/-! ## §3. A document. -/

/-- **A DECLARED PATH PARAMETER REPLACES ITS NAME IN BRACES** if the name is made of word
characters, in every document that compiles; any other name stays in the path. -/
theorem substituted_of_document {doc integrationName integrationId : Value} {compiled : Compiled}
    (h : (document doc integrationName integrationId).outcome = .ok compiled) :
    ∃ cs : List Compilation, cs.map (·.1) = Operation.ofDocument doc
      ∧ pairs doc integrationName integrationId = .ok (cs.map (·.2))
      ∧ ∀ c ∈ cs, ∀ n, (∃ d ∈ c.1.declarations, Parameter.DeclaresPath n d) →
          (n ≠ "" → ∃ p ∈ c.2.2.parameters,
            p.location = .str "path" ∧ p.name = .str n ∧ p.required = true)
          ∧ ∀ es v, Entries.get? n es = some v → v ≠ .null →
              Downstream.Substituted c.2.2.path es n v := by
  obtain ⟨baseUrl, _, cs, operations, listed, compiles⟩ := exists_compilations h
  refine ⟨cs, operations, listed, ?_⟩
  intro c mem n declared
  constructor
  · intro some_name
    exact Operation.exists_parameter_of_declared (compiles c mem) some_name declared
  · intro es v value present
    exact Downstream.substituted_of_value value present _

/-! ## §4. Names with and without a hyphen. -/

/-- What a document says of an operation with one path parameter. -/
def singleOperation (name : String) : Value :=
  .object [
    ("summary", .str "Get user"),
    ("parameters", .list [.object [("name", .str name), ("in", .str "path")]])]

/-- A document with one operation, which has one path parameter. -/
def singleDocument (path name : String) : Value :=
  .object [("paths", .object [(path, .object [("get", singleOperation name)])])]

theorem ofDocument_single (path name : String) :
    Operation.ofDocument (singleDocument path name)
      = [⟨.str path, "get", .list [], singleOperation name⟩] := by
  have lower : Text.toLower "get" = "get" := by decide +kernel
  have method : methodOf? (.str "get") (singleOperation name) = .ok (some "get") := by
    unfold methodOf?
    dsimp only
    rw [lower]
    rfl
  have items : Operation.itemsOf (singleDocument path name)
      = [(.str path, .mapping (p := none) [(.str "get", singleOperation name)])] := rfl
  unfold Operation.ofDocument Operation.ofItem
  rw [items, List.flatMap_singleton]
  dsimp only
  rw [List.filterMap_cons_some]
  · rfl
  · unfold Operation.ofKey?
    rw [method]
    rfl

/-- What the document is compiled to. -/
theorem compilation_single {path name : String} {cs : List Compilation}
    (operations : cs.map (·.1) = Operation.ofDocument (singleDocument path name))
    (listed : pairs (singleDocument path name) (.str "shop") .null = .ok (cs.map (·.2)))
    (compiles : ((pairs (singleDocument path name) (.str "shop") .null).map
      (List.map fun p => p.2.path)).toOption = some [path]) :
    ∃ c, cs = [c] ∧ c.2.2.path = path
      ∧ ∃ d ∈ c.1.declarations, Parameter.DeclaresPath name d := by
  rw [ofDocument_single] at operations
  obtain ⟨c, rfl⟩ := List.length_eq_one_iff.mp (by simpa using congrArg List.length operations)
  have first := List.singleton_injective operations
  dsimp only at first
  rw [listed, map_ok, toOption_ok, Option.some.injEq] at compiles
  refine ⟨c, rfl, List.singleton_injective compiles,
    .object [("name", .str name), ("in", .str "path")], ?_, _, _, rfl, rfl, rfl⟩
  rw [first]
  exact List.mem_singleton_self _

theorem exists_compiled_single {path name : String}
    (compiles : ((pairs (singleDocument path name) (.str "shop") .null).map
      (List.map fun p => p.2.path)).toOption = some [path]) :
    ∃ compiled,
      (document (singleDocument path name) (.str "shop") .null).outcome = .ok compiled := by
  cases listed : pairs (singleDocument path name) (.str "shop") .null with
  | error f =>
      rw [listed] at compiles
      exact absurd compiles (by simp)
  | ok ps => exact ⟨_, document_eq_ok_iff.mpr ⟨ps, listed, rfl⟩⟩

/-- The name of a path parameter stands twice in its path, and is replaced twice. -/
theorem substituted_of_document_twice :
    ∃ compiled, (document (singleDocument "/a/\x7bid\x7d-\x7bid\x7d" "id") (.str "shop")
        .null).outcome = .ok compiled
      ∧ Entries.get? "id" [(.str "id", .int 7)] = some (.int 7) ∧ Value.int 7 ≠ .null
      ∧ Downstream.Substituted "/a/\x7bid\x7d-\x7bid\x7d" [(.str "id", .int 7)] "id" (.int 7)
      ∧ (Downstream.resolvePath "/a/\x7bid\x7d-\x7bid\x7d"
          (.mapping (p := none) [(.str "id", .int 7)])).outcome
        = .ok "/a/7-7" := by
  have compiles : ((pairs (singleDocument "/a/\x7bid\x7d-\x7bid\x7d" "id") (.str "shop") .null).map
      (List.map fun p => p.2.path)).toOption = some ["/a/\x7bid\x7d-\x7bid\x7d"] := by
    decide +kernel
  obtain ⟨compiled, accepted⟩ := exists_compiled_single compiles
  obtain ⟨cs, operations, listed, declares⟩ := substituted_of_document accepted
  obtain ⟨c, rfl, path, declared⟩ := compilation_single operations listed compiles
  obtain ⟨_, substitutes⟩ := declares c (List.mem_singleton_self c) "id" declared
  have value : Entries.get? "id" [(.str "id", .int 7)] = some (.int 7) := rfl
  have present : Value.int 7 ≠ .null := by simp
  have substituted := substitutes _ _ value present
  rw [path] at substituted
  exact ⟨compiled, accepted, value, present, substituted, rfl⟩

/-- With a hyphen in its name a declared parameter that has a value is left in the path, and no
warning is given. -/
theorem stays_of_document_hyphen :
    ¬ ∀ doc integrationName integrationId compiled,
        (document doc integrationName integrationId).outcome = .ok compiled →
        ∀ cs : List Compilation, cs.map (·.1) = Operation.ofDocument doc →
          pairs doc integrationName integrationId = .ok (cs.map (·.2)) →
          ∀ c ∈ cs, ∀ n, (∃ d ∈ c.1.declarations, Parameter.DeclaresPath n d) →
            ∀ es v, Entries.get? n es = some v → v ≠ .null →
              Downstream.Becomes c.2.2.path es n v.inUrl
              ∨ ∃ x ∈ (document doc integrationName integrationId).notices
                  ++ (Downstream.resolvePath c.2.2.path (.mapping (p := none) es)).notices,
                  x.level = .warning ∧ Text.contains n x.text = true := by
  intro claimed
  have compiles : ((pairs (singleDocument "/users/\x7buser-id\x7d" "user-id") (.str "shop")
      .null).map (List.map fun p => p.2.path)).toOption = some ["/users/\x7buser-id\x7d"] := by
    decide +kernel
  obtain ⟨compiled, accepted⟩ := exists_compiled_single compiles
  obtain ⟨baseUrl, _, cs, operations, listed, _⟩ := exists_compilations accepted
  obtain ⟨c, rfl, path, declared⟩ := compilation_single operations listed compiles
  have replaced := claimed _ _ _ _ accepted _ operations listed c (List.mem_singleton_self c)
    "user-id" declared [(.str "user-id", .str "42")] (.str "42") rfl (by simp)
  rw [path] at replaced
  rcases replaced with substituted | ⟨x, mem, level, _⟩
  · obtain ⟨front, back, front_eq, back_eq, whole⟩ := substituted none "/users/" "" rfl
    have stays : (Downstream.resolvePath "/users/\x7buser-id\x7d"
        (.mapping (p := none) [(.str "user-id", .str "42")])).outcome
          = .ok "/users/\x7buser-id\x7d" := rfl
    have first : (Downstream.resolvePath "/users/"
        (.mapping (p := none) [(.str "user-id", .str "42")])).outcome = .ok "/users/" := rfl
    have last : (Downstream.resolvePath ""
        (.mapping (p := none) [(.str "user-id", .str "42")])).outcome = .ok "" := rfl
    obtain rfl := Except.ok.inj (first.symm.trans front_eq)
    obtain rfl := Except.ok.inj (last.symm.trans back_eq)
    exact absurd (Except.ok.inj (stays.symm.trans whole)) (by decide)
  · have silent : ((document (singleDocument "/users/\x7buser-id\x7d" "user-id") (.str "shop")
        .null).notices ++ (Downstream.resolvePath "/users/\x7buser-id\x7d"
        (.mapping (p := none) [(.str "user-id", .str "42")])).notices).all (fun x => x.level != .warning)
        = true := by
      decide +kernel
    have no_warning := List.all_eq_true.mp silent x mem
    rw [level] at no_warning
    exact absurd no_warning (by decide)

end ApiTools
