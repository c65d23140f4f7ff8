/-
  ApiTools.Proofs.Proxy.Relevance
  ───────────────────────────────
  **ONLY WHAT A REQUEST DECLARES REACHES ITS URL.**

  A request reads its parameters under the names in its path and under the
  names of its query parameters, and nowhere else.  Two mappings that agree
  there (`AgreeFor`) give the same path, the same query, the same notices and
  the same URL (`url_congr`), whatever else is in them: names that no parameter
  declares, and names declared for a header or a cookie only.

  Parameters and body of a call go into the content of its message, and a
  message with the method GET has no content.  Calls of such a tool are told
  apart by their URL only (`undeclared_parameters_irrelevant`).
-/
import ApiTools.Proofs.Proxy.Lookup
import ApiTools.Proofs.Proxy.Query

namespace ApiTools

namespace Downstream

/-! ## §1. What a request reads. -/

/-- Do two mappings agree where a request reads its parameters? -/
structure AgreeFor (r : Request) (es fs : Entries) : Prop where
  path : ∀ n ∈ Template.names r.path, Entries.get? n es = Entries.get? n fs
  query : ∀ p ∈ r.parameters, p.location = .str "query" →
    Entries.find? p.name es = Entries.find? p.name fs

variable {m n : Option Nat} {r : Request} {es fs : Entries}

/-- The names without a value follow from the values of the names. -/
theorem missing_congr {ns : List String} (agree : ∀ n ∈ ns, given? es n = given? fs n) :
    missing es ns = missing fs ns := by
  unfold missing
  induction ns with
  | nil => rfl
  | cons n ns ih =>
      obtain ⟨first, others⟩ := List.forall_mem_cons.mp agree
      rw [List.takeWhile_cons, List.takeWhile_cons, said, said, first]
      cases (given? fs n).all Value.isSayable with
      | false => rfl
      | true => rw [if_pos rfl, if_pos rfl, List.filter_cons, List.filter_cons, first, ih others]

theorem saying_congr {ns : List String} {text : String}
    (agree : ∀ n ∈ ns, given? es n = given? fs n) : saying es ns text = saying fs ns text := by
  have same : ns.all (said es) = ns.all (said fs) := by
    rw [Bool.eq_iff_iff, List.all_eq_true, List.all_eq_true]
    exact forall₂_congr fun n mem => by rw [said, said, agree n mem]
  rw [saying, saying, same]

/-- A path reads its names only. -/
theorem resolvePath_congr {template : String}
    (agree : ∀ n ∈ Template.names template, Entries.get? n es = Entries.get? n fs) :
    resolvePath template (.mapping (p := m) es) = resolvePath template (.mapping (p := n) fs) := by
  have given : ∀ n ∈ Template.names template, given? es n = given? fs n := by
    intro n mem
    rw [given?, given?, agree n mem]
  have texts : ∀ n ∈ Template.names template, standsFor es n = standsFor fs n := by
    intro n mem
    rw [standsFor, standsFor, given n mem]
  rw [resolvePath_mapping, resolvePath_mapping, missing_congr given, saying_congr given,
    Template.substitute_congr texts]

/-- A query parameter reads its name only. -/
theorem queryPair?_congr {p : Parameter}
    (agree : Entries.find? p.name es = Entries.find? p.name fs) :
    queryPair? (.mapping (p := m) es) p = queryPair? (.mapping (p := n) fs) p := by
  unfold queryPair? Value.fieldAt?
  dsimp only
  rw [agree]

theorem queryPairs_congr {ps : List Parameter}
    (agree : ∀ p ∈ ps, Entries.find? p.name es = Entries.find? p.name fs) :
    queryPairs (.mapping (p := m) es) ps = queryPairs (.mapping (p := n) fs) ps := by
  induction ps with
  | nil => rfl
  | cons p ps ih =>
      obtain ⟨first, others⟩ := List.forall_mem_cons.mp agree
      rw [queryPairs, queryPairs, queryPair?_congr first, ih others]

theorem queryString_congr (agree : AgreeFor r es fs) :
    queryString r (.mapping (p := m) es) = queryString r (.mapping (p := n) fs) := by
  have declared : ∀ p ∈ r.queryParameters, Entries.find? p.name es = Entries.find? p.name fs := by
    intro p mem
    obtain ⟨mem, location⟩ := List.mem_filter.mp mem
    exact agree.query p mem (Value.isText_eq_true_iff.mp location)
  rw [queryString, queryString, queryPairs_congr declared]

/-- **A downstream URL follows from what its request reads**, and so do its notices. -/
theorem url_congr (agree : AgreeFor r es fs) :
    url r (.mapping (p := m) es) = url r (.mapping (p := n) fs) := by
  rw [url, url, resolvePath_congr agree.path, queryString_congr agree]

end Downstream

namespace Execution

open Downstream (AgreeFor url_congr)

/-! ## §2. What a message reads. -/

/-- Does a call ask for a request with these parameters?  Parameters that count as absent are the
empty mapping. -/
structure Asks (registry : Registry) (wanted : Wanted) (action : Action) (request : Request)
    (es : Entries) : Prop where
  read : ∃ arguments m, wanted.read = .ok (action, arguments)
    ∧ arguments.params.orElse (.mapping (p := none) []) = .mapping (p := m) es
  found : registry.lookup action.name = .ok request

section Message

variable {client : Http.Client} {registry : Registry} {settings : ProxySettings}
  {credential : Value} {action : Action} {request : Request} {m n : Option Nat} {es fs : Entries}

/-- A message with the method GET does not hold its arguments. -/
theorem messageFor_congr {x y : Arguments} (get : Text.toUpper request.method = "GET")
    (x_params : x.params.orElse (.mapping (p := none) []) = .mapping (p := m) es)
    (y_params : y.params.orElse (.mapping (p := none) []) = .mapping (p := n) fs)
    (agree : AgreeFor request es fs) :
    messageFor client request settings action x credential
      = messageFor client request settings action y credential := by
  have no_body : ∀ a : Arguments, body "GET" a = none := fun _ => if_pos rfl
  unfold messageFor
  simp only [get, no_body, x_params, y_params, url_congr (m := m) (n := n) agree]

theorem Call.message_congr {w₁ w₂ : Wanted} (get : Text.toUpper request.method = "GET")
    (asks₁ : Asks registry w₁ action request es) (asks₂ : Asks registry w₂ action request fs)
    (agree : AgreeFor request es fs) :
    Call.message ⟨settings, w₁, credential⟩ client registry
      = Call.message ⟨settings, w₂, credential⟩ client registry := by
  obtain ⟨x, _, read_x, x_params⟩ := asks₁.read
  obtain ⟨y, _, read_y, y_params⟩ := asks₂.read
  rw [Call.message_eq_bind, Call.message_eq_bind, read_x, read_y]
  simp only [Reported.ofExcept_ok_bind, Execution.message_eq_bind, asks₁.found]
  exact messageFor_congr get x_params y_params agree

end Message

/-- **UNDECLARED PARAMETERS DO NOT REACH A URL, NOR ANY PART OF A GET MESSAGE.**  For every request,
mappings that agree where it reads give one URL with the same notices; and calls of one action
behind which there is a GET give one message, though their other parameters and their bodies
differ. -/
theorem undeclared_parameters_irrelevant :
    (∀ (request : Request) (m n : Option Nat) (es fs : Entries), AgreeFor request es fs →
      Downstream.url request (.mapping (p := m) es) = Downstream.url request (.mapping (p := n) fs))
    ∧ ∀ (client : Http.Client) (registry : Registry) (settings : ProxySettings)
        (credential : Value) (action : Action) (request : Request) (w₁ w₂ : Wanted)
        (es fs : Entries),
      Asks registry w₁ action request es → Asks registry w₂ action request fs →
      Text.toUpper request.method = "GET" → AgreeFor request es fs →
      Call.message ⟨settings, w₁, credential⟩ client registry
        = Call.message ⟨settings, w₂, credential⟩ client registry := by
  constructor
  · intro request m n es fs agree
    exact url_congr agree
  · intro client registry settings credential action request w₁ w₂ es fs asks₁ asks₂ get agree
    exact Call.message_congr get asks₁ asks₂ agree

/-! ## §3. Letters, with a header and cookies. -/

/-- A request with a parameter in every location, and one name in two of them. -/
def lettersRequest : Request where
  method := "get"
  path := "/users/\x7bid\x7d/letters"
  parameters := [
    ⟨.str "id", .str "path", true⟩,
    ⟨.str "page", .str "query", false⟩,
    ⟨.str "trace", .str "header", false⟩,
    ⟨.str "page", .str "cookie", false⟩,
    ⟨.str "session", .str "cookie", true⟩]
  baseUrl := .str "https://mail.test"

def lettersRegistry : Registry := ⟨[("LETTERS_LIST", lettersRequest)]⟩

def lettersAction : Action := ⟨.str "LETTERS_LIST", .str "mail", .null⟩

def lettersSettings : ProxySettings where
  baseUrl := "https://proxy.test"
  projectId := "p1"
  urlHeader := ProxySettings.defaultUrlHeader
  rawResponseHeader := ProxySettings.defaultRawResponseHeader

/-- Parameters with what is read and nothing else. -/
def fewEntries : Entries := [(.str "page", .int 2), (.str "id", .str "a/b")]

/-- Parameters with the same values where they are read, and more. -/
def moreEntries : Entries := [
  (.str "trace", .str "t-1"), (.str "id", .str "a/b"), (.str "session", .str "secret"),
  (.str "page", .int 2), (.str "user", .str "/admin"), (.int 1, .list [])]

/-- The two calls: the second one with data for its arguments, among them a body. -/
def fewCall : Wanted := ⟨.inl lettersAction, .inl ⟨.mapping (p := none) fewEntries, .null⟩⟩

def moreCall : Wanted :=
  ⟨.inl lettersAction,
    .inr (.object [("params", .mapping (p := none) moreEntries), ("body", .str "text")])⟩

theorem agreeFor_letters : AgreeFor lettersRequest fewEntries moreEntries := by
  constructor
  case path =>
    have names : Template.names lettersRequest.path = ["id"] := by decide +kernel
    rw [names, List.forall_mem_singleton]
    rfl
  case query =>
    intro p mem location
    have in_query : p ∈ lettersRequest.queryParameters :=
      List.mem_filter.mpr ⟨mem, Value.isText_eq_true_iff.mpr location⟩
    have only_page : lettersRequest.queryParameters = [⟨.str "page", .str "query", false⟩] := rfl
    rw [only_page, List.mem_singleton] at in_query
    rw [in_query]
    rfl

theorem undeclared_parameters_irrelevant_letters :
    Asks lettersRegistry fewCall lettersAction lettersRequest fewEntries
      ∧ Asks lettersRegistry moreCall lettersAction lettersRequest moreEntries
      ∧ Text.toUpper lettersRequest.method = "GET"
      ∧ AgreeFor lettersRequest fewEntries moreEntries
      ∧ Downstream.url lettersRequest (.mapping (p := none) fewEntries)
        = Downstream.url lettersRequest (.mapping (p := none) moreEntries)
      ∧ (Downstream.url lettersRequest (.mapping (p := none) moreEntries)).outcome
        = .ok "https://mail.test/users/a/b/letters?page=2"
      ∧ Call.message ⟨lettersSettings, fewCall, .str "k"⟩ .standard lettersRegistry
        = Call.message ⟨lettersSettings, moreCall, .str "k"⟩ .standard lettersRegistry
      ∧ ((Call.message ⟨lettersSettings, moreCall, .str "k"⟩ .standard lettersRegistry).outcome.map
        (·.content)).toOption = some "" := by
  have few : Asks lettersRegistry fewCall lettersAction lettersRequest fewEntries :=
    ⟨⟨_, _, rfl, rfl⟩, rfl⟩
  have more : Asks lettersRegistry moreCall lettersAction lettersRequest moreEntries :=
    ⟨⟨_, _, rfl, rfl⟩, rfl⟩
  have get : Text.toUpper lettersRequest.method = "GET" := by decide +kernel
  obtain ⟨urls, messages⟩ := undeclared_parameters_irrelevant
  exact ⟨few, more, get, agreeFor_letters, urls _ _ _ _ _ agreeFor_letters, by rfl,
    messages _ _ _ _ _ _ _ _ _ _ few more get agreeFor_letters, by decide +kernel⟩

end Execution

end ApiTools
