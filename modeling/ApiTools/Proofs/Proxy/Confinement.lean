/-
  ApiTools.Proofs.Proxy.Confinement
  ─────────────────────────────────
  **MESSAGES GO TO THE PROXY, AND CALLERS CANNOT STEER THEM.**

  Whoever calls an executor chooses the registry, the action with the name and
  the id of its integration, the arguments and the credential.  The settings
  alone say where the message goes: any two messages that are built under the
  same settings name the same scheme, host and port, and the same host in
  their headers (`SamePeer`).  This holds for any client that ends the authority
  of a URL where its path, query or fragment starts.

  For one action and one registry, two messages also agree in their method,
  their URL and their headers but for the one that names the downstream URL,
  the authorization and the length of the content (`SameBut`); the first and
  the last follow the arguments, and the authorization follows the credential
  (`Confined`).

  Headers are told apart by their names without regard to case, so this needs
  the names of all six headers to be apart (`NamesApart`).
-/
import ApiTools.Proofs.Http.Server
import ApiTools.Proofs.Proxy.Lookup

namespace ApiTools

/-! ## §1. Messages that are built. -/

namespace Http.Message

theorem sameName_refl (n : String) : sameName n n = true := by
  unfold sameName
  exact beq_self_eq_true _

/-- The values of a header. -/
def values (name : String) (m : Message) : List String :=
  (m.headers.filter fun h => sameName name h.1).map (·.2)

/-- Does a header have another name than the given ones? -/
def shown (hidden : List String) (h : String × String) : Bool :=
  !hidden.any fun n => sameName n h.1

/-- The headers with other names than the given ones. -/
def without (hidden : List String) (m : Message) : List (String × String) :=
  m.headers.filter (shown hidden)

/-- The value of a hidden header does not show. -/
theorem filter_shown {hidden : List String} {name v w : String}
    (h : name ∈ hidden ∨ v = w) :
    [(name, v)].filter (shown hidden) = [(name, w)].filter (shown hidden) := by
  rcases h with mem | rfl
  case inl =>
    have found : hidden.any (fun n => sameName n name) = true :=
      List.any_eq_true.mpr ⟨name, mem, sameName_refl name⟩
    simp [shown, found]
  case inr => rfl

/-- The header that names the host, if the client names one. -/
def hostHeader (client : Client) (u : Url) : List (String × String) :=
  (client.host u).toList.map fun host => ("Host", host)

/-- The header with the length of the content, if there is a body. -/
def lengthHeader (body : Option Value) (content : String) : List (String × String) :=
  if body.isNone then []
  else [("Content-Length", toString (Text.encodeUtf8 content.toList).length)]

theorem withDefault_of_absent {name value : String} {headers : List (String × String)}
    (absent : names name headers = false) :
    withDefault name value headers = headers ++ [(name, value)] := by
  unfold withDefault
  rw [absent]
  rfl

/-- **What building a message gives**, if the headers name neither host nor length. -/
structure Made (client : Client) (method url : String) (headers : List (String × String))
    (body : Option Value) (m : Message) : Prop where
  method_eq : m.method = method
  parsed : client.parse url = .ok m.url
  written : bodyText client.writing body = .ok m.content
  headers_eq : m.headers = hostHeader client m.url ++ headers ++ lengthHeader body m.content

theorem made_of_build {client : Client} {method url : String} {headers : List (String × String)}
    {body : Option Value} {m : Message} (no_host : names "Host" headers = false)
    (no_length : names "Content-Length" headers = false)
    (h : build client method url headers body = .ok m) :
    Made client method url headers body m := by
  have hostless : names "Host" (headers ++ lengthHeader body m.content) = false := by
    have no_length_is_host : sameName "Host" "Content-Length" = false := by decide +kernel
    unfold names lengthHeader at *
    split <;> simp [no_host, no_length_is_host]
  unfold build at h
  dsimp only at h
  split at h
  case h_2 => exact absurd h (by simp [bind, Except.bind])
  case h_1 u parsed =>
  rw [ok_bind] at h
  obtain ⟨_, _, h⟩ := bind_eq_ok.mp h
  obtain ⟨content, written, h⟩ := bind_eq_ok.mp h
  injection h with h
  have sized : (if body.isNone then headers
      else withDefault "Content-Length" (toString (Text.encodeUtf8 content.toList).length) headers)
      = headers ++ lengthHeader body content := by
    unfold lengthHeader
    split
    next => exact (List.append_nil headers).symm
    next => exact withDefault_of_absent no_length
  rw [sized] at h
  subst h
  constructor
  case method_eq => rfl
  case parsed => exact parsed
  case written => exact written
  case headers_eq =>
    dsimp only at hostless ⊢
    rw [hostless, if_neg Bool.false_ne_true, hostHeader, List.append_assoc]

end Http.Message

namespace Execution

open Http (Client Message)
open Http.Message (sameName names values shown without hostHeader lengthHeader)

/-! ## §2. The headers of a message to the proxy. -/

/-- The names of all headers of a message. -/
def headerNames (settings : ProxySettings) : List String :=
  ["Host", "Content-Length", "Content-Type", "Authorization", settings.urlHeader,
    settings.rawResponseHeader]

/-- Are the names of the headers apart, without regard to case? -/
def NamesApart (settings : ProxySettings) : Prop :=
  (headerNames settings).Pairwise fun m n => sameName m n = false

section Headers

variable {settings : ProxySettings} {credential : Value} {downstream : String}

/-- Names that are apart are different. -/
theorem ne_of_apart {m n : String} (h : sameName m n = false) : m ≠ n := by
  rintro rfl
  rw [Http.Message.sameName_refl] at h
  exact absurd h (by simp)

theorem headers_eq (apart : NamesApart settings) :
    headers settings credential downstream = [
      ("Content-Type", "application/json"),
      ("Authorization", "Bearer " ++ credential.text),
      (settings.urlHeader, downstream),
      (settings.rawResponseHeader, "true")] := by
  have differ : (headerNames settings).Pairwise (· ≠ ·) := apart.imp ne_of_apart
  simp only [headerNames, List.pairwise_cons, List.mem_cons, List.not_mem_nil, or_false] at differ
  obtain ⟨-, -, type_differs, auth_differs, url_differs, -⟩ := differ
  have type_auth := type_differs _ (Or.inl rfl)
  have type_url := type_differs _ (Or.inr (Or.inl rfl))
  have type_raw := type_differs _ (Or.inr (Or.inr rfl))
  have auth_url := auth_differs _ (Or.inl rfl)
  have auth_raw := auth_differs _ (Or.inr rfl)
  have url_raw := url_differs _ rfl
  simp [headers, Table.ofList, Table.insert, type_auth, type_url, type_raw, auth_url, auth_raw,
    url_raw]

/-- A name that is apart from those of the headers does not occur in them. -/
theorem names_headers {name : String} (apart : NamesApart settings)
    (others : ∀ n ∈ ["Content-Type", "Authorization", settings.urlHeader,
      settings.rawResponseHeader], sameName name n = false) :
    names name (headers settings credential downstream) = false := by
  rw [headers_eq apart]
  unfold names
  rw [List.any_eq_false]
  intro h mem
  rw [others h.1]
  · exact Bool.false_ne_true
  · exact List.mem_map_of_mem (f := Prod.fst) mem

theorem host_apart (apart : NamesApart settings) :
    ∀ n ∈ ["Content-Type", "Authorization", settings.urlHeader, settings.rawResponseHeader],
      sameName "Host" n = false := by
  intro n mem
  exact (List.pairwise_cons.mp apart).1 n (List.mem_cons_of_mem _ mem)

theorem length_apart (apart : NamesApart settings) :
    ∀ n ∈ ["Content-Type", "Authorization", settings.urlHeader, settings.rawResponseHeader],
      sameName "Content-Length" n = false :=
  (List.pairwise_cons.mp (List.pairwise_cons.mp apart).2).1

end Headers

/-! ## §3. What a message is made of. -/

/-- The steps that lead from a call to a message. -/
structure Composed (client : Client) (r : Registry) (settings : ProxySettings) (action : Action)
    (arguments : Arguments) (credential : Value) (request : Request) (route : String)
    (downstream : String) (m : Message) : Prop where
  looked_up : r.lookup action.name = .ok request
  routed : ∃ integration,
    Integration.forAction action.integrationName action.integrationId = .ok integration
      ∧ Integration.route settings.baseUrl settings.projectId integration = .ok route
  called : (Downstream.url request (arguments.params.orElse (.mapping (p := none) []))).outcome
    = .ok downstream
  made : Message.Made client (Text.toUpper request.method) route
    (headers settings credential downstream) (body (Text.toUpper request.method) arguments) m

section Composition

variable {client : Client} {settings : ProxySettings} {r : Registry} {action : Action}
  {arguments : Arguments} {credential : Value} {m : Message}

theorem exists_composed_of_message (apart : NamesApart settings)
    (h : (message client r settings action arguments credential).outcome = .ok m) :
    ∃ request route downstream,
      Composed client r settings action arguments credential request route downstream m := by
  unfold message at h
  simp only [Reported.outcome_bind, Reported.outcome_ofExcept, Reported.outcome_say] at h
  obtain ⟨request, looked_up, h⟩ := bind_eq_ok.mp h
  obtain ⟨integration, of_action, h⟩ := bind_eq_ok.mp h
  obtain ⟨route, routed, h⟩ := bind_eq_ok.mp h
  obtain ⟨downstream, called, h⟩ := bind_eq_ok.mp h
  obtain ⟨_, _, built⟩ := bind_eq_ok.mp h
  refine ⟨request, route, downstream, looked_up, ⟨integration, of_action, routed⟩, called, ?_⟩
  exact Message.made_of_build (names_headers apart (host_apart apart))
    (names_headers apart (length_apart apart)) built

/-- The headers of a message, each of which one thing decides. -/
theorem Composed.headers_eq {request : Request} {route downstream : String}
    (apart : NamesApart settings)
    (c : Composed client r settings action arguments credential request route downstream m) :
    m.headers = hostHeader client m.url ++ [
      ("Content-Type", "application/json"),
      ("Authorization", "Bearer " ++ credential.text),
      (settings.urlHeader, downstream),
      (settings.rawResponseHeader, "true")]
        ++ lengthHeader (body (Text.toUpper request.method) arguments) m.content := by
  rw [c.made.headers_eq, Execution.headers_eq apart]

/-- The route stands below a folder of the proxy. -/
theorem Composed.exists_route {request : Request} {route downstream : String}
    (c : Composed client r settings action arguments credential request route downstream m) :
    ∃ rest, route = settings.baseUrl ++ "/" ++ "projects" ++ "/" ++ rest := by
  obtain ⟨integration, _, routed⟩ := c.routed
  cases integration with
  | standard type id =>
      injection routed with routed
      refine ⟨settings.projectId ++ "/sdk/proxy/" ++ type.text, ?_⟩
      rw [← routed]
      simp [String.append_assoc]
  | custom name id =>
      injection routed with routed
      refine ⟨settings.projectId ++ "/sdk/proxy/custom/" ++ id.text, ?_⟩
      rw [← routed]
      simp [String.append_assoc]
  | unknown => exact absurd routed (by simp [Integration.route])

end Composition

/-! ## §4. Two messages compared. -/

/-- Do two messages go to the same server, and name it the same way? -/
structure SamePeer (m₁ m₂ : Message) : Prop where
  scheme_eq : m₁.url.scheme = m₂.url.scheme
  host_eq : m₁.url.host = m₂.url.host
  port_eq : m₁.url.port = m₂.url.port
  named_eq : values "Host" m₁ = values "Host" m₂

/-- Do two messages agree in method, URL and all headers but the hidden ones? -/
structure SameBut (hidden : List String) (m₁ m₂ : Message) : Prop where
  method_eq : m₁.method = m₂.method
  url_eq : m₁.url = m₂.url
  headers_eq : without hidden m₁ = without hidden m₂

section Comparison

variable {client : Client} {settings : ProxySettings} {r r₁ r₂ : Registry}
  {action action₁ action₂ : Action}
  {arguments arguments₁ arguments₂ : Arguments} {credential credential₁ credential₂ : Value}
  {request request₁ request₂ : Request} {route route₁ route₂ : String}
  {downstream downstream₁ downstream₂ : String} {m m₁ m₂ : Message}

/-- The header that names the host follows the URL. -/
theorem Composed.values_host (apart : NamesApart settings)
    (c : Composed client r settings action arguments credential request route downstream m) :
    values "Host" m = (hostHeader client m.url).map (·.2) := by
  have to_length : sameName "Host" "Content-Length" = false := by decide +kernel
  have to_others := host_apart apart
  simp only [List.forall_mem_cons, List.not_mem_nil, false_imp_iff, forall_const, and_true]
    at to_others
  have named : (hostHeader client m.url).filter (fun h => sameName "Host" h.1)
      = hostHeader client m.url := by
    unfold hostHeader
    cases client.host m.url with
    | none => rfl
    | some host => simp [Http.Message.sameName_refl]
  have sized : (lengthHeader (body (Text.toUpper request.method) arguments) m.content).filter
      (fun h => sameName "Host" h.1) = [] := by
    unfold lengthHeader
    split
    next => rfl
    next => simp [to_length]
  unfold values
  rw [c.headers_eq apart]
  simp [List.filter_append, named, sized, to_others]

/-- The header with the length follows the content. -/
theorem Composed.values_length (apart : NamesApart settings)
    (c : Composed client r settings action arguments credential request route downstream m) :
    values "Content-Length" m
      = (lengthHeader (body (Text.toUpper request.method) arguments) m.content).map (·.2) := by
  have to_host : sameName "Content-Length" "Host" = false := by decide +kernel
  have to_others := length_apart apart
  simp only [List.forall_mem_cons, List.not_mem_nil, false_imp_iff, forall_const, and_true]
    at to_others
  have named : (hostHeader client m.url).filter (fun h => sameName "Content-Length" h.1) = [] := by
    unfold hostHeader
    cases client.host m.url with
    | none => rfl
    | some host => simp [to_host]
  have sized : (lengthHeader (body (Text.toUpper request.method) arguments) m.content).filter
      (fun h => sameName "Content-Length" h.1)
      = lengthHeader (body (Text.toUpper request.method) arguments) m.content := by
    unfold lengthHeader
    split
    next => rfl
    next => simp [Http.Message.sameName_refl]
  unfold values
  rw [c.headers_eq apart]
  simp [List.filter_append, named, sized, to_others]

/-- Whether there is a header with the length is up to the method. -/
theorem lengthHeader_body (method content : String) (arguments₁ arguments₂ : Arguments) :
    lengthHeader (body method arguments₁) content
      = lengthHeader (body method arguments₂) content := by
  unfold lengthHeader body
  split <;> rfl

/-- Messages under the same settings go to the same server. -/
theorem Composed.samePeer (ends : client.EndsAuthority) (apart : NamesApart settings)
    (c₁ : Composed client r₁ settings action₁ arguments₁ credential₁ request₁ route₁ downstream₁ m₁)
    (c₂ : Composed client r₂ settings action₂ arguments₂ credential₂ request₂ route₂ downstream₂ m₂) :
    SamePeer m₁ m₂ := by
  obtain ⟨rest₁, rfl⟩ := c₁.exists_route
  obtain ⟨rest₂, rfl⟩ := c₂.exists_route
  have server : m₁.url.SameServer m₂.url :=
    ends.server (Http.Url.front_append (by simp) rest₁ rest₂) c₁.made.parsed c₂.made.parsed
  constructor
  case scheme_eq => exact server.scheme_eq
  case host_eq => exact server.host_eq
  case port_eq => exact server.port_eq
  case named_eq =>
    rw [c₁.values_host apart, c₂.values_host apart, hostHeader, hostHeader, ends.named server]

/-- One action looked up in one registry leads to one request and one route. -/
theorem Composed.same_request
    (c₁ : Composed client r settings action arguments₁ credential₁ request₁ route₁ downstream₁ m₁)
    (c₂ : Composed client r settings action arguments₂ credential₂ request₂ route₂ downstream₂ m₂) :
    request₁ = request₂ ∧ route₁ = route₂ := by
  refine ⟨Except.ok.inj (c₁.looked_up.symm.trans c₂.looked_up), ?_⟩
  obtain ⟨integration₁, of_action₁, routed₁⟩ := c₁.routed
  obtain ⟨integration₂, of_action₂, routed₂⟩ := c₂.routed
  obtain rfl := Except.ok.inj (of_action₁.symm.trans of_action₂)
  exact Except.ok.inj (routed₁.symm.trans routed₂)

/-- Messages of one action agree in all headers that are not hidden, if those of the downstream
URL and of the length are, and so is that of the authorization unless the credential is the
same. -/
theorem Composed.sameBut (apart : NamesApart settings)
    (c₁ : Composed client r settings action arguments₁ credential₁ request₁ route₁ downstream₁ m₁)
    (c₂ : Composed client r settings action arguments₂ credential₂ request₂ route₂ downstream₂ m₂)
    {hidden : List String}
    (downstream_agrees : settings.urlHeader ∈ hidden ∨ downstream₁ = downstream₂)
    (credential_agrees : "Authorization" ∈ hidden ∨ credential₁ = credential₂)
    (length_agrees : "Content-Length" ∈ hidden ∨ m₁.content = m₂.content) :
    SameBut hidden m₁ m₂ := by
  obtain ⟨rfl, rfl⟩ := c₁.same_request c₂
  have url_eq : m₁.url = m₂.url := Except.ok.inj (c₁.made.parsed.symm.trans c₂.made.parsed)
  constructor
  case method_eq => rw [c₁.made.method_eq, c₂.made.method_eq]
  case url_eq => exact url_eq
  case headers_eq =>
    -- the length is told of one content or of two that are equal, unless it is hidden
    have length_shown :
        (lengthHeader (body (Text.toUpper request₁.method) arguments₁) m₁.content).filter
            (shown hidden)
          = (lengthHeader (body (Text.toUpper request₁.method) arguments₂) m₂.content).filter
            (shown hidden) := by
      rw [lengthHeader_body _ _ arguments₁ arguments₂]
      unfold lengthHeader
      split
      next => rfl
      next => exact Message.filter_shown (length_agrees.imp_right fun same => by rw [same])
    have parts : ∀ authorization url : String,
        [("Content-Type", "application/json"), ("Authorization", authorization),
            (settings.urlHeader, url), (settings.rawResponseHeader, "true")].filter (shown hidden)
          = [("Content-Type", "application/json")].filter (shown hidden)
            ++ ([("Authorization", authorization)].filter (shown hidden)
            ++ ([(settings.urlHeader, url)].filter (shown hidden)
            ++ [(settings.rawResponseHeader, "true")].filter (shown hidden))) := by
      intro authorization url
      rw [← List.filter_append, ← List.filter_append, ← List.filter_append]
      rfl
    unfold without
    rw [c₁.headers_eq apart, c₂.headers_eq apart, url_eq]
    rw [List.filter_append, List.filter_append, List.filter_append, List.filter_append, parts,
      parts, Message.filter_shown downstream_agrees,
      Message.filter_shown (credential_agrees.imp_right fun same => by rw [same]), length_shown]

end Comparison

/-! ## §5. What callers can change. -/

/-- What the callers can change about two messages under the same settings, which come from the
registries `r₁` and `r₂`, the actions `a₁` and `a₂`, the arguments `x₁` and `x₂` and the
credentials `k₁` and `k₂`. -/
structure Confined (settings : ProxySettings) (r₁ r₂ : Registry) (a₁ a₂ : Action)
    (x₁ x₂ : Arguments) (k₁ k₂ : Value) (m₁ m₂ : Message) : Prop where
  samePeer : SamePeer m₁ m₂
  action_fixes : r₁ = r₂ → a₁ = a₂ →
    SameBut [settings.urlHeader, "Authorization", "Content-Length"] m₁ m₂
  arguments_reach : r₁ = r₂ → a₁ = a₂ → k₁ = k₂ →
    SameBut [settings.urlHeader, "Content-Length"] m₁ m₂
  credential_reaches : r₁ = r₂ → a₁ = a₂ → x₁ = x₂ →
    SameBut ["Authorization"] m₁ m₂ ∧ m₁.content = m₂.content
  length_follows : r₁ = r₂ → a₁ = a₂ → m₁.content = m₂.content →
    values "Content-Length" m₁ = values "Content-Length" m₂

theorem confined_of_composed {client : Client} {settings : ProxySettings} {r₁ r₂ : Registry}
    {a₁ a₂ : Action}
    {x₁ x₂ : Arguments} {k₁ k₂ : Value} {request₁ request₂ : Request}
    {route₁ route₂ downstream₁ downstream₂ : String} {m₁ m₂ : Message}
    (ends : client.EndsAuthority) (apart : NamesApart settings)
    (c₁ : Composed client r₁ settings a₁ x₁ k₁ request₁ route₁ downstream₁ m₁)
    (c₂ : Composed client r₂ settings a₂ x₂ k₂ request₂ route₂ downstream₂ m₂) :
    Confined settings r₁ r₂ a₁ a₂ x₁ x₂ k₁ k₂ m₁ m₂ := by
  constructor
  case samePeer => exact c₁.samePeer ends apart c₂
  case action_fixes =>
    rintro rfl rfl
    exact c₁.sameBut apart c₂ (by simp) (by simp) (by simp)
  case arguments_reach =>
    rintro rfl rfl rfl
    exact c₁.sameBut apart c₂ (by simp) (Or.inr rfl) (by simp)
  case credential_reaches =>
    rintro rfl rfl rfl
    obtain ⟨same, -⟩ := c₁.same_request c₂
    subst same
    have content_eq : m₁.content = m₂.content :=
      Except.ok.inj (c₁.made.written.symm.trans c₂.made.written)
    have downstream_eq : downstream₁ = downstream₂ :=
      Except.ok.inj (c₁.called.symm.trans c₂.called)
    exact ⟨c₁.sameBut apart c₂ (Or.inr downstream_eq) (by simp) (Or.inr content_eq), content_eq⟩
  case length_follows =>
    rintro rfl rfl content_eq
    obtain ⟨same, -⟩ := c₁.same_request c₂
    subst same
    rw [c₁.values_length apart, c₂.values_length apart, content_eq, lengthHeader_body]

/-- **Callers cannot steer messages.**  Any two messages that a client builds under the same settings
go to the same server, if the client ends the authority of a URL where it should; and what the caller
of one action gives shows in the header of the downstream URL, the authorization and the content with
its length only. -/
theorem Call.confined_of_message {client : Client} (ends : client.EndsAuthority)
    {settings : ProxySettings} (apart : NamesApart settings)
    {w₁ w₂ : Wanted} {k₁ k₂ : Value} {r₁ r₂ : Registry} {m₁ m₂ : Message}
    (h₁ : (Call.message ⟨settings, w₁, k₁⟩ client r₁).outcome = .ok m₁)
    (h₂ : (Call.message ⟨settings, w₂, k₂⟩ client r₂).outcome = .ok m₂) :
    ∃ a₁ x₁ a₂ x₂, w₁.read = .ok (a₁, x₁) ∧ w₂.read = .ok (a₂, x₂)
      ∧ Confined settings r₁ r₂ a₁ a₂ x₁ x₂ k₁ k₂ m₁ m₂ := by
  rw [Call.message_eq_bind, Reported.outcome_bind, Reported.outcome_ofExcept] at h₁ h₂
  obtain ⟨⟨a₁, x₁⟩, read₁, built₁⟩ := bind_eq_ok.mp h₁
  obtain ⟨⟨a₂, x₂⟩, read₂, built₂⟩ := bind_eq_ok.mp h₂
  obtain ⟨_, _, _, c₁⟩ := exists_composed_of_message apart built₁
  obtain ⟨_, _, _, c₂⟩ := exists_composed_of_message apart built₂
  exact ⟨a₁, x₁, a₂, x₂, read₁, read₂, confined_of_composed ends apart c₁ c₂⟩

/-! ## §6. Names that look like servers. -/

instance (settings : ProxySettings) : Decidable (NamesApart settings) :=
  inferInstanceAs (Decidable (List.Pairwise _ _))

/-- A proxy with a port and a folder. -/
def harbour : ProxySettings where
  baseUrl := "https://proxy.test:8443/api"
  projectId := "p1"
  urlHeader := ProxySettings.defaultUrlHeader
  rawResponseHeader := ProxySettings.defaultRawResponseHeader

/-- One tool, whose document names a server of its own. -/
def notesRegistry (method : String) : Registry where
  requests := [("NOTES_SEND", {
    method := method
    path := "/notes/{id}"
    parameters := [⟨.str "id", .str "path", true⟩]
    baseUrl := .str "//evil.test" })]

/-- An action whose integration looks like a user, a host and a port. -/
def atSignAction : Action := ⟨.str "NOTES_SEND", .str "@evil.test:1/?#", .null⟩

/-- An action whose integration has an id that looks like a server. -/
def slashesAction : Action := ⟨.str "NOTES_SEND", .str "custom.notes", .str "//evil.test:8080/é"⟩

def notesCall (action : Action) (id : Nat) (credential : String) : Call where
  settings := harbour
  wanted := ⟨.inl action, .inl ⟨.object [("id", .int id)], .str "text"⟩⟩
  credential := .str credential

theorem exists_message_of_text (c : Call) (r : Registry) (text : String)
    (h : ((c.message .standard r).outcome.map (·.url.text)).toOption = some text) :
    ∃ m, (c.message .standard r).outcome = .ok m ∧ m.url.text = text := by
  cases outcome : (c.message .standard r).outcome with
  | ok m =>
      rw [outcome] at h
      exact ⟨m, rfl, Option.some.inj h⟩
  | error f =>
      rw [outcome] at h
      exact absurd h (by simp)

/-- Two calls of one action with other arguments and another credential, and one of another action
against another registry. -/
theorem confined_of_message_evil :
    Client.standard.EndsAuthority ∧ NamesApart harbour ∧ ∃ m₁ m₂ m₃,
      ((notesCall atSignAction 1 "k1").message .standard (notesRegistry "post")).outcome = .ok m₁
      ∧ ((notesCall atSignAction 22 "k2").message .standard (notesRegistry "post")).outcome = .ok m₂
      ∧ ((notesCall slashesAction 3 "k3").message .standard (notesRegistry "get")).outcome = .ok m₃
      ∧ m₁.url.text = "https://proxy.test:8443/api/projects/p1/sdk/proxy/@evil.test:1/?#"
      ∧ m₃.url.text
        = "https://proxy.test:8443/api/projects/p1/sdk/proxy/custom///evil.test:8080/%C3%A9"
      ∧ SameBut [harbour.urlHeader, "Authorization", "Content-Length"] m₁ m₂
      ∧ SamePeer m₁ m₃ := by
  have apart : NamesApart harbour := by decide +kernel
  obtain ⟨m₁, built₁, text₁⟩ := exists_message_of_text (notesCall atSignAction 1 "k1")
    (notesRegistry "post") "https://proxy.test:8443/api/projects/p1/sdk/proxy/@evil.test:1/?#"
    (by decide +kernel)
  obtain ⟨m₂, built₂, -⟩ := exists_message_of_text (notesCall atSignAction 22 "k2")
    (notesRegistry "post") "https://proxy.test:8443/api/projects/p1/sdk/proxy/@evil.test:1/?#"
    (by decide +kernel)
  obtain ⟨m₃, built₃, text₃⟩ := exists_message_of_text (notesCall slashesAction 3 "k3")
    (notesRegistry "get")
    "https://proxy.test:8443/api/projects/p1/sdk/proxy/custom///evil.test:8080/%C3%A9"
    (by decide +kernel)
  obtain ⟨_, _, _, _, read₁, read₂, same_action⟩ :=
    Call.confined_of_message Http.endsAuthority_standard apart built₁ built₂
  obtain ⟨_, _, _, _, -, -, other_action⟩ :=
    Call.confined_of_message Http.endsAuthority_standard apart built₁ built₃
  have action_eq := (Prod.mk.inj (Except.ok.inj read₁)).1.symm.trans
    (Prod.mk.inj (Except.ok.inj read₂)).1
  exact ⟨Http.endsAuthority_standard, apart, m₁, m₂, m₃, built₁, built₂, built₃, text₁, text₃,
    same_action.action_fixes rfl action_eq, other_action.samePeer⟩

end Execution

end ApiTools
