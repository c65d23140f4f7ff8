/-
  ApiTools.Proofs.Proxy.Content
  ─────────────────────────────
  **THE CONTENT OF A MESSAGE IS THE CALL.**

  A message with the method GET has no content.  Any other one carries the
  parameters and the body of the call, all of them: reading the content as
  JSON, as text or as octets, gives them back, wherever their levels may be
  entered (`Carries`).  The header with the length is there exactly if there is content, and counts its octets —
  unless the settings give one of their own headers this name
  (`exists_length_without_content`), so this part needs the two names to be
  others (`LengthApart`).
-/
import ApiTools.Proofs.Json.Writing
import ApiTools.Proofs.Proxy.Confinement
import ApiTools.Proofs.Text.Utf8

namespace ApiTools

/-! ## §1. Envelopes as JSON. -/

/-- Parameters and body of a call that JSON carries without loss. -/
structure Arguments.Exact (a : Arguments) : Prop where
  params : a.params.Exact
  body : a.body.Exact

theorem Arguments.exact_toValue {a : Arguments} (h : a.Exact) : a.toValue.Exact :=
  Value.Exact.object (by simp)
    (List.forall_mem_cons.mpr ⟨h.params, List.forall_mem_singleton.mpr h.body⟩)

namespace Json

variable {a : Arguments} {s : String} {levels nesting : Nat}

/-- The text of an envelope starts with a brace and a quote. -/
theorem toList_envelope (h : write (compact levels) a.toValue = .ok s) :
    ∃ cs, s.toList = '{' :: '"' :: cs := by
  obtain ⟨_, _, item⟩ := (standard_compact levels).item
  rw [write, Arguments.toValue, Value.object, writeAt] at h
  replace h := of_onLevel h
  cases written : writeMembers (compact levels) 1 _ with
  | error e =>
      rw [written] at h
      exact absurd h (by simp [Except.map])
  | ok parts =>
      rw [written] at h
      injection h with h
      subst h
      obtain ⟨ps, rfl, fields, -⟩ := exists_of_writeMembers written
      -- an envelope always has members, so the brace is followed by the quote of a name
      obtain ⟨p, others, rfl⟩ : ∃ p others, ps = p :: others := by
        refine List.exists_cons_of_ne_nil ?_
        rintro rfl
        exact absurd fields (by simp)
      rw [toList_bracketed item 0 rfl rfl (by simp), List.map_cons, List.map_cons]
      obtain ⟨cs, first⟩ : ∃ cs, (memberText (compact levels) p).toList = '"' :: cs := by
        rw [memberText, String.toList_append, String.toList_append, toList_string]
        exact ⟨_, rfl⟩
      rw [first]
      cases others with
      | nil => exact ⟨_, rfl⟩
      | cons q others => exact ⟨_, rfl⟩

/-- **An envelope is read back from its octets.** -/
theorem readOctets_envelope (exact : a.Exact) (h : write (compact levels) a.toValue = .ok s)
    (deep : a.toValue.depth ≤ nesting) :
    readOctets nesting (Text.encodeUtf8 s.toList) = .ok a.toValue := by
  have read := readWhole_of_write (standard_compact levels) (Arguments.exact_toValue exact) h deep
  have decoded : Text.decodeDetected (Text.encodeUtf8 s.toList) = .ok s.toList := by
    obtain ⟨cs, starts⟩ := toList_envelope h
    rw [starts]
    exact Text.decodeDetected_encodeUtf8 (by decide) (by decide)
  unfold readOctets
  rw [decoded]
  dsimp only
  rw [read]

end Json

/-! ## §2. The header with the length. -/

namespace Http.Message

/-- The headers with the length of the content, if there is a body. -/
def sizedHeaders (headers : List (String × String)) (body : Option Value) (content : String) :
    List (String × String) :=
  if body.isNone then headers
  else withDefault "Content-Length" (toString (Text.encodeUtf8 content.toList).length) headers

/-- The content of a message is its body as it is written, and in front of the headers there is at
most one with the host. -/
theorem parts_of_build {client : Client} {method url : String} {headers : List (String × String)}
    {body : Option Value} {m : Message} (h : build client method url headers body = .ok m) :
    bodyText client.writing body = .ok m.content
      ∧ (m.headers = sizedHeaders headers body m.content
        ∨ ∃ host, m.headers = ("Host", host) :: sizedHeaders headers body m.content) := by
  unfold build at h
  dsimp only at h
  split at h
  case h_2 => exact absurd h (by simp [bind, Except.bind])
  case h_1 u parsed =>
  rw [ok_bind] at h
  obtain ⟨_, _, h⟩ := bind_eq_ok.mp h
  obtain ⟨content, written, h⟩ := bind_eq_ok.mp h
  injection h with h
  subst h
  refine ⟨written, ?_⟩
  cases client.host u with
  | none => exact Or.inl (ite_self _)
  | some host =>
      by_cases named : names "Host" (sizedHeaders headers body content) = true
      · exact Or.inl (if_pos named)
      · exact Or.inr ⟨host, if_neg named⟩

/-- If no other header has its name, the header with the length follows the body. -/
theorem values_length_of_build {client : Client} {method url : String} {headers : List (String × String)}
    {body : Option Value} {m : Message} (no_length : names "Content-Length" headers = false)
    (h : build client method url headers body = .ok m) :
    values "Content-Length" m = (lengthHeader body m.content).map (·.2) := by
  have none_of : headers.filter (fun h => sameName "Content-Length" h.1) = [] :=
    List.filter_eq_nil_iff.mpr fun e mem => List.any_eq_false.mp no_length e mem
  have sized : (sizedHeaders headers body m.content).filter
      (fun h => sameName "Content-Length" h.1) = lengthHeader body m.content := by
    unfold sizedHeaders lengthHeader
    split
    next => exact none_of
    next =>
      rw [withDefault_of_absent no_length, List.filter_append, none_of, List.nil_append]
      simp [sameName_refl]
  unfold values
  -- a host that is put in front is no length
  rcases (parts_of_build h).2 with same | ⟨host, same⟩
  · rw [same, sized]
  · have host_apart : sameName "Content-Length" "Host" = false := by decide +kernel
    rw [same, List.filter_cons_of_neg (by simp [host_apart]), sized]

end Http.Message

namespace Execution

open Http (Client Message)
open Http.Message (sameName names values lengthHeader)

/-! ## §3. What a message carries. -/

/-- Do the settings give none of their headers the name of the one with the length? -/
structure LengthApart (settings : ProxySettings) : Prop where
  url : sameName "Content-Length" settings.urlHeader = false
  rawResponse : sameName "Content-Length" settings.rawResponseHeader = false

theorem names_length_headers {settings : ProxySettings} (apart : LengthApart settings)
    (credential : Value) (downstream : String) :
    names "Content-Length" (headers settings credential downstream) = false := by
  have type_apart : sameName "Content-Length" "Content-Type" = false := by decide +kernel
  have authorization_apart : sameName "Content-Length" "Authorization" = false := by
    decide +kernel
  refine List.any_eq_false.mpr fun h mem => ?_
  have known := Table.mem_of_mem_ofList mem
  simp only [List.mem_cons, List.not_mem_nil, or_false] at known
  rcases known with rfl | rfl | rfl | rfl
  · simp [type_apart]
  · simp [authorization_apart]
  · simp [apart.url]
  · simp [apart.rawResponse]

/-- **What a message carries**: nothing with the method GET, and with any other one the parameters
and the body of the call. -/
structure Carries (settings : ProxySettings) (request : Request) (arguments : Arguments)
    (m : Message) : Prop where
  empty_iff : m.content = "" ↔ Text.toUpper request.method = "GET"
  text : Text.toUpper request.method ≠ "GET" →
    ∀ nesting, arguments.toValue.depth ≤ nesting →
      Json.read nesting m.content = .ok arguments.toValue
  octets : Text.toUpper request.method ≠ "GET" →
    ∀ nesting, arguments.toValue.depth ≤ nesting →
      Json.readOctets nesting (Text.encodeUtf8 m.content.toList) = .ok arguments.toValue
  unsized_iff : LengthApart settings →
    (values "Content-Length" m = [] ↔ Text.toUpper request.method = "GET")
  sized : LengthApart settings → Text.toUpper request.method ≠ "GET" →
    values "Content-Length" m = [toString (Text.encodeUtf8 m.content.toList).length]

theorem carries_of_build {client : Client} {settings : ProxySettings} {request : Request}
    {arguments : Arguments}
    {route downstream : String} {credential : Value} {m : Message} (exact : arguments.Exact)
    (h : Message.build client (Text.toUpper request.method) route
      (headers settings credential downstream) (body (Text.toUpper request.method) arguments)
      = .ok m) :
    Carries settings request arguments m := by
  have written := (Message.parts_of_build h).1
  have length := fun apart => Message.values_length_of_build
    (names_length_headers apart credential downstream) h
  by_cases get : Text.toUpper request.method = "GET"
  case pos =>
    have no_body : body (Text.toUpper request.method) arguments = none := if_pos get
    rw [no_body] at written length
    injection written with written
    constructor
    case empty_iff => exact ⟨fun _ => get, fun _ => written.symm⟩
    case text => exact fun other => absurd get other
    case octets => exact fun other => absurd get other
    case unsized_iff => exact fun apart => ⟨fun _ => get, fun _ => length apart⟩
    case sized => exact fun _ other => absurd get other
  case neg =>
    have some_body : body (Text.toUpper request.method) arguments = some arguments.toValue :=
      if_neg get
    rw [some_body] at written length
    have envelope : Json.write (Json.compact client.writing) arguments.toValue
        = .ok m.content := by
      unfold Message.bodyText at written
      dsimp only at written
      split at written
      next s done =>
        split at written
        next =>
          injection written with written
          rw [done, written]
        next => exact absurd written (by simp)
      next => exact absurd written (by simp)
    -- the envelope has been written, so it is the content, and its octets are counted
    have sized := fun apart => (length apart).trans
      (rfl : _ = [toString (Text.encodeUtf8 m.content.toList).length])
    constructor
    case empty_iff =>
      refine ⟨fun empty => ?_, fun same => absurd same get⟩
      obtain ⟨cs, starts⟩ := Json.toList_envelope envelope
      rw [empty] at starts
      exact absurd starts (by simp)
    case text =>
      exact fun _ nesting deep => Json.read_of_write (Json.standard_compact client.writing)
        (Arguments.exact_toValue exact) envelope deep
    case octets => exact fun _ nesting deep => Json.readOctets_envelope exact envelope deep
    case unsized_iff =>
      refine fun apart => ⟨fun none => ?_, fun same => absurd same get⟩
      rw [sized apart] at none
      exact absurd none (by simp)
    case sized => exact fun apart _ => sized apart

/-- **A MESSAGE CARRIES THE CALL**: any message that is built for a call whose arguments JSON
carries without loss. -/
theorem carries_of_message {client : Client} {c : Call} {r : Registry} {action : Action}
    {arguments : Arguments}
    {m : Message} (read : c.wanted.read = .ok (action, arguments)) (exact : arguments.Exact)
    (h : (c.message client r).outcome = .ok m) :
    ∃ request, r.lookup action.name = .ok request ∧ Carries c.settings request arguments m := by
  rw [Call.message_eq_bind, read, Reported.ofExcept_ok_bind] at h
  unfold message at h
  simp only [Reported.outcome_bind, Reported.outcome_ofExcept, Reported.outcome_say] at h
  obtain ⟨request, looked_up, h⟩ := bind_eq_ok.mp h
  obtain ⟨_, _, h⟩ := bind_eq_ok.mp h
  obtain ⟨_, _, h⟩ := bind_eq_ok.mp h
  obtain ⟨_, _, h⟩ := bind_eq_ok.mp h
  obtain ⟨_, _, built⟩ := bind_eq_ok.mp h
  exact ⟨request, looked_up, carries_of_build exact built⟩

/-! ## §4. Two messages. -/

/-- A name with a quote, a line break and a character outside the first plane. -/
def oddText : String := "\"\n😀"

/-- Arguments with a parameter that no path or query takes, and without a body. -/
def oddArguments : Arguments where
  params := .object [("id", .int (-7)), (oddText, .list [.str oddText, .bool false])]
  body := .null

theorem exact_oddArguments : oddArguments.Exact where
  params := .object (by decide) (by
    simp only [List.forall_mem_cons, List.not_mem_nil, false_imp_iff, forall_const, and_true]
    refine ⟨.int _, .list ?_⟩
    simp only [List.forall_mem_cons, List.not_mem_nil, false_imp_iff, forall_const, and_true]
    exact ⟨.str _, .bool _⟩)
  body := .null

def oddCall : Call where
  settings := harbour
  wanted := ⟨.inl atSignAction, .inl oddArguments⟩
  credential := .str "k"

theorem carries_of_message_odd :
    oddCall.wanted.read = .ok (atSignAction, oddArguments) ∧ oddArguments.Exact
      ∧ ∃ m, (oddCall.message .standard (notesRegistry "post")).outcome = .ok m
        ∧ Json.read 3 m.content = .ok oddArguments.toValue
        ∧ values "Content-Length" m = ["62"] := by
  have apart : LengthApart harbour := ⟨by decide +kernel, by decide +kernel⟩
  have post : Text.toUpper "post" ≠ "GET" := by decide +kernel
  have octets : ((oddCall.message .standard (notesRegistry "post")).outcome.map fun m =>
      (Text.encodeUtf8 m.content.toList).length).toOption = some 62 := by decide +kernel
  generalize built : (oddCall.message .standard (notesRegistry "post")).outcome = outcome at octets
  cases outcome with
  | error f => exact absurd octets (by simp)
  | ok m =>
      obtain ⟨request, looked_up, carries⟩ := carries_of_message rfl exact_oddArguments built
      have found : request.method = "post" := by
        injection looked_up with looked_up
        rw [← looked_up]
      rw [map_ok, toOption_ok, Option.some.injEq] at octets
      refine ⟨rfl, exact_oddArguments, m, rfl,
        carries.text (by rw [found]; exact post) 3 (by decide), ?_⟩
      rw [carries.sized apart (by rw [found]; exact post), octets]
      rfl

/-- Settings that put the downstream URL where the length belongs. -/
def lengthSettings : ProxySettings where
  baseUrl := "https://proxy.test"
  projectId := "proj-1"
  urlHeader := "Content-Length"
  rawResponseHeader := ProxySettings.defaultRawResponseHeader

def plainRequest : Request where
  method := "get"
  path := "/x"
  parameters := []
  baseUrl := .str ""

def lengthCall : Call where
  settings := lengthSettings
  wanted := ⟨.inl ⟨.str "T", .str "hubspot", .str "a1"⟩, .inl ⟨.mapping (p := none) [], .null⟩⟩
  credential := .str "jwt"

/-- **A MESSAGE WITHOUT CONTENT CAN HAVE A HEADER WITH A LENGTH**, if the settings name a header of
their own so. -/
theorem exists_length_without_content :
    ∃ (c : Call) (r : Registry) (action : Action) (arguments : Arguments) (request : Request)
      (m : Message), c.wanted.read = .ok (action, arguments) ∧ arguments.Exact
        ∧ r.lookup action.name = .ok request ∧ (c.message .standard r).outcome = .ok m
        ∧ Text.toUpper request.method = "GET" ∧ m.content = ""
        ∧ values "Content-Length" m = ["/x"] := by
  have parts : ((lengthCall.message .standard ⟨[("T", plainRequest)]⟩).outcome.map fun m =>
      (m.content, values "Content-Length" m)).toOption = some ("", ["/x"]) := by decide +kernel
  generalize built : (lengthCall.message .standard ⟨[("T", plainRequest)]⟩).outcome = outcome at parts
  cases outcome with
  | error f => exact absurd parts (by simp)
  | ok m =>
      rw [map_ok, toOption_ok, Option.some.injEq, Prod.mk.injEq] at parts
      have exact_arguments : Arguments.Exact ⟨.mapping (p := none) [], .null⟩ :=
        ⟨.empty, .null⟩
      exact ⟨lengthCall, ⟨[("T", plainRequest)]⟩, _, _, plainRequest, m, rfl, exact_arguments, rfl,
        built, by decide +kernel, parts.1, parts.2⟩

end Execution

end ApiTools
