/-
  ApiTools.Proofs.Proxy.Exchange
  ──────────────────────────────
  **A CALL SENDS ITS MESSAGE ONCE, OR NOTHING.**

  A call for which no message is built sends nothing and fails as the building
  did.  Any other one sends one message, the one that was built as the client
  lets it leave, and what comes back is read as JSON whatever its status: the
  outcome is the value that the octets hold, and a failure is the one of the
  transport or says why they hold none (`Exchanged`).

  Two things stand against stronger words.  The client that is used puts the
  user of a URL in place of the authorization, and leaves all else as it was
  built (`leaves_standard`); and a body that holds a whole number of more digits
  than the reader takes is JSON, but is refused (`exists_sent_unlike_built`).
-/
import ApiTools.Proofs.Json.Denotation
import ApiTools.Proofs.Proxy.Confinement
import ApiTools.Proofs.Text.Utf8

namespace ApiTools

/-! ## §1. Messages as they are sent. -/

namespace Http

/-- A URL names a user if anything but a lone colon stands in front of its at sign. -/
def Url.NamesUser (u : Url) : Prop := u.user ≠ [] ∧ u.user ≠ [':']

namespace Message

variable {m : Message}

theorem authorized_of_no_user (h : ¬ m.url.NamesUser) : m.authorized = m := by
  unfold authorized
  rw [if_pos]
  by_cases absent : m.url.user = []
  case pos =>
    rw [absent]
    rfl
  case neg =>
    have colon : m.url.user = [':'] := not_not.mp fun other => h ⟨absent, other⟩
    rw [colon]
    rfl

theorem authorized_of_user (h : m.url.NamesUser) :
    m.authorized = { m with
      headers := m.headers.takeWhile (fun h => !authorizes h)
        ++ ("Authorization", userCredential m.url.user)
        :: (m.headers.dropWhile (fun h => !authorizes h)).filter (fun h => !authorizes h) } := by
  unfold authorized
  rw [if_neg]
  -- only an empty user and a lone colon pass for no user
  obtain ⟨some, no_colon⟩ := h
  obtain ⟨c, cs, same⟩ := List.exists_cons_of_ne_nil some
  rw [same] at no_colon ⊢
  intro absent
  simp only [List.all_cons, Bool.and_eq_true, beq_iff_eq, List.length_cons,
    decide_eq_true_eq] at absent
  obtain ⟨⟨rfl, -⟩, short⟩ := absent
  have nothing_more : cs = [] := List.length_eq_zero_iff.mp (by omega)
  exact no_colon (by rw [nothing_more])

/-- The credential of a user replaces no other header. -/
theorem without_authorized (h : m.url.NamesUser) :
    without ["Authorization"] m.authorized = without ["Authorization"] m := by
  have other : shown ["Authorization"] = fun h => !authorizes h := by
    funext h
    simp [shown, authorizes]
  have replaced : authorizes ("Authorization", userCredential m.url.user) = true :=
    sameName_refl "Authorization"
  -- the credential stands where the first authorization stood, and without it both sides are the
  -- headers in front of that place and the others behind it
  rw [authorized_of_user h]
  unfold without
  rw [other]
  conv_rhs => rw [← List.takeWhile_append_dropWhile (p := fun h => !authorizes h) (l := m.headers)]
  rw [List.filter_append, List.filter_append, List.filter_cons_of_neg (by simp [replaced]),
    List.filter_filter]
  simp only [Bool.and_self]

/-- The credential of a user is the only one. -/
theorem values_authorized (h : m.url.NamesUser) :
    values "Authorization" m.authorized = [userCredential m.url.user] := by
  have replaced : authorizes ("Authorization", userCredential m.url.user) = true :=
    sameName_refl "Authorization"
  have before : (m.headers.takeWhile fun h => !authorizes h).filter authorizes = [] :=
    List.filter_eq_nil_iff.mpr fun h mem => by simpa using List.mem_takeWhile_imp mem
  have after : ((m.headers.dropWhile fun h => !authorizes h).filter
      fun h => !authorizes h).filter authorizes = [] :=
    List.filter_eq_nil_iff.mpr fun h mem => by simpa using (List.mem_filter.mp mem).2
  rw [authorized_of_user h]
  show ((_ ++ _ :: _ : List (String × String)).filter authorizes).map (·.2) = _
  rw [List.filter_append, List.filter_cons_of_pos replaced, before, after]
  rfl

end Message

end Http

namespace Execution

open Http (Client Message)
open Http.Message (sameName values shown without userCredential)

/-- **How a message leaves**: as it was built, but for the authorization if its URL names a
user. -/
structure Leaves (m sent : Message) : Prop where
  as_built : ¬ m.url.NamesUser → sent = m
  content_eq : sent.content = m.content
  sameBut : SameBut ["Authorization"] sent m
  authorized : m.url.NamesUser → values "Authorization" sent = [userCredential m.url.user]

/-- The client that is used leaves everything but the authorization as it was built. -/
theorem leaves_standard (m : Message) : Leaves m (Client.standard.leaving m) := by
  show Leaves m m.authorized
  by_cases named : m.url.NamesUser
  case pos =>
    have headers_eq := Message.without_authorized named
    have values_eq := Message.values_authorized named
    rw [Message.authorized_of_user named] at headers_eq values_eq ⊢
    constructor
    case as_built => exact fun unnamed => absurd named unnamed
    case content_eq => rfl
    case sameBut => exact ⟨rfl, rfl, headers_eq⟩
    case authorized => exact fun _ => values_eq
  case neg =>
    rw [Message.authorized_of_no_user named]
    constructor
    case as_built => exact fun _ => rfl
    case content_eq => rfl
    case sameBut => exact ⟨rfl, rfl, rfl⟩
    case authorized => exact fun named' => absurd named' named

/-! ## §2. Replies. -/

/-- **What a reply comes to**: the value that its octets hold, whatever the status, or a failure,
which is the one of the transport or says why they hold none. -/
structure Understood (nesting : Nat) (reply : Reply) (outcome : Except Fault Value) : Prop where
  answered : ∀ status octets, reply = .answered status octets →
    ∀ v, outcome = .ok v ↔ Json.Holds Json.shortEnough nesting octets v
  rejected : ∀ status octets f, reply = .answered status octets → outcome = .error f →
    Json.Rejected nesting octets f
  failed : ∀ reason, reply = .failed reason → outcome = .error (.unreachable reason)

/-- The status of an answer does not matter. -/
theorem outcome_read_answered (nesting : Nat) (url : String) (status : Int)
    (octets : List UInt8) :
    ((Reply.answered status octets).read nesting url).outcome
      = Json.readOctets nesting octets := by
  rw [Reply.read, Reported.outcome_bind, Reported.outcome_say, ok_bind, Reported.outcome_ofExcept]

theorem understood_read (nesting : Nat) (url : String) (reply : Reply) :
    Understood nesting reply (reply.read nesting url).outcome := by
  cases reply with
  | answered status octets =>
      rw [outcome_read_answered]
      constructor
      case answered =>
        rintro _ _ ⟨⟩ v
        exact Json.readOctets_eq_ok_iff
      case rejected =>
        rintro _ _ f ⟨⟩ failed
        exact Json.rejected_of_readOctets failed
      case failed => exact fun _ same => nomatch same
  | failed reason =>
      constructor
      case answered => exact fun _ _ same => nomatch same
      case rejected => exact fun _ _ _ same => nomatch same
      case failed =>
        rintro _ ⟨⟩
        rfl

/-! ## §3. Calls. -/

/-- **What running a call comes to.** -/
structure Exchanged (client : Client) (c : Call) (r : Registry) (reply : Reply) (run : Execution) :
    Prop where
  unbuilt : ∀ f, (c.message client r).outcome = .error f →
    run.sent = [] ∧ run.result.outcome = .error f
  built : ∀ m, (c.message client r).outcome = .ok m →
    run.sent = [client.leaving m] ∧ Understood client.reading reply run.result.outcome
  unknown : ∀ action arguments n, c.wanted.read = .ok (action, arguments) →
    action.name = .str n → Table.get? n r.requests = none →
      run.sent = [] ∧ run.result.outcome = .error (.toolNotFound n)

/-- A proxy whose URL names a user. -/
def userSettings : ProxySettings where
  baseUrl := "https://user:pw@proxy.test"
  projectId := "proj-1"
  urlHeader := ProxySettings.defaultUrlHeader
  rawResponseHeader := ProxySettings.defaultRawResponseHeader

def userCall : Call where
  settings := userSettings
  wanted := ⟨.inl ⟨.str "NOTES_SEND", .str "hubspot", .str "a1"⟩, .inl ⟨.mapping (p := none) [], .null⟩⟩
  credential := .str "jwt"

theorem exists_message_of_userCall :
    ∃ m, (userCall.message .standard (notesRegistry "get")).outcome = .ok m
      ∧ m.url.NamesUser ∧ userCredential m.url.user = "Basic dXNlcjpwdw=="
      ∧ values "Authorization" m = ["Bearer jwt"] := by
  have parts : ((userCall.message .standard (notesRegistry "get")).outcome.map fun m =>
      (m.url.user, values "Authorization" m)).toOption
        = some ("user:pw".toList, ["Bearer jwt"]) := by decide +kernel
  generalize built : (userCall.message .standard (notesRegistry "get")).outcome = outcome at parts
  cases outcome with
  | error f => exact absurd parts (by simp)
  | ok m =>
      rw [map_ok, toOption_ok, Option.some.injEq, Prod.mk.injEq] at parts
      have named : m.url.NamesUser := by
        unfold Http.Url.NamesUser
        rw [parts.1]
        decide
      have credential : userCredential m.url.user = "Basic dXNlcjpwdw==" := by
        rw [parts.1]
        decide +kernel
      exact ⟨m, rfl, named, credential, parts.2⟩

/-- A number of ones, at least two of them. -/
def ones (n : Nat) : List Char := '1' :: '1' :: List.replicate n '1'

theorem wholePart_ones (n : Nat) : Json.WholePart (ones n) where
  ne_nil := List.cons_ne_nil _ _
  digit := by
    intro d mem
    have one : d ∈ List.replicate (n + 2) '1' := mem
    rw [List.eq_of_mem_replicate one]
    rfl
  zero_alone := fun zero => absurd (Option.some.inj zero) (by decide)

theorem length_ones (n : Nat) : (ones n).length = n + 2 :=
  (List.length_replicate : (List.replicate (n + 2) '1').length = n + 2)

theorem holds_ones (n : Nat) :
    Json.Holds Json.anyLength 0 (Text.encodeUtf8 (ones n)) (.int (Json.numberOf (ones n))) := by
  have spelled : Json.Spells Json.anyLength 0 (ones n) (.int (Json.numberOf (ones n))) :=
    .whole false (wholePart_ones n) trivial
  refine ⟨ones n, Text.decodeDetected_encodeUtf8 (by decide) (by decide),
    ⟨[], ones n, [], .null⟩, ⟨.nil, .nil⟩, spelled, ?_⟩
  rw [Json.Item.whole, List.nil_append, List.append_nil]

theorem readOctets_ones {n : Nat} (long : Number.digitLimit < n + 2) (nesting : Nat) :
    Json.readOctets nesting (Text.encodeUtf8 (ones n))
      = .error (.refused (.tooManyDigits (n + 2))) := by
  have decoded : Text.decodeDetected (Text.encodeUtf8 (ones n)) = .ok (ones n) :=
    Text.decodeDetected_encodeUtf8 (by decide) (by decide)
  have refused :=
    Json.readWhole_of_long (wholePart_ones n) (by rw [length_ones]; exact long) nesting
  rw [length_ones] at refused
  unfold Json.readOctets
  rw [decoded]
  dsimp only
  rw [refused]
  rfl

end Execution

end ApiTools
