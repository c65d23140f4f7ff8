/-
  ApiTools.Proofs.Proxy.Lookup
  ────────────────────────────
  **ONE ENTRY DECIDES A MESSAGE.**

  A message is built in two parts: the registry is asked for the request behind
  the tool, once, and `messageFor` does the rest without it.  The message of a
  call therefore follows from one entry of the registry, and where there is
  none there is no message (`Call.message_of_read`).
-/
import ApiTools.Proofs.Specification.Assembly
import ApiTools.Proxy.Execution

namespace ApiTools

/-- A text under which nothing is stored is no tool. -/
theorem Registry.lookup_of_no_entry {r : Registry} {name : String}
    (h : Table.get? name r.requests = none) :
    r.lookup (.str name) = .error (.toolNotFound name) := by
  simp [lookup, find?, Value.hashable, Value.isAtom, h, Value.text]

namespace Execution

/-! ## §1. The message for a request. -/

/-- The message of an action whose request has been found. -/
def messageFor (client : Http.Client) (request : Request) (settings : ProxySettings)
    (action : Action) (arguments : Arguments) (credential : Value) : Reported Http.Message := do
  let integration ←
    Reported.ofExcept (Integration.forAction action.integrationName action.integrationId)
  let proxyUrl ←
    Reported.ofExcept (Integration.route settings.baseUrl settings.projectId integration)
  let downstreamUrl ← Downstream.url request (arguments.params.orElse (.mapping (p := none) []))
  let method := Text.toUpper request.method
  Reported.say (.requestBuilt method proxyUrl downstreamUrl)
  Reported.ofExcept
    (Http.Message.build client method proxyUrl (headers settings credential downstreamUrl)
      (body method arguments))

section Message

variable {client : Http.Client} {r : Registry} {settings : ProxySettings} {action : Action}
  {arguments : Arguments} {credential : Value} {n : String}

/-- The registry is asked first, and only once. -/
theorem message_eq_bind :
    message client r settings action arguments credential
      = Reported.ofExcept (r.lookup action.name) >>= fun request =>
          messageFor client request settings action arguments credential := rfl

theorem message_of_entry {request : Request} (name : action.name = .str n)
    (entry : Table.get? n r.requests = some request) :
    message client r settings action arguments credential
      = messageFor client request settings action arguments credential := by
  rw [message_eq_bind, name, Registry.lookup_of_get? entry, Reported.ofExcept_ok_bind]

theorem message_of_no_entry (name : action.name = .str n)
    (missing : Table.get? n r.requests = none) :
    message client r settings action arguments credential = Reported.fail (.toolNotFound n) := by
  rw [message_eq_bind, name, Registry.lookup_of_no_entry missing, Reported.ofExcept_error_bind]

end Message

/-! ## §2. Calls. -/

/-- A call of an executor. -/
structure Call where
  settings : ProxySettings
  wanted : Wanted
  credential : Value

namespace Call

/-- The message of a call, built for a client against a registry. -/
def message (c : Call) (client : Http.Client) (r : Registry) : Reported Http.Message :=
  messageOf client r c.settings c.wanted c.credential

variable {client : Http.Client}

theorem message_eq_bind (c : Call) (r : Registry) :
    c.message client r = Reported.ofExcept c.wanted.read >>= fun w =>
      Execution.message client r c.settings w.1 w.2 c.credential := rfl

/-- **One entry decides the message of a call.** -/
theorem message_of_read {c : Call} {action : Action} {arguments : Arguments} {n : String}
    (read : c.wanted.read = .ok (action, arguments)) (name : action.name = .str n)
    (r : Registry) :
    c.message client r = match Table.get? n r.requests with
      | some request => messageFor client request c.settings action arguments c.credential
      | none => Reported.fail (.toolNotFound n) := by
  rw [message_eq_bind, read, Reported.ofExcept_ok_bind]
  split
  next request entry => exact message_of_entry name entry
  next missing => exact message_of_no_entry name missing

end Call

/-! ## §3. Sending. -/

/-- Without a message nothing is sent, whatever the reply would have been. -/
theorem send_of_error {client : Http.Client} {m : Reported Http.Message} {f : Fault}
    (h : m.outcome = .error f) (reply : Reply) :
    send client m reply = { sent := [], result := ⟨m.notices, .error f⟩ } := by
  unfold send
  rw [h]
  show (⟨_, Reported.bind m _⟩ : Execution) = _
  unfold Reported.bind
  rw [h]

end Execution

end ApiTools
