/-
  ApiTools.Proxy.Execution
  ────────────────────────
  **RUNNING ACTIONS THROUGH THE PROXY.**

  An action becomes one message to the proxy.  The message names the
  downstream URL in a header and carries parameters and body as they came; a
  message with the method GET has no body.  What the proxy answers is read as
  JSON, whatever its status.  The client that messages are built and sent with
  is given.
-/
import ApiTools.Http.Message
import ApiTools.Json.Octets
import ApiTools.Integration.Basic
import ApiTools.Registry
import ApiTools.Report
import ApiTools.Proxy.Action
import ApiTools.Proxy.Settings
import ApiTools.Proxy.Downstream

namespace ApiTools

namespace Execution

/-! ## §1. The message. -/

/-- The headers of a message to the proxy.  A header that the settings name may replace one that
is there. -/
def headers (settings : ProxySettings) (credential : Value) (downstreamUrl : String) :
    Table String :=
  Table.ofList [
    ("Content-Type", "application/json"),
    ("Authorization", "Bearer " ++ credential.text),
    (settings.urlHeader, downstreamUrl),
    (settings.rawResponseHeader, "true")]

/-- The body of a message: parameters and body of the call, unless the method is GET. -/
def body (method : String) (arguments : Arguments) : Option Value :=
  if method = "GET" then none else some arguments.toValue

/-- The message of an action. -/
def message (client : Http.Client) (registry : Registry) (settings : ProxySettings) (action : Action)
    (arguments : Arguments) (credential : Value) : Reported Http.Message := do
  let request ← Reported.ofExcept (registry.lookup action.name)
  let integration ←
    Reported.ofExcept (Integration.forAction action.integrationName action.integrationId)
  let proxyUrl ←
    Reported.ofExcept (Integration.route settings.baseUrl settings.projectId integration)
  let downstreamUrl ← Downstream.url request (arguments.params.orElse (.mapping (p := none) []))
  let method := Text.toUpper request.method
  Reported.say (.requestBuilt method proxyUrl downstreamUrl)
  Reported.ofExcept
    (Http.Message.build client method proxyUrl (headers settings credential downstreamUrl)
      (body method arguments))

/-! ## §2. What is to be run. -/

/-- An action and its arguments, each as it is or as data that describe it. -/
structure Wanted where
  action : Action ⊕ Value
  arguments : Arguments ⊕ Value

/-- The action that a mapping describes; other data describe none. -/
def described? (data : Value) : Except Fault (Option Action) :=
  if data.isMapping then (Action.ofValue data).map some else .ok none

/-- The arguments that are given or described. -/
def givenArguments : Arguments ⊕ Value → Except Fault Arguments
  | .inl arguments => .ok arguments
  | .inr data => Arguments.ofValue data

/-- The action and its arguments.  A mapping is read as an action before the arguments are read; of
anything else it shows after that that it has no name. -/
def Wanted.read (w : Wanted) : Except Fault (Action × Arguments) :=
  match w.action with
  | .inl action => (givenArguments w.arguments).map fun arguments => (action, arguments)
  | .inr data => do
    let known ← described? data
    let arguments ← givenArguments w.arguments
    match known with
    | some action => .ok (action, arguments)
    | none => data.lacks "name"

/-- The message of what is to be run. -/
def messageOf (client : Http.Client) (registry : Registry) (settings : ProxySettings)
    (wanted : Wanted) (credential : Value) : Reported Http.Message := do
  let (action, arguments) ← Reported.ofExcept wanted.read
  message client registry settings action arguments credential

/-! ## §3. The answer. -/

/-- What the proxy gives back. -/
inductive Reply where
  | answered (status : Int) (octets : List UInt8)
  | failed (reason : String)

/-- The value that a reply holds. -/
def Reply.read (nesting : Nat) (url : String) : Reply → Reported Value
  | answered status octets => do
    Reported.say (.responseReceived status url)
    Reported.ofExcept (Json.readOctets nesting octets)
  | failed reason => Reported.fail (.unreachable reason)

end Execution

/-- What running an action came to: the messages sent, and the outcome with the notices. -/
structure Execution where
  sent : List Http.Message
  result : Reported Value

namespace Execution

/-- Sends a message, if there is one, and reads the reply. -/
def send (client : Http.Client) (m : Reported Http.Message) (reply : Reply) : Execution :=
  { sent := match m.outcome with
      | .ok m => [client.leaving m]
      | .error _ => []
    result := m >>= fun m => reply.read client.reading m.url.text }

end Execution

end ApiTools
