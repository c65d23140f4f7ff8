/-
  ApiTools.CommandLine.Run
  ────────────────────────
  **RUNNING COMMANDS.**

  A command is run on the files of the present folder, the environment, the
  libraries it uses and the reply that the proxy would give.  What it writes,
  what it sends and what it tells are its outcome.  Faults that a user can mend
  end it with one line and the status 1; any other fault leaves the program.
-/
import ApiTools.CommandLine.Command
import ApiTools.Specification.Load
import ApiTools.Proxy.Execution
import ApiTools.Json.Octets

namespace ApiTools.CommandLine

/-! ## §1. Outcomes. -/

/-- What a run comes to. -/
structure Outcome where
  /-- the status, or the fault that leaves the program -/
  exit : Except Fault Nat
  output : String
  errors : String
  notices : List Notice
  sent : List Http.Message

/-- Where a run takes place. -/
structure World where
  files : Files
  environment : Environment
  library : Library
  reply : Execution.Reply

/-- Can a user mend the fault: by settings, files or arguments? -/
def isMendable : Fault → Bool
  | .toolNotFound _ => true
  | .specUnreadable _ _ => true
  | .refused _ => true
  | .malformedJson _ => true
  | .unknownFormat => true
  | .missingDirectory _ => true
  | .notOpened _ _ => true
  | .unencodable _ => true
  | .torn => true
  | .undecodable _ => true
  | _ => false

/-- The outcome of a fault. -/
def ofFault (notices : List Notice) (sent : List Http.Message) (f : Fault) : Outcome :=
  if isMendable f then ⟨.ok 1, "", "Error: " ++ f.message ++ "\n", notices, sent⟩
  else ⟨.error f, "", "", notices, sent⟩

/-- The outcome of arguments that cannot be used. -/
def ofUsage (e : UsageError) : Outcome :=
  match e.problem with
  | .helpAsked => ⟨.ok 0, "", "", [], []⟩
  | _ => ⟨.ok 2, "", e.message, [], []⟩

/-! ## §2. What both commands do. -/

/-- The integrations that a file lists. -/
def readIntegrations (w : World) (path : String) : Except Fault (List Integration) := do
  let text ← w.files.readText path
  match ← Json.readText w.library.reading text with
  | .list items => items.mapM Integration.ofValue
  | _ => .error (.refused (.notAList path))

/-- The settings of a load: those of the environment, where the options state none. -/
def loaderSettings (env : Environment) (o : LoadOptions) : Except Fault LoaderSettings := do
  let settings ← LoaderSettings.ofEnvironment env
  .ok { directory :=
          match o.folder with
          | some folder => if folder = "" then settings.directory else folder
          | none => settings.directory
        concurrency :=
          match o.concurrency with
          | some n => if n = 0 then settings.concurrency else n
          | none => settings.concurrency
        failFast := settings.failFast && !o.keepGoing }

/-- Loads the specifications. -/
def load (w : World) (o : LoadOptions) : Reported Loaded := do
  let integrations ← Reported.ofExcept (readIntegrations w o.integrations)
  let settings ← Reported.ofExcept (loaderSettings w.environment o)
  Loaded.load settings w.library w.files integrations

/-- A value as people read it, and a line break. -/
def printed (nesting : Nat) (v : Value) : Except Fault String :=
  match Json.write (Json.pretty nesting) v with
  | .ok s => .ok (s ++ "\n")
  | .error p => .error p.fault

/-! ## §3. The commands. -/

/-- The line of a file that could not be loaded. -/
def failureLine (f : LoadFailure) : String :=
  "Failed to load " ++ f.file ++ ": " ++ f.fault.message ++ "\n"

/-- Prints the tools of all specifications. -/
def runTools (w : World) (o : LoadOptions) : Outcome :=
  let loaded := load w o
  match loaded.outcome with
  | .error f => ofFault loaded.notices [] f
  | .ok l =>
    match printed w.library.printing (.list (l.tools.map Tool.toValue)) with
    | .error f => ofFault loaded.notices [] f
    | .ok text =>
      ⟨.ok (if l.failures.isEmpty then 0 else 1), text,
        String.join (l.failures.map failureLine), loaded.notices, []⟩

/-- The value that an argument holds as JSON, null if it is not given. -/
def jsonArgument (nesting : Nat) (name : String) : Option String → Except Fault Value
  | none => .ok .null
  | some text =>
    match Json.readText nesting text with
    | .ok v => .ok v
    | .error (.malformedJson m) => .error (.refused (.argumentNotJson name m))
    | .error f => .error f

/-- The arguments of a tool. -/
def argumentsOf (nesting : Nat) (i : Invocation) : Except Fault ApiTools.Arguments := do
  let params ← jsonArgument nesting "params" i.params
  let body ← jsonArgument nesting "body" i.body
  .ok { params := params.orElse (.mapping (p := none) []), body }

/-- The text of an option as a value, null if it is not given. -/
def textOrNull : Option String → Value
  | some s => .str s
  | none => .null

/-- The action of an invocation. -/
def actionOf (i : Invocation) : Action :=
  { name := .str i.tool, integrationName := .str i.integrationName
    integrationId := textOrNull i.integrationId }

/-- The message of an invocation. -/
def messageOf (w : World) (o : LoadOptions) (i : Invocation) (token : String) :
    Reported Http.Message := do
  let loaded ← load w o
  let settings ← Reported.ofExcept
    (ProxySettings.ofEnvironment w.environment (textOrNull i.proxyUrl) (textOrNull i.projectId))
  let arguments ← Reported.ofExcept (argumentsOf w.library.reading i)
  Execution.message w.library.client loaded.registry settings (actionOf i) arguments (.str token)

/-- Runs a tool through the proxy and prints the answer. -/
def runInvoke (w : World) (o : LoadOptions) (i : Invocation) : Outcome :=
  let token := i.token.getD ""
  if token = "" then ofFault [] [] (.refused .noCredential)
  else
    let run := Execution.send w.library.client (messageOf w o i token) w.reply
    match run.result.outcome >>= printed w.library.printing with
    | .error f => ofFault run.result.notices run.sent f
    | .ok text => ⟨.ok 0, text, "", run.result.notices, run.sent⟩

/-- Runs a command; only notices that are grave enough are told. -/
def Command.run (w : World) (c : Command) : Outcome :=
  let outcome :=
    match c.invocation with
    | some i => runInvoke w c.load i
    | none => runTools w c.load
  { outcome with notices := outcome.notices.filter (Notice.atLeast c.level) }

/-- Runs the program on arguments. -/
def run (w : World) (arguments : List String) : Outcome :=
  match Command.read w.environment arguments with
  | .ok c => c.run w
  | .error e => ofUsage e

/-- Speaker, level and text of a notice. -/
def toldLine (n : Notice) : String :=
  n.speaker.name ++ " " ++ n.level.name ++ ": " ++ n.text

end ApiTools.CommandLine
