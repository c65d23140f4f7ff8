/-
  ApiTools.CommandLine.Command
  ────────────────────────────
  **THE COMMANDS.**

  `tools` prints the tools of all specifications, `invoke` runs one of them
  through the proxy.  How much the program tells is stated in front of the
  command, all else behind it.
-/
import ApiTools.CommandLine.Grammar
import ApiTools.Report
import ApiTools.Proxy.Settings

namespace ApiTools.CommandLine

/-! ## §1. The commands and their options. -/

/-- What both commands need to load specifications. -/
structure LoadOptions where
  integrations : String
  folder : Option String
  concurrency : Option Int
  keepGoing : Bool
  deriving DecidableEq

/-- The tool that is run, and with what. -/
structure Invocation where
  tool : String
  integrationName : String
  integrationId : Option String
  params : Option String
  body : Option String
  token : Option String
  proxyUrl : Option String
  projectId : Option String
  deriving DecidableEq

structure Command where
  /-- the least grave notices that are told -/
  level : Level
  load : LoadOptions
  /-- the tool to run; without one, all tools are printed -/
  invocation : Option Invocation
  deriving DecidableEq

/-! ## §2. Their grammars. -/

def switch (names : List String) : Option OptionRule := some ⟨names, .nothing, false⟩

def valued (name : String) : Option OptionRule := some ⟨[name], .text, false⟩

def needed (name : String) : Option OptionRule := some ⟨[name], .text, true⟩

def helpRule : Option OptionRule := some ⟨["-h", "--help"], .help, false⟩

def programName : String := "openapi2tools"

def mainGrammar : Grammar :=
  { program := programName
    rules := [helpRule, switch ["--verbose"], switch ["--debug"], none]
    operand := some (.command "command" ["tools", "invoke"]) }

def loadRules : List (Option OptionRule) :=
  [helpRule, needed "--integrations", valued "--spec-dir",
    some ⟨["--concurrency"], .integer, false⟩, switch ["--keep-going"]]

def toolsGrammar : Grammar :=
  { program := programName ++ " tools", rules := loadRules, operand := none }

def invokeGrammar : Grammar :=
  { program := programName ++ " invoke"
    rules := loadRules ++ [none, needed "--integration-name", valued "--integration-id",
      valued "--params", valued "--body", valued "--token", valued "--proxy-url",
      valued "--project-id"]
    operand := some (.single "name") }

/-! ## §3. Reading commands. -/

/-- The least grave notices that are told. -/
def levelOf (f : Found) : Level :=
  if f.has "--debug" then .debug else if f.has "--verbose" then .info else .warning

def integerOf (text : String) : Option Int := (Number.readInt 10 text.toList).toOption

def loadOptions (f : Found) : LoadOptions :=
  { integrations := (f.value? "--integrations").getD ""
    folder := f.value? "--spec-dir"
    concurrency := (f.value? "--concurrency").bind integerOf
    keepGoing := f.has "--keep-going" }

/-- The credential may come from the environment. -/
def invocationOf (env : Environment) (f : Found) : Invocation :=
  { tool := (f.operand.getD []).headD ""
    integrationName := (f.value? "--integration-name").getD ""
    integrationId := f.value? "--integration-id"
    params := f.value? "--params"
    body := f.value? "--body"
    token := (f.value? "--token").or (Environment.get? "PROXY_TOKEN" env)
    proxyUrl := f.value? "--proxy-url"
    projectId := f.value? "--project-id" }

/-- Reads with a grammar; a problem names the grammar's program. -/
def readWith (g : Grammar) (arguments : List String) : Except UsageError Found :=
  match g.read arguments with
  | .ok f => .ok f
  | .error p => .error ⟨g.program, p⟩

/-- Reads the arguments of the program. -/
def Command.read (env : Environment) (arguments : List String) : Except UsageError Command := do
  let outer ← readWith mainGrammar arguments
  let (name, rest) :=
    match outer.operand with
    | some (name :: rest) => (name, rest)
    | _ => ("", [])
  let isInvoke := name == "invoke"
  let inner ← readWith (if isInvoke then invokeGrammar else toolsGrammar) rest
  let extras := outer.extras ++ inner.extras
  if extras = [] then
    .ok { level := levelOf outer, load := loadOptions inner
          invocation := if isInvoke then some (invocationOf env inner) else none }
  else .error ⟨programName, .unrecognized extras⟩

end ApiTools.CommandLine
