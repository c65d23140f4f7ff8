/-
  ApiTools.Proxy.Settings
  ───────────────────────
  **SETTINGS.**

  Settings come from variables of the environment.  A variable that is missing
  has a default or is required; the number of specifications read at once is
  never below one.
-/
import ApiTools.Value.Access
import ApiTools.Number.Whole

namespace ApiTools

/-- The variables of an environment. -/
abbrev Environment := List (String × String)

namespace Environment

def get? (name : String) (env : Environment) : Option String :=
  (List.find? (fun e => e.1 == name) env).map (·.2)

end Environment

/-! ## §1. The proxy. -/

/-- Where requests are sent, and the headers that describe them to the proxy. -/
structure ProxySettings where
  baseUrl : String
  projectId : String
  urlHeader : String
  rawResponseHeader : String

namespace ProxySettings

def defaultUrlHeader : String := "X-Paragon-Proxy-Url"

def defaultRawResponseHeader : String := "X-Paragon-Use-Raw-Response"

/-- A given value if it counts as present, else a variable. -/
def givenOr (given : Value) (name : String) (env : Environment) : Value :=
  if given.truthy then given
  else match Environment.get? name env with
    | some s => .str s
    | none => .null

/-- Without the slashes at the end. -/
def trimSlashes (s : String) : String :=
  String.ofList (s.toList.reverse.dropWhile (· == '/')).reverse

/-- Reads the settings; a base URL or a project that is given comes before the variable. -/
def ofEnvironment (env : Environment) (givenUrl givenProject : Value) :
    Except Fault ProxySettings := do
  let url := givenOr givenUrl "PROXY_BASE_URL" env
  let project := givenOr givenProject "PROJECT_ID" env
  if !url.truthy then .error (.refused (.settingMissing "PROXY_BASE_URL"))
  else if !project.truthy then .error (.refused (.settingMissing "PROJECT_ID"))
  else
    let base ← url.textFor "rstrip"
    .ok { baseUrl := trimSlashes base, projectId := project.text
          urlHeader := (Environment.get? "PROXY_URL_HEADER" env).getD defaultUrlHeader
          rawResponseHeader :=
            (Environment.get? "PROXY_RAW_RESPONSE_HEADER" env).getD defaultRawResponseHeader }

end ProxySettings

/-! ## §2. Loading. -/

/-- Where specifications are, how many are read at once, and whether the first failure ends the
load. -/
structure LoaderSettings where
  directory : String
  concurrency : Int
  failFast : Bool

namespace LoaderSettings

def defaultDirectory : String := "openapi"

/-- A yes or no; what says nothing leaves the default. -/
def flag (default : Bool) : Option String → Bool
  | none => default
  | some s =>
    let word := String.ofList (Text.lower (Text.strip s.toList))
    if word = "" then default else ["1", "true", "yes", "on"].contains word

def ofEnvironment (env : Environment) : Except Fault LoaderSettings := do
  let concurrency ← Number.whole 10
    ((Environment.get? "OPENAPI_LOAD_CONCURRENCY" env).getD "8").toList
  .ok { directory := (Environment.get? "OPENAPI_SPEC_DIR" env).getD defaultDirectory
        concurrency := max 1 concurrency
        failFast := flag true (Environment.get? "OPENAPI_FAIL_FAST" env) }

end LoaderSettings

end ApiTools
