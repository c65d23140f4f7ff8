/-
  ApiTools.Tool.Server
  ────────────────────
  **THE SERVER OF A DOCUMENT.**

  Requests go to the first server that a document lists.  Its URL may hold
  variables in braces; each is replaced by its default, one variable after the
  other.
-/
import ApiTools.Value.Access

namespace ApiTools.Server

/-- The default of a variable as text, empty if it has none. -/
def defaultText (definition : Value) : Except Fault String := do
  let d ← definition.field? "default"
  .ok ((d.getD (.str "")).text)

/-- Replaces one variable in a URL. -/
def replaceVariable (url : Value) (name : Value) (definition : Value) : Except Fault Value :=
  match url with
  | .str s => do
    let d ← defaultText definition
    .ok (.str (Text.replaceAll ("\x7b" ++ name.text ++ "\x7d") d s))
  | .torn t => do
    let d ← defaultText definition
    .ok (.str (Text.replaceAll ("\x7b" ++ name.text ++ "\x7d") d t.shown))
  | .bytes _ => do
    let _ ← defaultText definition
    .error (.misuse (.noText "bytes"))
  | .date _ => do
    let _ ← defaultText definition
    .error (.misuse (.noText "date"))
  | .datetime _ => do
    let _ ← defaultText definition
    .error (.misuse (.noText "datetime"))
  | v => v.lacks "replace"

/-- Replaces variables in a URL, in the order in which they are declared. -/
def replaceVariables : Value → Entries → Except Fault Value
  | url, [] => .ok url
  | url, (name, definition) :: rest => do
    let url ← replaceVariable url name definition
    replaceVariables url rest

/-- The URL of a document's first server, null if it names none. -/
def baseUrl (document : Value) : Except Fault Value := do
  let servers ← document.field "servers"
  if !servers.truthy then .ok .null
  else
    let server ← servers.firstPart
    let url ← server.field "url"
    if !url.truthy then .ok .null
    else
      let stated ← server.field "variables"
      let declared ← (stated.orElse (.mapping (p := none) [])).pairs
      replaceVariables url declared

end ApiTools.Server
