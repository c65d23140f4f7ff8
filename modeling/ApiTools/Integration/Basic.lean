/-
  ApiTools.Integration.Basic
  ──────────────────────────
  **INTEGRATIONS.**

  An integration is a standard one, known by its type, or a custom one, known
  by a name that people gave it and by an id.  The file name of a
  specification tells the integration it belongs to, and the integration tells
  the route that its requests take through the proxy.
-/
import ApiTools.Value.Access

namespace ApiTools

inductive Integration where
  | standard (type id : Value)
  | custom (name id : Value)
  /-- something else that stands where an integration should -/
  | unknown

namespace Integration

/-! ## §1. Identity. -/

/-- What marks the names of custom integrations. -/
def customMark : String := "custom."

/-- A custom integration's name without its spaces, in lower case. -/
def normalizeName (name : Value) : Except Fault String := do
  let s ← name.textFor "replace"
  .ok (Text.toLower (String.ofList (s.toList.filter (· != ' '))))

def id : Integration → Value
  | standard _ id => id
  | custom _ id => id
  | unknown => .null

/-- The word for the kind of an integration. -/
def kindName : Integration → String
  | custom _ _ => "custom"
  | _ => "standard"

/-- The name of a custom integration: that of its inner record, or its own. -/
def statedName (data : Value) : Except Fault Value := do
  let inner ← data.field "customIntegration"
  let inner := inner.orElse (.mapping (p := none) [])
  let own ← inner.field? "name"
  let outer ← data.field "name"
  .ok (own.getD outer)

/-- Reads an integration from its loosely typed form. -/
def ofValue (data : Value) : Except Fault Integration := do
  let kind ← data.field "type"
  if !kind.truthy then .error (.refused (.integrationWithoutType data))
  else if kind.isText "custom" then
    let name ← statedName data
    if !name.truthy then
      let id ← data.field "id"
      .error (.refused (.customWithoutName id))
    else
      let id ← data.part "id"
      .ok (custom name (.str id.text))
  else
    let id ← data.field "id"
    .ok (standard kind (if id.isNull then .null else .str id.text))

/-! ## §2. Files. -/

/-- Does a specification file belong to the integration?  A standard one owns the files whose name
up to the first dot is its type, a custom one those whose name contains its mark and normalised
name. -/
def ownsFile (file : String) : Integration → Except Fault Bool
  | standard type _ => .ok (type.isText (Text.upTo '.' file))
  | custom name _ => do
    let normalized ← normalizeName name
    .ok (Text.contains (customMark ++ normalized) file)
  | unknown => .error .unknownIntegration

/-- The first integration that a specification file belongs to. -/
def findFor (file : String) : List Integration → Except Fault (Option Integration)
  | [] => .ok none
  | i :: is => do
    if ← ownsFile file i then .ok (some i) else findFor file is

/-! ## §3. Routes. -/

/-- The integration that an action was compiled for.  Its name is that of a specification file,
so the mark tells the custom ones. -/
def forAction (name id : Value) : Except Fault Integration :=
  match name with
  | .str s =>
    if Text.startsWith customMark s then
      if !id.truthy then .error (.refused (.customWithoutId s))
      else .ok (custom (.str (String.ofList (s.toList.drop customMark.length))) id)
    else .ok (standard name id)
  | .torn t =>
    if Text.startsWith customMark t.shown then
      if !id.truthy then .error (.refused (.customWithoutId t.shown))
      else .ok (custom (.ofPoints (t.points.drop customMark.length)) id)
    else .ok (standard name id)
  | .bytes _ => .error (.misuse (.noText "bytes"))
  | v => v.lacks "startswith"

/-- The URL of the proxy that the integration's requests are sent to. -/
def route (base project : String) : Integration → Except Fault String
  | custom _ id =>
    .ok (base ++ "/projects/" ++ project ++ "/sdk/proxy/custom/" ++ id.text)
  | standard type _ =>
    .ok (base ++ "/projects/" ++ project ++ "/sdk/proxy/" ++ type.text)
  | unknown => .error .unknownIntegration

end Integration

end ApiTools
