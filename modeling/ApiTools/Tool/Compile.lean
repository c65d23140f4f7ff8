/-
  ApiTools.Tool.Compile
  ─────────────────────
  **FROM DOCUMENTS TO TOOLS.**

  Every operation of a document, a path with an HTTP method, becomes one tool
  with one request.  The tool's input has at most two properties: `params`
  with every declared parameter, and `body` with the JSON body.  Of two
  operations with the same tool name the later one stays, and the replacement
  is reported.
-/
import ApiTools.Schema.Parameter
import ApiTools.Tool.Naming
import ApiTools.Tool.Request
import ApiTools.Tool.Server
import ApiTools.Table

namespace ApiTools

/-- The tools of one document and the requests behind them. -/
structure Compiled where
  integrationName : Value
  tools : List Tool
  requests : Table Request

namespace Compile

/-! ## §1. One operation. -/

/-- The methods that make an operation. -/
def httpMethods : List String :=
  ["get", "put", "post", "delete", "options", "head", "patch", "trace"]

/-- An object schema. -/
def objectSchema (properties : Entries) (required : List Value) : Value :=
  .object [
    ("type", .str "object"), ("properties", .mapping (p := none) properties),
    ("required", .list required)]

/-- The properties for parameters, one for each name. -/
def parameterProperties : Entries → List Value → Except Fault Entries
  | acc, [] => .ok acc
  | acc, p :: ps => do
    let name ← p.part "name"
    let schema ← Schema.ofParameter p
    parameterProperties (Entries.insert name schema acc) ps

/-- The names of the parameters that must be given. -/
def requiredNames : List Value → Except Fault (List Value)
  | [] => .ok []
  | p :: ps => do
    let required ← p.field "required"
    let location ← p.field "in"
    let others ← requiredNames ps
    if required.truthy || location.isText "path" then
      let name ← p.part "name"
      .ok (name :: others)
    else .ok others

/-- The schema of a request's JSON body, if the operation has one. -/
def bodySchema (requestBody : Value) : Except Fault (Option Value) :=
  if !requestBody.isMapping then .ok none
  else do
    let content ← requestBody.field "content"
    let content := content.orElse (.mapping (p := none) [])
    if ← content.has "application/json" then
      let json ← content.part "application/json"
      let schema ← json.field "schema"
      let converted ← Schema.ofOpenApi schema
      .ok (some converted)
    else .ok none

/-- Does a body schema describe any property? -/
def describesBody (schema : Value) : Bool := ((schema.get? "properties").getD .null).truthy

/-- The properties of a tool's input. -/
def inputProperties (params : Entries) (required : List Value) (body : Option Value) :
    List (String × Value) :=
  (if params.isEmpty then [] else [("params", objectSchema params required)])
    ++ (match body with
        | some schema => if describesBody schema then [("body", schema)] else []
        | none => [])

/-- What stays the same for the operations of a document. -/
structure Context where
  integrationName : Value
  integrationId : Value
  baseUrl : Value

/-- Compiles one operation; its method is in lower case. -/
def operation (c : Context) (path : Value) (method : String) (operation common : Value) :
    Reported (Tool × Request) := do
  let own ← Reported.ofExcept (operation.field "parameters")
  let parameters ← Parameter.merge common (own.orElse (.list [])) method path
  let params ← Reported.ofExcept (parameterProperties [] parameters)
  let required ← Reported.ofExcept (requiredNames parameters)
  let requestBody ← Reported.ofExcept (operation.field "requestBody")
  let body ← Reported.ofExcept (bodySchema requestBody)
  let properties := inputProperties params required body
  let fields := properties.map (·.1)
  let displayName ← Reported.ofExcept (Tool.displayNameFor (.str method) path operation)
  let name ← Reported.ofExcept (Tool.nameFor c.integrationName displayName)
  let description ← Reported.ofExcept (operation.field "description")
  let specs ← Reported.ofExcept (parameters.mapM Parameter.ofOpenApi)
  let tool : Tool :=
    { name, integrationId := c.integrationId
      integrationName := c.integrationName.text
      description :=
        if description.truthy then displayName.text ++ " - " ++ description.text
        else displayName.text
      inputSchema := .object [
        ("type", .str "object"), ("properties", .object properties),
        ("required", .list (fields.map .str))]
      requiredFields := fields }
  return (tool, { method, path := path.text, parameters := specs, baseUrl := c.baseUrl })

/-! ## §2. A document. -/

/-- Adds a tool and its request, in the place of the earlier ones with the same name. -/
def addTool (c : Compiled) (tool : Tool) (request : Request) : Compiled :=
  { c with
    tools := c.tools.filter (fun t => t.name != tool.name) ++ [tool]
    requests := Table.insert tool.name request c.requests }

/-- The method that a key of a path names, in lower case. -/
def methodOf? (key operation : Value) : Except Fault (Option String) :=
  match key with
  | .str s =>
    let method := Text.toLower s
    .ok (if httpMethods.contains method && operation.isMapping then some method else none)
  | .torn _ => .ok none
  | .bytes _ => .ok none
  | v => v.lacks "lower"

/-- Compiles one entry of a path, if it is an operation. -/
def entry (c : Context) (path common : Value) (done : Compiled) (key op : Value) :
    Reported Compiled := do
  match ← Reported.ofExcept (methodOf? key op) with
  | none => return done
  | some method =>
    let (tool, request) ← operation c path method op common
    if Table.contains tool.name done.requests then
      Reported.say (.toolReplaced tool.name c.integrationName (Text.toUpper key.text) path.text)
    return addTool done tool request

/-- Compiles the entries of a path, one after the other. -/
def entries (c : Context) (path common : Value) : Compiled → Entries → Reported Compiled
  | done, [] => return done
  | done, (key, op) :: rest => do
    let done ← entry c path common done key op
    entries c path common done rest

/-- Compiles paths, one after the other; what is no mapping is passed over. -/
def paths (c : Context) : Compiled → Entries → Reported Compiled
  | done, [] => return done
  | done, (path, item) :: rest => do
    match item with
    | .mapping es =>
      let common := ((Entries.get? "parameters" es).getD .null).orElse (.list [])
      let done ← entries c path common done es
      paths c done rest
    | _ => paths c done rest

/-- Compiles a document whose references are resolved. -/
def document (doc integrationName integrationId : Value) : Reported Compiled := do
  let declared ← Reported.ofExcept (doc.field "paths")
  let declared := declared.orElse (.mapping (p := none) [])
  let baseUrl ← Reported.ofExcept (Server.baseUrl doc)
  let items ← Reported.ofExcept declared.pairs
  let c : Context := { integrationName, integrationId, baseUrl }
  let done ← paths c { integrationName, tools := [], requests := [] } items
  Reported.say (.documentCompiled done.tools.length items.length integrationName)
  return done

end Compile

end ApiTools
