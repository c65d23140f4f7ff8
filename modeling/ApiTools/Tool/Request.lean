/-
  ApiTools.Tool.Request
  ─────────────────────
  **TOOLS AND THE REQUESTS BEHIND THEM.**

  Compiling an operation gives two things: a `Tool`, which says what can be
  called and with what, and a `Request`, which says how the HTTP request
  behind it is rebuilt.
-/
import ApiTools.Parameter

namespace ApiTools

/-- How the HTTP request behind a tool is rebuilt. -/
structure Request where
  method : String
  path : String
  parameters : List Parameter
  /-- the URL of the server, null if the document names none -/
  baseUrl : Value

/-- The parameters that go into the query. -/
def Request.queryParameters (r : Request) : List Parameter :=
  r.parameters.filter fun p => p.location.isText "query"

/-- A callable thing with a description and a schema of its input. -/
structure Tool where
  name : String
  integrationId : Value
  integrationName : String
  description : String
  inputSchema : Value
  requiredFields : List String

/-- A tool as orchestrators see it. -/
def Tool.toValue (t : Tool) : Value :=
  .object [
    ("isOpenApiTool", .bool true),
    ("integrationName", .str t.integrationName),
    ("integrationId", t.integrationId),
    ("name", .str t.name),
    ("description", .str t.description),
    ("inputSchema", t.inputSchema),
    ("requiredFields", .list (t.requiredFields.map .str))]

end ApiTools
