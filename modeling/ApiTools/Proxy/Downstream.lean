/-
  ApiTools.Proxy.Downstream
  ─────────────────────────
  **THE DOWNSTREAM URL.**

  The URL that the proxy is to call: the server's URL, the path with its
  tokens filled in, and a query of the declared query parameters that have a
  value.  Values go into the path as they are and into the query form-encoded,
  which only texts with octets can be.  A token without a value stays and is
  reported.
-/
import ApiTools.Tool.Request
import ApiTools.Http.Form

namespace ApiTools

/-! ## §1. Values in URLs. -/

namespace Value

mutual

/-- A value in a URL: truth values in lower case, lists as their items with commas between. -/
def inUrl : Value → String
  | bool b => if b then "true" else "false"
  | list xs => joinTexts "," (itemsInUrl xs)
  | tuple xs => joinTexts "," (itemsInUrl xs)
  | v => v.text

/-- The items of a list in a URL. -/
def itemsInUrl : List Value → List String
  | [] => []
  | v :: vs => inUrl v :: itemsInUrl vs

end

mutual

/-- Is a value torn as it stands in a URL?  Inside a mapping a half is written by its number. -/
def isTornInUrl : Value → Bool
  | torn _ => true
  | list xs => areTornInUrl xs
  | tuple xs => areTornInUrl xs
  | _ => false

/-- Is an item of a list torn? -/
def areTornInUrl : List Value → Bool
  | [] => false
  | v :: vs => isTornInUrl v || areTornInUrl vs

end

/-- A value as it stands in a URL, if it can be said. -/
def sayInUrl (v : Value) : Except Fault String :=
  if v.isSayable then .ok v.inUrl else .error (.refused .notWritten)

end Value

namespace Downstream

/-! ## §2. The path. -/

/-- The value of a token, if the parameters have one that is not null. -/
def tokenValue? (params : Value) (name : String) : Except Fault (Option Value) := do
  if ← params.has name then
    let v ← params.part name
    .ok (if v.isNull then none else some v)
  else .ok none

/-- Fills in one piece of a template. -/
def fillPiece (template : String) (params : Value) : Template.Piece → Reported (List Char)
  | .literal c => return [c]
  | .token name => do
    match ← Reported.ofExcept (tokenValue? params (String.ofList name)) with
    | some v =>
      let text ← Reported.ofExcept v.sayInUrl
      return text.toList
    | none =>
      Reported.say (.pathValueMissing (String.ofList name) template)
      return Template.tokenText name

/-- Fills in pieces, one after the other. -/
def fillPieces (template : String) (params : Value) : List Template.Piece → Reported (List Char)
  | [] => return []
  | p :: ps => do
    let first ← fillPiece template params p
    let others ← fillPieces template params ps
    return first ++ others

/-- The path with its tokens filled in. -/
def resolvePath (template : String) (params : Value) : Reported String := do
  let cs ← fillPieces template params (Template.pieces template)
  return String.ofList cs

/-! ## §3. The query. -/

/-- Name and value of a query parameter, if it has a value, which has to be one that can be said. -/
def queryPair? (params : Value) (p : Parameter) : Except Fault (Option (Value × Value)) := do
  let v ← Value.fieldAt? p.name params
  let v := v.getD .null
  if v.truthy then
    let _ ← v.sayInUrl
    .ok (some (p.name, v))
  else .ok none

/-- Names and values of the query parameters that have a value, in the order of declaration. -/
def queryPairs (params : Value) : List Parameter → Except Fault (List (Value × Value))
  | [] => .ok []
  | p :: ps => do
    let first ← queryPair? params p
    let others ← queryPairs params ps
    .ok (first.toList ++ others)

/-- A name and a value as texts that have octets. -/
def pairTexts (p : Value × Value) : Except Fault (String × String) :=
  if !p.1.isSayable then .error (.refused .notWritten)
  else if p.1.isTornInUrl || p.2.isTornInUrl then .error .torn
  else .ok (p.1.text, p.2.inUrl)

/-- The query string, empty if no query parameter has a value. -/
def queryString (request : Request) (params : Value) : Except Fault String := do
  let pairs ← queryPairs params request.queryParameters
  let texts ← pairs.mapM pairTexts
  .ok (Http.Form.encode texts)

/-! ## §4. The whole. -/

/-- The downstream URL. -/
def url (request : Request) (params : Value) : Reported String := do
  let path ← resolvePath request.path params
  let start := (request.baseUrl.orElse (.str "")).text ++ path
  let query ← Reported.ofExcept (queryString request params)
  return if query = "" then start else start ++ "?" ++ query

end Downstream

end ApiTools
