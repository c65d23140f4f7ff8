/-
  ApiTools.Parameter
  ──────────────────
  **DECLARED PARAMETERS.**

  A parameter of an operation has a name, a location and is required or not;
  a path parameter always is.  `Parameter.merge` combines the declarations of
  a path with those of one operation: one declaration stays for each name and
  location, the last one, in the place of the first.
-/
import ApiTools.Report
import ApiTools.Value.Access
import ApiTools.Path.Template

namespace ApiTools

/-- As much of a declared parameter as building a request needs. -/
structure Parameter where
  name : Value
  location : Value
  required : Bool

namespace Parameter

/-! ## §1. Reading a declaration. -/

/-- The location of a declared parameter: the query if it states none. -/
def locationOf (declaration : Value) : Except Fault Value := do
  let location ← declaration.field? "in"
  .ok (location.getD (.str "query"))

/-- Reads a declaration.  Path parameters are always required. -/
def ofOpenApi (declaration : Value) : Except Fault Parameter := do
  let location ← locationOf declaration
  let required ←
    if location.isText "path" then pure true
    else (declaration.field "required").map Value.truthy
  let name ← declaration.part "name"
  .ok { name, location, required }

/-! ## §2. Merging declarations. -/

/-- The locations that a parameter can have. -/
def locations : List String := ["query", "path", "header", "cookie"]

/-- Is the location one that a parameter can have? -/
def isSupported (location : Value) : Bool := locations.any fun l => location.isText l

/-- Name and location under which a declaration is kept, and the declaration. -/
structure Kept where
  name : Value
  location : Value
  declaration : Value

/-- Do two declarations have the same name and location? -/
def Kept.sameAs (a b : Kept) : Bool :=
  a.name.sameKey b.name && a.location.sameKey b.location

/-- Keeps a declaration: in the place of an earlier one with its name and location, else at the
end. -/
def keep (d : Kept) : List Kept → List Kept
  | [] => [d]
  | e :: rest => if d.sameAs e then { e with declaration := d.declaration } :: rest
    else e :: keep d rest

/-- Considers one declaration: one without a name is passed over, one with an unsupported location
is reported, any other is kept. -/
def consider (method path : String) (kept : List Kept) (declaration : Value) :
    Reported (List Kept) := do
  let name ← Reported.ofExcept (declaration.field "name")
  let location ← Reported.ofExcept (locationOf declaration)
  if !name.truthy then return kept
  else if !isSupported location then
    Reported.say (.locationSkipped name (Text.toUpper method) path location)
    return kept
  else if !name.hashable then Reported.fail (.misuse (.noKey name.kindName))
  else return keep { name, location, declaration } kept

/-- Considers declarations one after the other. -/
def considerAll (method path : String) : List Kept → List Value → Reported (List Kept)
  | kept, [] => return kept
  | kept, d :: ds => do
    let kept ← consider method path kept d
    considerAll method path kept ds

/-- The names in the braces of a path that no kept path parameter has, sorted, each once. -/
def undeclaredNames (path : String) (kept : List Kept) : List String :=
  let isDeclared (name : String) : Bool :=
    kept.any fun k => k.location.isText "path" && k.name.isText name
  let undeclared := (Template.names path).filter fun n => !isDeclared n
  (undeclared.mergeSort fun a b => decide (a ≤ b)).eraseDups

/-- The declarations of a path and of one of its operations, merged; an operation's declaration
comes after and so replaces the path's.  Names in the braces of the path that have no declaration
are reported. -/
def merge (pathDeclarations operationDeclarations : Value) (method : String) (path : Value) :
    Reported (List Value) := do
  let common ← Reported.ofExcept pathDeclarations.elements
  let own ← Reported.ofExcept operationDeclarations.elements
  let kept ← considerAll method path.text [] (common ++ own)
  let template ← Reported.ofExcept path.template
  let undeclared := undeclaredNames template kept
  if !undeclared.isEmpty then
    Reported.say (.pathNamesUndeclared (Text.toUpper method) template undeclared)
  return kept.map (·.declaration)

end Parameter

end ApiTools
