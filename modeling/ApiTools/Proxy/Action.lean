/-
  ApiTools.Proxy.Action
  ─────────────────────
  **ACTIONS AND THEIR ARGUMENTS.**

  An action names a tool and the integration it was compiled for; its
  arguments are parameters by name and a JSON body.
-/
import ApiTools.Value.Access

namespace ApiTools

/-- A call of a tool. -/
structure Action where
  name : Value
  integrationName : Value
  integrationId : Value

/-- Reads an action. -/
def Action.ofValue (data : Value) : Except Fault Action := do
  let name ← data.part "name"
  let integrationName ← data.part "integrationName"
  let integrationId ← data.field "integrationId"
  .ok { name, integrationName, integrationId }

/-- What a tool is called with. -/
structure Arguments where
  params : Value
  body : Value

namespace Arguments

/-! ## Parameters from pairs. -/

/-- The items of one pair of a list of pairs. -/
def pairItems (pair : Value) : Except Fault (List Value) :=
  pair.elements

/-- Stores pairs of key and value one after the other; `index` counts the pairs already stored. -/
def storePairs (index : Nat) (acc : Entries) : List Value → Except Fault Entries
  | [] => .ok acc
  | pair :: rest => do
    match ← pairItems pair with
    | [key, v] =>
      if key.hashable then storePairs (index + 1) (Entries.insert key v acc) rest
      else .error (.misuse (.noKey key.kindName))
    | items => .error (.refused (.pairLength index items.length))

/-- A mapping, or the mapping that a list of pairs makes up. -/
def mappingOf (v : Value) : Except Fault Value :=
  match v with
  | .mapping (p := p) es => .ok (.mapping (p := p) es)
  | v => do
    let pairs ← v.elements
    let es ← storePairs 0 [] pairs
    .ok (.mapping (p := none) es)

/-- Reads arguments; what is absent is empty. -/
def ofValue (data : Value) : Except Fault Arguments := do
  let data := data.orElse (.mapping (p := none) [])
  let given ← data.field "params"
  let params ← mappingOf (given.orElse (.mapping (p := none) []))
  let body ← data.field "body"
  .ok { params, body }

/-- Parameters and body in one mapping, as the proxy gets them. -/
def toValue (a : Arguments) : Value := .object [("params", a.params), ("body", a.body)]

end Arguments

end ApiTools
