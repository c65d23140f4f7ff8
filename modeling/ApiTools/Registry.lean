/-
  ApiTools.Registry
  ─────────────────
  **REGISTRIES AND THE CATALOG.**

  A registry maps tool names to requests.  Registries are never changed:
  merging parts makes a new one, in which a name follows its last definition
  and keeps its first place, and every replacement is reported.  The catalog
  holds the registry that is published now.
-/
import ApiTools.Tool.Request
import ApiTools.Table

namespace ApiTools

/-- The requests behind tools, by tool name. -/
structure Registry where
  requests : Table Request

namespace Registry

def empty : Registry := ⟨[]⟩

def size (r : Registry) : Nat := r.requests.length

def names (r : Registry) : List String := Table.names r.requests

/-- What a registry says of itself. -/
def description (r : Registry) : String := "RequestRegistry(" ++ toString r.size ++ " tools)"

/-- The request stored under a name that may be of any kind. -/
def find? (r : Registry) (name : Value) : Except Fault (Option Request) :=
  if !name.hashable then .error (.misuse (.noKey name.kindName))
  else
    match name with
    | .str s => .ok (Table.get? s r.requests)
    | _ => .ok none

/-- The request stored under a key, which must be there. -/
def get (r : Registry) (name : Value) : Except Fault Request := do
  match ← r.find? name with
  | some request => .ok request
  | none => .error (.missingKey name)

/-- The request behind a tool, which must be known. -/
def lookup (r : Registry) (name : Value) : Except Fault Request := do
  match ← r.find? name with
  | some request => .ok request
  | none => .error (.toolNotFound name.text)

/-- Adds one entry, reporting the replacement of an earlier one. -/
def addEntry (state : Table Request × List Notice) (e : String × Request) :
    Table Request × List Notice :=
  (Table.insert e.1 e.2 state.1,
    if Table.contains e.1 state.1 then state.2 ++ [.toolCollision e.1] else state.2)

/-- One registry from parts, the later ones winning. -/
def merge (parts : List (Table Request)) : Registry × List Notice :=
  let (requests, notices) := parts.flatten.foldl addEntry ([], [])
  (⟨requests⟩, notices)

end Registry

/-- The registry that is published now. -/
structure Catalog where
  current : Registry

namespace Catalog

def empty : Catalog := ⟨Registry.empty⟩

/-- Publishes a registry; the one that it replaces comes back. -/
def publish (c : Catalog) (r : Registry) : Catalog × Registry × Notice :=
  (⟨r⟩, c.current, .registryPublished r.size c.current.size)

end Catalog

end ApiTools
