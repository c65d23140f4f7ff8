/-
  ApiTools.Specification.Text
  ───────────────────────────
  **THE TEXT OF A SPECIFICATION.**

  The name of its file tells whether a specification is written in YAML or in
  JSON.  In either case the text has to denote a mapping.
-/
import ApiTools.Library
import ApiTools.Text.Search
import ApiTools.Json.Octets

namespace ApiTools.Specification

/-- Is a file one of YAML, by its name? -/
def isYamlFile (file : String) : Bool :=
  Text.endsWith ".yaml" file || Text.endsWith ".yml" file

/-- The value that a text denotes. -/
def readValue (library : Library) (text file : String) : Except Fault Value :=
  if isYamlFile file then
    match library.yaml text with
    | .ok v => .ok v
    | .error .malformed => .error (.specUnreadable file .yaml)
    | .error (.refused f) => .error f
  else
    match Json.read library.reading text with
    | .ok v => .ok v
    | .error (.malformed m) => .error (.specUnreadable file (.json m))
    | .error p => .error p.fault

/-- What becomes of a reference to what is being resolved: a schema that says nothing. -/
def placeholder : Value := .mapping (p := none) []

/-- Reads the document of a specification. -/
def read (library : Library) (text file : String) : Except Fault Value := do
  let v ← readValue library text file
  if v.isMapping then .ok v
  else .error (.specUnreadable file (.notAMapping v.kindName))

end ApiTools.Specification
