/-
  ApiTools.Standard
  ─────────────────
  **THE LIBRARIES THAT ARE USED.**

  YAML is read in its version 1.1, references are resolved in place, and the
  interpreter has its usual limit of a thousand nested calls.  A level takes
  one call where JSON is read or printed, and up to three where a document is
  gone through.
-/
import ApiTools.Library
import ApiTools.Specification.Resolve

namespace ApiTools.Library

/-- The libraries that are used. -/
def standard : Library where
  yaml := Yaml.read .v11
  resolve := Specification.resolve Specification.inPlaces (Specification.readEither 900)
  client := Http.Client.standard
  reading := 900
  printing := 900
  tooDeep := fun document => 300 < document.depth

/-- The same without a resolver: references stay as they are. -/
def unresolved : Library := { standard with resolve := fun _ _ _ document => .ok document }

end ApiTools.Library
