/-
  ApiTools.Tool.Naming
  ────────────────────
  **NAMES OF TOOLS.**

  A tool is named after its integration and the display name of its operation,
  in upper case, with underscores for the dots of the one and the spaces of
  the other.
-/
import ApiTools.Value.Access

namespace ApiTools.Tool

/-- The name of a tool. -/
def nameFor (integrationName displayName : Value) : Except Fault String := do
  let integration ← integrationName.textFor "split"
  let display ← displayName.textFor "split"
  .ok (Text.toUpper (Text.swapChar '.' '_' integration) ++ "_"
    ++ Text.toUpper (Text.swapChar ' ' '_' display))

/-- The display name of an operation: its summary, or method and path if it has none. -/
def displayNameFor (method path operation : Value) : Except Fault Value := do
  let summary ← operation.field "summary"
  if summary.truthy then .ok summary
  else
    let method ← method.upper
    .ok (.str (method ++ " " ++ path.text))

end ApiTools.Tool
