/-
  ApiTools.Yaml.Reader
  ────────────────────
  **READING YAML.**

  From text to tokens, from tokens to a node, from the node to its value.  A
  text without a document denotes null.
-/
import ApiTools.Yaml.Lexer
import ApiTools.Yaml.Content

namespace ApiTools.Yaml

/-- Reads the value that a text denotes. -/
def read (dialect : Dialect) (text : String) : Except Problem Value :=
  let cs := text.toList
  if !cs.all isAllowed then .error .malformed
  else
    match Node.ofTokens dialect (Lexer.tokens cs) with
    | .error p => .error p
    | .ok none => .ok .null
    | .ok (some n) => n.value dialect

end ApiTools.Yaml
