/-
  ApiTools.Yaml.Token
  ───────────────────
  **THE TOKENS OF YAML.**

  Tokens are what a text is cut into before its nodes are looked for.  The
  start of a block collection is a token that no character stands for: the
  indentation shows it, as it shows the end of the collection.
-/
import ApiTools.Yaml.Cursor

namespace ApiTools.Yaml

inductive Token where
  | streamEnd
  | versionDirective (major : Nat)
  | tagDirective (handle expansion : String)
  | otherDirective
  | documentStart
  | documentEnd
  | blockSequenceStart
  | blockMappingStart
  | blockEnd
  | flowSequenceStart
  | flowSequenceEnd
  | flowMappingStart
  | flowMappingEnd
  | blockEntry
  | flowEntry
  | key
  | value
  | alias (name : String)
  | anchor (name : String)
  /-- a tag in full, or a handle and what follows it -/
  | tag (handle : Option String) (rest : String)
  | scalar (text : String) (plain : Bool)
  /-- the place where the text stops making sense -/
  | broken (problem : Problem)

/-- The problem of a token that stands where it may not. -/
def Token.problem : Token → Problem
  | broken p => p
  | _ => .malformed

end ApiTools.Yaml
