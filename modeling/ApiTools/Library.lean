/-
  ApiTools.Library
  ────────────────
  **WHAT THE PROGRAM TAKES FROM ELSEWHERE.**

  YAML texts are read, references resolved and messages sent by libraries, and
  the interpreter says how many levels may be nested in what it reads, prints
  or goes through.  A `Library` is all of these; the program is written for
  any one of them.
-/
import ApiTools.Files
import ApiTools.Http.Message
import ApiTools.Yaml.Cursor

namespace ApiTools

structure Library where
  /-- reads a YAML text -/
  yaml : String → Except Yaml.Problem Value
  /-- resolves the references of a document that stands in a file, given what becomes of a
  reference to what is being resolved -/
  resolve : Value → Files → String → Value → Except Fault Value
  /-- sends messages -/
  client : Http.Client
  /-- how many levels a JSON text may nest that is read -/
  reading : Nat
  /-- how many levels a value may nest that is printed -/
  printing : Nat
  /-- does a document nest too deeply to be gone through? -/
  tooDeep : Value → Bool

end ApiTools
