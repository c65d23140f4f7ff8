/-
  ApiTools.Json.Octets
  ────────────────────
  **JSON IN FAULTS AND OCTETS.**

  Reading a JSON text with faults as outcomes, from characters or from octets
  in whichever Unicode encoding they show.
-/
import ApiTools.Json.Reader
import ApiTools.Fault

namespace ApiTools.Json

/-- The fault of a text that gives no value. -/
def Problem.fault : Problem → Fault
  | malformed m => .malformedJson m
  | tooManyDigits count => .refused (.tooManyDigits count)
  | tooDeep => .tooDeep

/-- Reads the value that a text holds. -/
def readText (nesting : Nat) (text : String) : Except Fault Value :=
  match read nesting text with
  | .ok v => .ok v
  | .error p => .error p.fault

/-- Reads the value that octets hold.  A mark of the encoding may stand in front. -/
def readOctets (nesting : Nat) (octets : List UInt8) : Except Fault Value :=
  match Text.decodeDetected octets with
  | .error u => .error (.undecodable u)
  | .ok cs =>
    match readWhole nesting cs with
    | .ok v => .ok v
    | .error p => .error p.fault

end ApiTools.Json
