/-
  ApiTools.Number.Whole
  ─────────────────────
  **WHOLE NUMBERS WITH FAULTS AS OUTCOMES.**
-/
import ApiTools.Number.Reader
import ApiTools.Fault

namespace ApiTools.Number

/-- A whole number in a base, or the fault that refuses it. -/
def whole (base : Nat) (cs : List Char) : Except Fault Int :=
  match readInt base cs with
  | .ok n => .ok n
  | .error .notANumber => .error (.refused (.notAnInteger base (String.ofList cs)))
  | .error (.tooManyDigits count) => .error (.refused (.tooManyDigits count))

/-- A decimal, or the fault that refuses it. -/
def decimal (cs : List Char) : Except Fault Double :=
  match readDouble? cs with
  | some x => .ok x
  | none => .error (.refused (.notADecimal (String.ofList cs)))

end ApiTools.Number
