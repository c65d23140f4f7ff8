/-
  ApiTools.Json.Problem
  ─────────────────────
  **WHAT IS WRONG WITH A JSON TEXT.**

  A malformed text is reported by what was expected and where.  Positions
  count characters from zero; lines and columns count from one, and only a
  line feed ends a line.
-/

namespace ApiTools.Json

/-- What a reader missed, or met in the wrong place. -/
inductive Expectation where
  | value
  | propertyName
  | colon
  | comma
  | nothingMore
  | closingQuote
  | controlFree
  | escape
  | unicodeEscape
  | noByteOrderMark
  deriving DecidableEq

/-- The wording of an expectation. -/
def Expectation.message : Expectation → String
  | value => "Expecting value"
  | propertyName => "Expecting property name enclosed in double quotes"
  | colon => "Expecting ':' delimiter"
  | comma => "Expecting ',' delimiter"
  | nothingMore => "Extra data"
  | closingQuote => "Unterminated string starting at"
  | controlFree => "Invalid control character at"
  | escape => "Invalid \\escape"
  | unicodeEscape => "Invalid \\uXXXX escape"
  | noByteOrderMark => "Unexpected UTF-8 BOM (decode using utf-8-sig)"

/-- A malformed JSON text. -/
structure Malformed where
  expected : Expectation
  line : Nat
  column : Nat
  position : Nat
  deriving DecidableEq

/-- Locates a position in a text. -/
def Malformed.locate (text : List Char) (expected : Expectation) (position : Nat) : Malformed :=
  let before := text.take position
  { expected, position
    line := before.count '\n' + 1
    column := (before.reverse.takeWhile (· != '\n')).length + 1 }

def Malformed.message (m : Malformed) : String :=
  m.expected.message ++ ": line " ++ toString m.line ++ " column " ++ toString m.column
    ++ " (char " ++ toString m.position ++ ")"

/-- Why a text gives no value: it is malformed, a whole number in it is too long, or it nests too
deeply. -/
inductive Problem where
  | malformed (m : Malformed)
  | tooManyDigits (count : Nat)
  | tooDeep
  deriving DecidableEq

end ApiTools.Json
