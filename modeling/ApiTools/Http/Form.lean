/-
  ApiTools.Http.Form
  ──────────────────
  **FORM ENCODING.**

  A query string lists pairs of names and values, with `=` inside a pair and
  `&` between two.  Letters, digits and the four marks `_`, `.`, `-`, `~`
  stand for themselves, a space is a plus sign, and every other octet of UTF-8
  is written as a percent sign with two hexadecimal digits.
-/
import ApiTools.Text.Encoding

namespace ApiTools.Http.Form

/-- A hexadecimal digit in upper case. -/
def hexDigit (n : Nat) : Char := (Nat.digitChar (n % 16)).toUpper

/-- An octet as a percent sign with two hexadecimal digits. -/
def percentEncoded (b : UInt8) : List Char :=
  ['%', hexDigit (b.toNat / 16), hexDigit (b.toNat % 16)]

/-- The characters that stand for themselves. -/
def isUnreserved (c : Char) : Bool :=
  c.isAlphanum || c == '_' || c == '.' || c == '-' || c == '~'

/-- One character of a name or value. -/
def encodeChar (c : Char) : List Char :=
  if isUnreserved c then [c]
  else if c = ' ' then ['+']
  else (Text.encodeCharUtf8 c).flatMap percentEncoded

/-- A name or value. -/
def encodeText (cs : List Char) : List Char := cs.flatMap encodeChar

/-- A pair of name and value. -/
def encodePair (p : String × String) : List Char :=
  encodeText p.1.toList ++ '=' :: encodeText p.2.toList

/-- Pairs of names and values. -/
def encodePairs : List (String × String) → List Char
  | [] => []
  | [p] => encodePair p
  | p :: ps => encodePair p ++ '&' :: encodePairs ps

/-- The query string of pairs of names and values. -/
def encode (pairs : List (String × String)) : String := String.ofList (encodePairs pairs)

end ApiTools.Http.Form
