/-
  ApiTools.Text.Quoted
  ────────────────────
  **QUOTED TEXTS.**

  A text stands in single quotes, or in double quotes when it holds a single
  one and no double one.  The backslash, the quote in use, line feed, carriage
  return and tab have short escapes; every other character that is not
  printable is written by its number.
-/
import ApiTools.Text.Point
import ApiTools.Text.Printable

namespace ApiTools.Text

/-- A hexadecimal digit in lower case. -/
def hexDigit (n : Nat) : Char := Nat.digitChar (n % 16)

/-- A number in hexadecimal, with zeros in front up to a width. -/
def hexPadded (width n : Nat) : List Char :=
  let ds := Nat.toDigits 16 n
  List.replicate (width - ds.length) '0' ++ ds

/-- The escape of a character by its number, in the shortest of three widths. -/
def numericEscape (c : Char) : List Char :=
  let n := c.toNat
  if n < 0x100 then '\\' :: 'x' :: hexPadded 2 n
  else if n < 0x10000 then '\\' :: 'u' :: hexPadded 4 n
  else '\\' :: 'U' :: hexPadded 8 n

/-- The quote that a text is put in. -/
def quoteFor (cs : List Char) : Char :=
  if cs.contains '\'' && !cs.contains '"' then '"' else '\''

/-- A character inside the quotes. -/
def quotedChar (quote c : Char) : List Char :=
  if c == quote || c == '\\' then ['\\', c]
  else if c == '\n' then ['\\', 'n']
  else if c == '\r' then ['\\', 'r']
  else if c == '\t' then ['\\', 't']
  else if isPrintable c then [c]
  else numericEscape c

/-- A text in quotes. -/
def quoted (s : String) : String :=
  let cs := s.toList
  let q := quoteFor cs
  String.ofList (q :: (cs.flatMap (quotedChar q) ++ [q]))

/-- A torn text in quotes; a half is written by its number. -/
def quotedTorn (t : Torn) : String :=
  let q := quoteFor (t.points.map Point.shown)
  let one : Point → List Char
    | .char c => quotedChar q c
    | .half n => '\\' :: 'u' :: hexPadded 4 (Point.unitOf n)
  String.ofList (q :: (t.points.flatMap one ++ [q]))

/-- Octets in quotes: the ASCII characters as in a text, the others by their number. -/
def quotedOctets (bs : List UInt8) : String :=
  let cs := bs.map fun b => Char.ofNat b.toNat
  let q := quoteFor cs
  let one (c : Char) := if c.toNat < 127 then quotedChar q c else numericEscape c
  String.ofList ('b' :: q :: (cs.flatMap one ++ [q]))

end ApiTools.Text
