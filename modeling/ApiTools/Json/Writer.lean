/-
  ApiTools.Json.Writer
  ────────────────────
  **WRITING JSON.**

  A `Style` says how a value is laid out, whether characters above ASCII are
  escaped, whether numbers that are not finite are written by name or refused,
  and how many levels may be nested.  Only null, truth values, numbers, texts,
  lists and mappings can be written, and as keys only the first four of these.
  A whole number may have at most 4300 digits.  Half of a surrogate pair is
  written by its number where characters above ASCII are, and else shown.
-/
import ApiTools.Number.Reader
import ApiTools.Value.Basic
import ApiTools.Text.Quoted

namespace ApiTools.Json

/-- How JSON is written. -/
structure Style where
  itemSeparator : String
  keySeparator : String
  /-- the width of one level of indentation, if every item has a line of its own -/
  indent : Option Nat
  /-- are characters above ASCII escaped? -/
  ascii : Bool
  /-- are numbers that are not finite refused? -/
  finite : Bool
  /-- how many levels may be nested -/
  nesting : Nat

/-- The body of a request: no blanks, characters as they are, finite numbers only. -/
def compact (nesting : Nat) : Style := ⟨",", ":", none, false, true, nesting⟩

/-- What people read: two blanks a level, ASCII only. -/
def pretty (nesting : Nat) : Style := ⟨",", ": ", some 2, true, false, nesting⟩

/-- Why a value cannot be written. -/
inductive WriteProblem where
  /-- a value of a kind that JSON lacks -/
  | unwritable (kind : String)
  /-- a key of a kind that JSON lacks -/
  | unwritableKey (kind : String)
  /-- a number that is not finite -/
  | notFinite
  /-- a whole number with too many digits -/
  | tooManyDigits
  /-- too many levels -/
  | tooDeep
  deriving DecidableEq

/-! ## §1. Texts. -/

/-- An escape by the number of a UTF-16 unit. -/
def unitEscape (n : Nat) : List Char := '\\' :: 'u' :: Text.hexPadded 4 n

/-- An escape by number: a pair of surrogates for a character outside the first plane. -/
def charEscape (c : Char) : List Char :=
  let n := c.toNat
  if n < 0x10000 then unitEscape n
  else unitEscape (0xD800 + (n - 0x10000) / 0x400) ++ unitEscape (0xDC00 + (n - 0x10000) % 0x400)

/-- A character inside a JSON string. -/
def stringChar (ascii : Bool) (c : Char) : List Char :=
  if c == '"' || c == '\\' then ['\\', c]
  else if c == '\n' then ['\\', 'n']
  else if c == '\r' then ['\\', 'r']
  else if c == '\t' then ['\\', 't']
  else if c == '\x08' then ['\\', 'b']
  else if c == '\x0c' then ['\\', 'f']
  else if c.toNat < 32 || (ascii && 127 ≤ c.toNat) then charEscape c
  else [c]

/-- A text as a JSON string. -/
def string (ascii : Bool) (s : String) : String :=
  String.ofList ('"' :: (s.toList.flatMap (stringChar ascii) ++ ['"']))

/-- A point inside a JSON string. -/
def stringPoint (ascii : Bool) : Text.Point → List Char
  | .char c => stringChar ascii c
  | .half n => if ascii then unitEscape (Text.Point.unitOf n) else [Text.Point.shown (.half n)]

/-- A torn text as a JSON string. -/
def tornString (ascii : Bool) (t : Text.Torn) : String :=
  String.ofList ('"' :: (t.points.flatMap (stringPoint ascii) ++ ['"']))

/-! ## §2. Values. -/

/-- A number, or its name if it is not finite. -/
def number (style : Style) (x : Double) : Except WriteProblem String :=
  if style.finite && !x.isFinite then .error .notFinite else .ok (Double.inJson.render x)

/-- A whole number, if it is not too long. -/
def whole (i : Int) : Except WriteProblem String :=
  if Number.Short i then .ok (toString i) else .error .tooManyDigits

/-- A key as the string that stands for it. -/
def keyText (style : Style) : Value → Except WriteProblem String
  | .str s => .ok (string style.ascii s)
  | .torn t => .ok (tornString style.ascii t)
  | .int i => (whole i).map (string style.ascii)
  | .bool b => .ok (string style.ascii (if b then "true" else "false"))
  | .null => .ok (string style.ascii "null")
  | .float x => (number style x).map (string style.ascii)
  | v => .error (.unwritableKey v.kindName)

/-- What is written on a level, if there may be that many of them. -/
def onLevel (style : Style) (level : Nat) (written : Except WriteProblem String) :
    Except WriteProblem String :=
  if level < style.nesting then written else .error .tooDeep

/-- A line break and the indentation of a level, if items have lines of their own. -/
def lineBreak (style : Style) (level : Nat) : String :=
  match style.indent with
  | none => ""
  | some width => String.ofList ('\n' :: List.replicate (width * level) ' ')

/-- Parts between two brackets, one level deeper than the brackets. -/
def bracketed (style : Style) (level : Nat) (opening closing : String) (parts : List String) :
    String :=
  if parts.isEmpty then opening ++ closing
  else
    opening ++ lineBreak style (level + 1)
      ++ (style.itemSeparator ++ lineBreak style (level + 1)).intercalate parts
      ++ lineBreak style level ++ closing

mutual

/-- A value that stands on a level of indentation. -/
def writeAt (style : Style) (level : Nat) : Value → Except WriteProblem String
  | .null => .ok "null"
  | .bool b => .ok (if b then "true" else "false")
  | .int i => whole i
  | .float x => number style x
  | .str s => .ok (string style.ascii s)
  | .torn t => .ok (tornString style.ascii t)
  | .list xs =>
    onLevel style level ((writeItems style (level + 1) xs).map (bracketed style level "[" "]"))
  | .tuple xs =>
    onLevel style level ((writeItems style (level + 1) xs).map (bracketed style level "[" "]"))
  | .mapping es =>
    onLevel style level
      ((writeMembers style (level + 1) es).map (bracketed style level "\x7b" "\x7d"))
  | .bytes _ => .error (.unwritable "bytes")
  | .date _ => .error (.unwritable "date")
  | .datetime _ => .error (.unwritable "datetime")
  | .set _ => .error (.unwritable "set")

/-- The items of a list, in order. -/
def writeItems (style : Style) (level : Nat) : List Value → Except WriteProblem (List String)
  | [] => .ok []
  | v :: vs => do
    let first ← writeAt style level v
    let others ← writeItems style level vs
    .ok (first :: others)

/-- The members of a mapping, in order. -/
def writeMembers (style : Style) (level : Nat) :
    List (Value × Value) → Except WriteProblem (List String)
  | [] => .ok []
  | (k, v) :: es => do
    let name ← keyText style k
    let first ← writeAt style level v
    let others ← writeMembers style level es
    .ok ((name ++ style.keySeparator ++ first) :: others)

end

/-- Writes a value. -/
def write (style : Style) (v : Value) : Except WriteProblem String := writeAt style 0 v

end ApiTools.Json
