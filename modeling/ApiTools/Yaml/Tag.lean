/-
  ApiTools.Yaml.Tag
  ─────────────────
  **WHAT KIND OF VALUE A NODE IS.**

  A tag says what a node is.  A plain scalar without a tag gets one by its
  form: `Tag.ofPlain` tells which words are truth values and which texts are
  numbers, and the two versions of YAML differ in that.
-/
import ApiTools.Yaml.Timestamp

namespace ApiTools.Yaml

/-- The version of YAML whose rules hold for plain scalars and keys. -/
inductive Dialect where
  | v11
  | v12
  deriving DecidableEq

inductive Tag where
  | null
  | bool
  | int
  | float
  | binary
  | timestamp
  | omap
  | pairs
  | set
  | str
  | seq
  | map
  /-- the key under which a mapping takes over the entries of others -/
  | merge
  /-- the key of the value of a mapping that stands for a scalar -/
  | value
  /-- any tag that no value has -/
  | other
  deriving DecidableEq

namespace Tag

/-! ## §1. Tags by name. -/

/-- What the names of the common tags start with. -/
def commonStart : String := "tag:yaml.org,2002:"

/-- The tag of a name. -/
def ofName (name : String) : Tag :=
  match (List.find? (fun e => name == commonStart ++ e.1) [
    ("null", null), ("bool", bool), ("int", int), ("float", float), ("binary", binary),
    ("timestamp", timestamp), ("omap", omap), ("pairs", pairs), ("set", set), ("str", str),
    ("seq", seq), ("map", map), ("merge", merge), ("value", value)]) with
  | some e => e.2
  | none => other

/-! ## §2. The forms of plain scalars. -/

/-- Without a sign in front. -/
def unsigned (cs : List Char) : List Char := (Number.splitSign cs).2

def isDigitOrBar (c : Char) : Bool := c.isDigit || c == '_'

/-- Does a text start with a digit and hold digits and underscores only? -/
def isDigits (cs : List Char) : Bool := cs.head?.any Char.isDigit && cs.all isDigitOrBar

/-- Is a text an exponent, or empty?  The sign is needed unless it is optional. -/
def isExponent (signOptional : Bool) : List Char → Bool
  | [] => true
  | e :: cs =>
    (e == 'e' || e == 'E')
      && (let ds := unsigned cs
          (signOptional || ds.length < cs.length) && !ds.isEmpty && ds.all Char.isDigit)

/-- The text in front of a point, and what follows it if there is one. -/
def splitPoint (cs : List Char) : List Char × Option (List Char) :=
  (cs.takeWhile (· != '.'), (cs.dropWhile (· != '.')).tail?)

/-- Are there only digits and underscores up to an exponent? -/
def isFraction (signOptional : Bool) (cs : List Char) : Bool :=
  isExponent signOptional (cs.dropWhile isDigitOrBar)

/-- The parts of a text between colons. -/
def colonParts : List Char → List (List Char)
  | [] => [[]]
  | c :: cs =>
    match colonParts cs with
    | [] => [[c]]
    | part :: parts => if c = ':' then [] :: part :: parts else (c :: part) :: parts

/-- Is a text a number below sixty? -/
def isSixtieth : List Char → Bool
  | [c] => c.isDigit
  | [c, d] => '0' ≤ c && c ≤ '5' && d.isDigit
  | _ => false

/-- Is a text digits, and behind them, each after a colon, numbers below sixty? -/
def isSexagesimal (cs : List Char) : Bool :=
  match colonParts cs with
  | first :: second :: others => isDigits first && (second :: others).all isSixtieth
  | _ => false

/-- The names of infinity and of what is no number. -/
def isInfinity (cs : List Char) : Bool := [".inf", ".Inf", ".INF"].contains (String.ofList cs)

def isNaN (cs : List Char) : Bool := [".nan", ".NaN", ".NAN"].contains (String.ofList cs)

/-- Is a text a number with a point, as version 1.1 has it? -/
def isFloat11 (cs : List Char) : Bool :=
  let body := unsigned cs
  (match splitPoint body with
    | (whole, some rest) =>
      (isDigits whole && isFraction false rest)
        || (whole.isEmpty && body.length == cs.length && rest.head?.any Char.isDigit
          && isFraction false rest)
        || (isSexagesimal whole && rest.all isDigitOrBar)
    | (_, none) => false)
    || isInfinity body || isNaN cs

/-- Is a text a number with a point or an exponent, as version 1.2 has it? -/
def isFloat12 (cs : List Char) : Bool :=
  let body := unsigned cs
  (match splitPoint body with
    | (whole, some rest) =>
      (isDigits whole && isFraction true rest)
        || (whole.isEmpty && rest.head?.any isDigitOrBar && isFraction false rest)
    | (_, none) =>
      let exponent := body.dropWhile isDigitOrBar
      body.head?.any Char.isDigit && !exponent.isEmpty && isExponent true exponent)
    || isInfinity body || isNaN cs

/-- Is a text not empty and made of underscores and characters of a class? -/
def isRun (p : Char → Bool) (cs : List Char) : Bool :=
  !cs.isEmpty && cs.all fun c => p c || c == '_'

def isBinaryDigit (c : Char) : Bool := c == '0' || c == '1'

def isOctalDigit (c : Char) : Bool := '0' ≤ c && c ≤ '7'

def isHexDigit (c : Char) : Bool :=
  c.isDigit || ('a' ≤ c && c ≤ 'f') || ('A' ≤ c && c ≤ 'F')

/-- Is a text a whole number, as version 1.1 has it? -/
def isInt11 (cs : List Char) : Bool :=
  match unsigned cs with
  | '0' :: 'b' :: rest => isRun isBinaryDigit rest
  | '0' :: 'x' :: rest => isRun isHexDigit rest
  | ['0'] => true
  | '0' :: rest => isRun isOctalDigit rest
  | body => isDigits body || isSexagesimal body

/-- Is a text a whole number, as version 1.2 has it? -/
def isInt12 (cs : List Char) : Bool :=
  match unsigned cs with
  | '0' :: 'b' :: rest => isRun isBinaryDigit rest
  | '0' :: 'x' :: rest => isRun isHexDigit rest
  | '0' :: 'o' :: rest => isRun isOctalDigit rest
  | body => isRun Char.isDigit body && (body.length < cs.length || cs.head?.any Char.isDigit)

/-- The words for truth values. -/
def isBoolWord (dialect : Dialect) (s : String) : Bool :=
  ["true", "True", "TRUE", "false", "False", "FALSE"].contains s
    || (dialect == .v11
      && ["yes", "Yes", "YES", "no", "No", "NO", "on", "On", "ON", "off", "Off", "OFF"].contains s)

def isNullWord (s : String) : Bool := ["~", "null", "Null", "NULL"].contains s

/-- Is a text a timestamp that needs no tag? -/
def isTimestamp (cs : List Char) : Bool :=
  match Timestamp.read? cs with
  | some t => t.padded || t.time.isSome
  | none => false

def isFloat (dialect : Dialect) (cs : List Char) : Bool :=
  if dialect = .v11 then isFloat11 cs else isFloat12 cs

def isInt (dialect : Dialect) (cs : List Char) : Bool :=
  if dialect = .v11 then isInt11 cs else isInt12 cs

/-- A text without one line feed at its end. -/
def withoutFinalBreak (cs : List Char) : List Char :=
  if cs.getLast? == some '\n' then cs.dropLast else cs

/-- The tag of a plain scalar by its form.  A line feed at its end does not count. -/
def ofPlain (dialect : Dialect) (text : String) : Tag :=
  let cs := withoutFinalBreak text.toList
  let word := String.ofList cs
  if text = "" then null
  else if cs.isEmpty then str
  else if isBoolWord dialect word then bool
  else if isFloat dialect cs then float
  else if isInt dialect cs then int
  else if word = "<<" then merge
  else if isNullWord word then null
  else if isTimestamp cs then timestamp
  else if word = "=" then value
  else if word = "!" || word = "&" || word = "*" then other
  else str

end Tag

end ApiTools.Yaml
