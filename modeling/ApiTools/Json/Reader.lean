/-
  ApiTools.Json.Reader
  ────────────────────
  **READING JSON.**

  `Json.read` turns a text into a value or says what is wrong with it.  Beyond
  the standard it knows `NaN`, `Infinity` and `-Infinity`, and half of a
  surrogate pair may stand alone in a string; of two members with one name the
  later value stays, in the place of the earlier.  How many levels of lists and
  mappings a text may have is up to the interpreter and is given to the reader.
  Inside the reader a failure carries the number of characters left, from which
  the position follows at the end.
-/
import ApiTools.Json.Problem
import ApiTools.Number.Reader
import ApiTools.Value.Basic

namespace ApiTools.Json

/-! ## §1. Failures inside the reader. -/

/-- A failure with the number of characters that were left. -/
inductive Failure where
  | expected (what : Expectation) (left : Nat)
  | tooManyDigits (count : Nat)
  | tooDeep

/-- What a step of the reader gives: something, and the characters after it. -/
abbrev Step (α : Type) := Except Failure (α × List Char)

/-- The blanks of JSON. -/
def isBlank (c : Char) : Bool := c == ' ' || c == '\t' || c == '\n' || c == '\r'

def skipBlanks (cs : List Char) : List Char := cs.dropWhile isBlank

/-! ## §2. Strings. -/

def hexValue? (c : Char) : Option Nat :=
  if c.isDigit then some (c.toNat - '0'.toNat)
  else if 'a' ≤ c ∧ c ≤ 'f' then some (c.toNat - 'a'.toNat + 10)
  else if 'A' ≤ c ∧ c ≤ 'F' then some (c.toNat - 'A'.toNat + 10)
  else none

/-- Four hexadecimal digits, after which the text must go on. -/
def readUnit? : List Char → Option (Nat × List Char)
  | a :: b :: c :: d :: e :: rest => do
    let x ← hexValue? a
    let y ← hexValue? b
    let z ← hexValue? c
    let w ← hexValue? d
    some (((x * 16 + y) * 16 + z) * 16 + w, e :: rest)
  | _ => none

def isHighSurrogate (n : Nat) : Bool := 0xD800 ≤ n && n < 0xDC00

def isLowSurrogate (n : Nat) : Bool := 0xDC00 ≤ n && n < 0xE000

/-- What a unit stands for if it is not read together with another one: a half of a pair for
itself. -/
def unitPoint (n : Nat) : Text.Point :=
  if isHighSurrogate n || isLowSurrogate n then .half (Fin.ofNat 0x800 (n - 0xD800))
  else .char (Char.ofNat n)

/-- The character of a pair of surrogates. -/
def pairChar (n m : Nat) : Char := Char.ofNat (0x10000 + (n - 0xD800) * 0x400 + (m - 0xDC00))

/-- What stands after `\u`: one unit, or a pair of surrogates written as two escapes. -/
def readUnicodeEscape (left : Nat) (cs : List Char) : Step Text.Point :=
  match readUnit? cs with
  | none => .error (.expected .unicodeEscape left)
  | some (n, rest) =>
    if !isHighSurrogate n then .ok (unitPoint n, rest)
    else
      match rest with
      | '\\' :: 'u' :: more =>
        if more.length < 5 then .ok (unitPoint n, rest)
        else
          match readUnit? more with
          | none => .error (.expected .unicodeEscape (more.length + 1))
          | some (m, after) =>
            if isLowSurrogate m then .ok (.char (pairChar n m), after)
            else .ok (unitPoint n, rest)
      | _ => .ok (unitPoint n, rest)

/-- The character that a short escape stands for. -/
def shortEscape? : Char → Option Char
  | '"' => some '"'
  | '\\' => some '\\'
  | '/' => some '/'
  | 'b' => some '\x08'
  | 'f' => some '\x0c'
  | 'n' => some '\n'
  | 'r' => some '\r'
  | 't' => some '\t'
  | _ => none

/-- The rest of a string whose opening quote had `start` characters from it to the end; `acc`
holds what has been read, the last point first. -/
def readString (start : Nat) (acc : List Text.Point) :
    Nat → List Char → Step (List Text.Point)
  | 0, _ => .error (.expected .closingQuote start)
  | fuel + 1, cs =>
    match cs with
    | [] => .error (.expected .closingQuote start)
    | '"' :: rest => .ok (acc.reverse, rest)
    | ['\\'] => .error (.expected .closingQuote start)
    | '\\' :: 'u' :: rest =>
      match readUnicodeEscape (rest.length + 1) rest with
      | .error e => .error e
      | .ok (p, rest) => readString start (p :: acc) fuel rest
    | '\\' :: c :: rest =>
      match shortEscape? c with
      | some d => readString start (.char d :: acc) fuel rest
      | none => .error (.expected .escape (rest.length + 2))
    | c :: rest =>
      if c.toNat < 32 then .error (.expected .controlFree (rest.length + 1))
      else readString start (.char c :: acc) fuel rest

/-! ## §3. Numbers. -/

/-- Splits a run of ASCII digits off. -/
def digitRun (cs : List Char) : List Char × List Char := cs.span Char.isDigit

/-- The digits of the whole part: a zero alone, or a run that starts with another digit. -/
def wholePart? : List Char → Option (List Char × List Char)
  | '0' :: rest => some (['0'], rest)
  | cs =>
    match digitRun cs with
    | ([], _) => none
    | run => some run

/-- A point with digits after it. -/
def fractionPart (cs : List Char) : List Char × List Char :=
  match cs with
  | '.' :: rest =>
    match digitRun rest with
    | ([], _) => ([], cs)
    | run => run
  | _ => ([], cs)

/-- An exponent, if digits follow its letter. -/
def exponentPart (cs : List Char) : Option Int × List Char :=
  match cs with
  | c :: rest =>
    if c = 'e' ∨ c = 'E' then
      let (minus, body) := Number.splitSign rest
      match digitRun body with
      | ([], _) => (none, cs)
      | (ds, more) =>
        let n : Int := Number.ofDigits 10 (ds.map fun d => d.toNat - '0'.toNat)
        (some (if minus then -n else n), more)
    else (none, cs)
  | [] => (none, cs)

/-- A number: whole unless it has a fraction or an exponent. -/
def readNumber (cs : List Char) : Step Value :=
  let (minus, body) :=
    match cs with
    | '-' :: rest => (true, rest)
    | _ => (false, cs)
  match wholePart? body with
  | none => .error (.expected .value cs.length)
  | some (whole, rest) =>
    let (part, rest) := fractionPart rest
    let (exponent, rest) := exponentPart rest
    let digits := Number.ofDigits 10 ((whole ++ part).map fun d => d.toNat - '0'.toNat)
    if part.isEmpty && exponent.isNone then
      if Number.digitLimit < whole.length then .error (.tooManyDigits whole.length)
      else .ok (.int (if minus then -(digits : Int) else digits), rest)
    else
      .ok (.float (Double.ofDecimal minus digits (exponent.getD 0 - part.length)), rest)

/-! ## §4. Values. -/

/-- The words that are values. -/
def words : List (List Char × Value) := [
  ("null".toList, .null), ("true".toList, .bool true), ("false".toList, .bool false),
  ("NaN".toList, .float Double.nan), ("Infinity".toList, .float (Double.infinity false)),
  ("-Infinity".toList, .float (Double.infinity true))]

/-- A word that is a value, at the start of a text. -/
def readWord? (cs : List Char) : Option (Value × List Char) :=
  (words.find? fun w => w.1.isPrefixOf cs).map fun w => (w.2, cs.drop w.1.length)

mutual

/-- A value at the start of a text, with at most `nesting` levels.  A list or mapping and what is in
it take two of the fuel and at least one character. -/
def readValue : Nat → Nat → List Char → Step Value
  | 0, _, cs => .error (.expected .value cs.length)
  | fuel + 1, nesting, cs =>
    match cs with
    | '"' :: rest => (readString cs.length [] cs.length rest).map fun r => (.ofPoints r.1, r.2)
    | '[' :: rest =>
      match nesting with
      | 0 => .error .tooDeep
      | nesting + 1 =>
        match skipBlanks rest with
        | ']' :: after => .ok (.list [], after)
        | rest => readItems fuel nesting [] rest
    | '{' :: rest =>
      match nesting with
      | 0 => .error .tooDeep
      | nesting + 1 =>
        match skipBlanks rest with
        | '}' :: after => .ok (.mapping (p := none) [], after)
        | rest => readMembers fuel nesting [] rest
    | _ =>
      match readWord? cs with
      | some word => .ok word
      | none => readNumber cs

/-- The items of a list from one of them on; `acc` holds the earlier ones, the last first. -/
def readItems : Nat → Nat → List Value → List Char → Step Value
  | 0, _, _, cs => .error (.expected .value cs.length)
  | fuel + 1, nesting, acc, cs =>
    match readValue fuel nesting cs with
    | .error e => .error e
    | .ok (v, rest) =>
      match skipBlanks rest with
      | ']' :: after => .ok (.list (v :: acc).reverse, after)
      | ',' :: more => readItems fuel nesting (v :: acc) (skipBlanks more)
      | rest => .error (.expected .comma rest.length)

/-- The members of a mapping from one of them on, stored after the earlier ones. -/
def readMembers : Nat → Nat → Entries → List Char → Step Value
  | 0, _, _, cs => .error (.expected .value cs.length)
  | fuel + 1, nesting, acc, cs =>
    match cs with
    | '"' :: rest =>
      match readString cs.length [] cs.length rest with
      | .error e => .error e
      | .ok (name, rest) =>
        match skipBlanks rest with
        | ':' :: rest =>
          match readValue fuel nesting (skipBlanks rest) with
          | .error e => .error e
          | .ok (v, rest) =>
            let acc := Entries.insert (.ofPoints name) v acc
            match skipBlanks rest with
            | '}' :: after => .ok (.mapping (p := none) acc, after)
            | ',' :: more => readMembers fuel nesting acc (skipBlanks more)
            | rest => .error (.expected .comma rest.length)
        | rest => .error (.expected .colon rest.length)
    | _ => .error (.expected .propertyName cs.length)

end

/-- The fuel that suffices for a text of a length. -/
def fuelFor (length : Nat) : Nat := 2 * length + 2

/-- A text that holds one value and blanks. -/
def readAll (nesting : Nat) (cs : List Char) : Except Failure Value :=
  match readValue (fuelFor cs.length) nesting (skipBlanks cs) with
  | .error e => .error e
  | .ok (v, rest) =>
    match skipBlanks rest with
    | [] => .ok v
    | rest => .error (.expected .nothingMore rest.length)

/-- Reads the value that characters hold. -/
def readWhole (nesting : Nat) (cs : List Char) : Except Problem Value :=
  match readAll nesting cs with
  | .ok v => .ok v
  | .error (.tooManyDigits count) => .error (.tooManyDigits count)
  | .error .tooDeep => .error .tooDeep
  | .error (.expected what left) =>
    .error (.malformed (Malformed.locate cs what (cs.length - left)))

/-- Reads the value that a text holds.  A byte order mark in front is refused. -/
def read (nesting : Nat) (text : String) : Except Problem Value :=
  let cs := text.toList
  if cs.head? = some (Char.ofNat 0xFEFF) then
    .error (.malformed (Malformed.locate cs .noByteOrderMark 0))
  else readWhole nesting cs

end ApiTools.Json
