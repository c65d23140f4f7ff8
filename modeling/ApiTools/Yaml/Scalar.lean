/-
  ApiTools.Yaml.Scalar
  ────────────────────
  **READING SCALARS.**

  A scalar is written plainly, in single or double quotes, or as a block of
  indented lines.  Line breaks inside the first three are folded: one becomes
  a blank, and of several all but the first stay.  A block keeps its breaks or
  folds them, and its last ones are kept, clipped to one, or stripped.
-/
import ApiTools.Yaml.Cursor
import ApiTools.Number.Reader

namespace ApiTools.Yaml

/-- What a reader gives: what it read and the cursor behind it. -/
abbrev Read (α : Type) := Except Problem (α × Cursor)

/-- What line breaks inside a scalar become. -/
def folded (first : List Char) (others : List Char) : List Char :=
  if first ≠ ['\n'] then first ++ others else if others.isEmpty then [' '] else others

/-! ## §1. Quoted scalars. -/

/-- The empty lines behind a line break in quotes.  No mark of a document may start a line. -/
def quotedBreaks : Nat → List Char → Cursor → Read (List Char)
  | 0, acc, c => .ok (acc, c)
  | fuel + 1, acc, c =>
    if startsWithMark c.rest then .error .malformed
    else
      match (c.skipWhile isSpace).lineBreak with
      | ([], c) => .ok (acc, c)
      | (b, c) => quotedBreaks fuel (acc ++ b) c

/-- The character that an escape of one letter stands for. -/
def shortEscape? (c : Char) : Option Char :=
  match c with
  | '0' => some '\x00'
  | 'a' => some '\x07'
  | 'b' => some '\x08'
  | 't' => some '\t'
  | '\t' => some '\t'
  | 'n' => some '\n'
  | 'v' => some '\x0b'
  | 'f' => some '\x0c'
  | 'r' => some '\r'
  | 'e' => some '\x1b'
  | ' ' => some ' '
  | '"' => some '"'
  | '\\' => some '\\'
  | '/' => some '/'
  | 'N' => some '\x85'
  | '_' => some '\u00a0'
  | 'L' => some '\u2028'
  | 'P' => some '\u2029'
  | _ => none

/-- The number of hexadecimal digits behind the letter of an escape by number. -/
def escapeWidth? (c : Char) : Option Nat :=
  match c with
  | 'x' => some 2
  | 'u' => some 4
  | 'U' => some 8
  | _ => none

/-- The number that hexadecimal digits denote. -/
def hexNumber (cs : List Char) : Nat := Number.ofDigits 16 (cs.filterMap Number.digitOf)

/-- The character of a number. -/
def numberedChar (n : Nat) : Except Problem Char :=
  if 0x80000000 ≤ n then .error (.refused .numberTooLarge)
  else if 0x110000 ≤ n then .error (.refused (.refused .noSuchCharacter))
  else .ok (Text.charOf n)

/-- Is a character a hexadecimal digit? -/
def isHexDigit (c : Char) : Bool :=
  c.isDigit || ('a' ≤ c && c ≤ 'f') || ('A' ≤ c && c ≤ 'F')

/-- What an escape stands for; the cursor is behind the backslash. -/
def escape (c : Cursor) : Read (List Char) :=
  match c.rest with
  | [] => .error .malformed
  | ch :: rest =>
    match shortEscape? ch, escapeWidth? ch with
    | some e, _ => .ok ([e], c.next)
    | none, some width =>
      let digits := rest.take width
      if digits.length = width ∧ digits.all isHexDigit then
        match numberedChar (hexNumber digits) with
        | .ok e => .ok ([e], Cursor.skip (width + 1) c)
        | .error p => .error p
      else .error .malformed
    | none, none =>
      if isBreak ch then
        let c := c.lineBreak.2
        quotedBreaks (c.rest.length + 1) [] c
      else .error .malformed

/-- Blanks and line breaks in quotes. -/
def quotedSpaces (c : Cursor) : Read (List Char) :=
  let (spaces, c) := c.takeWhile isSpace
  if c.rest.isEmpty then .error .malformed
  else
    match c.lineBreak with
    | ([], c) => .ok (spaces, c)
    | (b, c) =>
      match quotedBreaks (c.rest.length + 1) [] c with
      | .ok (others, c) => .ok (folded b others, c)
      | .error p => .error p

/-- One step in a quoted scalar: what it adds to the text, or `none` at the closing quote. -/
def quotedStep (double : Bool) (c : Cursor) : Read (Option (List Char)) :=
  let some' (r : Read (List Char)) : Read (Option (List Char)) :=
    r.map fun (cs, c) => (some cs, c)
  match c.rest with
  | [] => .error .malformed
  | ch :: rest =>
    if isSeparator ch then some' (quotedSpaces c)
    else if double then
      if ch = '"' then .ok (none, c.next)
      else if ch = '\\' then some' (escape c.next)
      else .ok (some [ch], c.next)
    else if ch = '\'' then
      if rest.head? = some '\'' then .ok (some ['\''], Cursor.skip 2 c) else .ok (none, c.next)
    else .ok (some [ch], c.next)

/-- The text up to the closing quote; `acc` holds what was read, the last character first. -/
def quotedText (double : Bool) : Nat → List Char → Cursor → Read String
  | 0, _, _ => .error .malformed
  | fuel + 1, acc, c =>
    match quotedStep double c with
    | .error p => .error p
    | .ok (none, c) => .ok (String.ofList acc.reverse, c)
    | .ok (some cs, c) => quotedText double fuel (cs.reverse ++ acc) c

/-- A scalar in quotes; the cursor is at the opening one. -/
def quotedScalar (double : Bool) (c : Cursor) : Read String :=
  quotedText double c.rest.length [] c.next

/-! ## §2. Plain scalars. -/

/-- The characters that end a word inside brackets. -/
def isFlowMark (c : Char) : Bool := c == ',' || c == '[' || c == ']' || c == '{' || c == '}'

/-- How many characters the word at the start of a text has.  A colon ends it where it could
separate a key from its value. -/
def wordLength (inFlow : Bool) : List Char → Nat
  | [] => 0
  | c :: cs =>
    if isSeparator c then 0
    else if c = ':' && (endsWord cs || (inFlow && cs.head?.any isFlowMark)) then 0
    else if inFlow && (isFlowMark c || c == '?') then 0
    else wordLength inFlow cs + 1

/-- Blanks and empty lines behind a line break in a plain scalar: the breaks, or `none` at the
mark of a document. -/
def plainBreaks : Nat → List Char → Cursor → Option (List Char) × Cursor
  | 0, acc, c => (some acc, c)
  | fuel + 1, acc, c =>
    if startsWithMark c.rest then (none, c)
    else
      match (c.skipWhile (· == ' ')).lineBreak with
      | ([], c) => (some acc, c)
      | (b, c) => plainBreaks fuel (acc ++ b) c

/-- What stands between two words of a plain scalar, empty if the scalar ends there, and whether
there is a line break in it. -/
def plainSpaces (c : Cursor) : List Char × Bool × Cursor :=
  let (spaces, c) := c.takeWhile (· == ' ')
  match c.lineBreak with
  | ([], c) => (spaces, false, c)
  | (b, c) =>
    match plainBreaks (c.rest.length + 1) [] c with
    | (none, c) => ([], true, c)
    | (some others, c) => (folded b others, true, c)

/-- The words of a plain scalar.  `acc` holds what was read, the last character first, `spaces`
what stands in front of the next word, and `broke` tells whether there is a line break in it. -/
def plainText (inFlow : Bool) (indent : Int) :
    Nat → List Char → List Char → Bool → Cursor → String × Bool × Cursor
  | 0, acc, _, broke, c => (String.ofList acc.reverse, broke, c)
  | fuel + 1, acc, spaces, broke, c =>
    let n := if c.at? '#' then 0 else wordLength inFlow c.rest
    if n = 0 then (String.ofList acc.reverse, broke, c)
    else
      let acc := (c.rest.take n).reverse ++ (spaces.reverse ++ acc)
      let (spaces, broke, c) := plainSpaces (Cursor.skip n c)
      if spaces.isEmpty || c.at? '#' || (!inFlow && (c.column : Int) < indent) then
        (String.ofList acc.reverse, broke, c)
      else plainText inFlow indent fuel acc spaces broke c

/-- A plain scalar, and whether a line break follows it. -/
def plainScalar (inFlow : Bool) (indent : Int) (c : Cursor) : String × Bool × Cursor :=
  plainText inFlow indent (c.rest.length + 1) [] [] false c

/-! ## §3. Blocks. -/

/-- What becomes of the line breaks at the end of a block. -/
inductive Chomping where
  | strip
  | clip
  | keep
  deriving DecidableEq

/-- The sign that states the chomping, if there is one. -/
def chompingSign (c : Cursor) : Option Chomping × Cursor :=
  match c.rest with
  | '+' :: _ => (some .keep, c.next)
  | '-' :: _ => (some .strip, c.next)
  | _ => (none, c)

/-- The digit that states the indentation, if there is one; zero states none. -/
def indentDigit (c : Cursor) : Read (Option Nat) :=
  match c.rest with
  | ch :: _ =>
    if ch = '0' then .error .malformed
    else if ch.isDigit then .ok (some (ch.toNat - 48), c.next)
    else .ok (none, c)
  | [] => .ok (none, c)

/-- What stands in the first line of a block: chomping and indentation, in either order. -/
def blockHeader (c : Cursor) : Except Problem ((Chomping × Option Nat) × Cursor) := do
  let (first, c) := chompingSign c
  let (digit, c) ← indentDigit c
  let (second, c) := if first.isNone && digit.isSome then chompingSign c else (none, c)
  if endsPart c.rest then
    let c ← c.skipLineEnd
    .ok (((first.or second).getD .clip, digit), c)
  else .error .malformed

/-- The empty lines in front of a block whose indentation is not stated: their breaks, and the
deepest indentation met. -/
def blockIndentation : Nat → List Char → Nat → Cursor → (List Char × Nat) × Cursor
  | 0, breaks, deepest, c => ((breaks, deepest), c)
  | fuel + 1, breaks, deepest, c =>
    let c := c.skipWhile (· == ' ')
    let deepest := max deepest c.column
    match c.lineBreak with
    | ([], c) => ((breaks, deepest), c)
    | (b, c) => blockIndentation fuel (breaks ++ b) deepest c

/-- Skips blanks up to a column. -/
def skipIndent (indent : Nat) (c : Cursor) : Cursor :=
  Cursor.skip (min (indent - c.column) (c.rest.takeWhile (· == ' ')).length) c

/-- The empty lines of a block: their breaks. -/
def blockBreaks (indent : Nat) : Nat → List Char → Cursor → List Char × Cursor
  | 0, breaks, c => (breaks, c)
  | fuel + 1, breaks, c =>
    match (skipIndent indent c).lineBreak with
    | ([], c) => (breaks, c)
    | (b, c) => blockBreaks indent fuel (breaks ++ b) c

/-- What is known while the lines of a block are read: the text, the last character first, the
break of the last line, and the empty lines behind it. -/
structure BlockProgress where
  text : List Char
  lastBreak : List Char
  breaks : List Char

/-- Reads the lines of a block.  A single break between two lines that start with a word becomes a
blank if the block folds. -/
def blockLines (folds : Bool) (indent : Nat) : Nat → BlockProgress → Cursor →
    BlockProgress × Cursor
  | 0, p, c => (p, c)
  | fuel + 1, p, c =>
    if c.column ≠ indent ∨ c.rest.isEmpty then (p, c)
    else
      let wordFirst := !c.rest.head?.any isSpace
      let (line, c) := c.takeWhile (fun ch => !isBreak ch)
      let (b, c) := c.lineBreak
      let (breaks, c) := blockBreaks indent (c.rest.length + 1) [] c
      let text := line.reverse ++ (p.breaks.reverse ++ p.text)
      if c.column = indent ∧ ¬ c.rest.isEmpty then
        let between :=
          if folds && b == ['\n'] && wordFirst && !c.rest.head?.any isSpace then
            (if breaks.isEmpty then [' '] else [])
          else b
        blockLines folds indent fuel ⟨between.reverse ++ text, b, breaks⟩ c
      else (⟨text, b, breaks⟩, c)

/-- A block; the cursor is behind its mark, and `least` is the least indentation that its lines
may have. -/
def blockScalar (folds : Bool) (least : Nat) (c : Cursor) :
    Except Problem (String × Cursor) := do
  let ((chomping, digit), c) ← blockHeader c
  let (indent, breaks, c) :=
    match digit with
    | none =>
      let ((breaks, deepest), c) := blockIndentation (c.rest.length + 1) [] 0 c
      (max least deepest, breaks, c)
    | some d =>
      let indent := least + d - 1
      let (breaks, c) := blockBreaks indent (c.rest.length + 1) [] c
      (indent, breaks, c)
  let (p, c) := blockLines folds indent (c.rest.length + 1) ⟨[], [], breaks⟩ c
  let ending := if chomping = .strip then [] else p.lastBreak
  let kept := if chomping = .keep then p.breaks else []
  .ok (String.ofList (p.text.reverse ++ ending ++ kept), c)

end ApiTools.Yaml
