/-
  ApiTools.Yaml.Cursor
  ────────────────────
  **A PLACE IN A YAML TEXT.**

  A `Cursor` is what is left of a text together with where that starts: how
  many characters and lines came before it, and its column.  Readers take a
  cursor and give back what they read and the cursor behind it.  A text that
  is read holds printable characters only.
-/
import ApiTools.Fault

namespace ApiTools.Yaml

/-! ## §1. Problems. -/

/-- Why a text gives no value. -/
inductive Problem where
  /-- the text is no YAML, or its nodes make up no value -/
  | malformed
  /-- the text asks for something that is refused -/
  | refused (fault : Fault)

/-! ## §2. Characters. -/

/-- Does a character end a line? -/
def isBreak (c : Char) : Bool :=
  c == '\n' || c == '\r' || c == '\x85' || c == '\u2028' || c == '\u2029'

/-- Is a character a space or a tab? -/
def isSpace (c : Char) : Bool := c == ' ' || c == '\t'

/-- Does a character separate words? -/
def isSeparator (c : Char) : Bool := isSpace c || isBreak c

/-- Does a text end or go on with a separator? -/
def endsWord (cs : List Char) : Bool := cs.head?.all isSeparator

/-- Does a text end or go on with a space or a line break? -/
def endsPart (cs : List Char) : Bool := cs.head?.all fun c => c == ' ' || isBreak c

/-- Does a text end or go on with a line break? -/
def endsLine (cs : List Char) : Bool := cs.head?.all isBreak

/-- Does a text start with three equal characters and a separator behind them? -/
def startsWithThree (c : Char) (cs : List Char) : Bool :=
  [c, c, c].isPrefixOf cs && endsWord (cs.drop 3)

/-- Does a text start with the mark of the start or the end of a document? -/
def startsWithMark (cs : List Char) : Bool := startsWithThree '-' cs || startsWithThree '.' cs

/-- The mark that may stand in front of a text to show its encoding. -/
def byteOrderMark : Char := Char.ofNat 0xFEFF

/-- May a character stand in a text? -/
def isAllowed (c : Char) : Bool :=
  let n := c.toNat
  c == '\t' || c == '\n' || c == '\r' || (0x20 ≤ n && n ≤ 0x7E) || n == 0x85
    || (0xA0 ≤ n && n ≤ 0xD7FF) || (0xE000 ≤ n && n ≤ 0xFFFD) || 0x10000 ≤ n

/-! ## §3. Cursors. -/

structure Cursor where
  rest : List Char
  index : Nat
  line : Nat
  column : Nat

namespace Cursor

def start (cs : List Char) : Cursor := ⟨cs, 0, 0, 0⟩

/-- The cursor behind the next character.  The two characters of one line break count as one. -/
def next (c : Cursor) : Cursor :=
  match c.rest with
  | [] => c
  | ch :: rest =>
    if isBreak ch && !(ch == '\r' && rest.head? == some '\n') then
      { rest, index := c.index + 1, line := c.line + 1, column := 0 }
    else
      { rest, index := c.index + 1, line := c.line
        column := if ch = byteOrderMark then c.column else c.column + 1 }

/-- The cursor behind some characters. -/
def skip : Nat → Cursor → Cursor
  | 0, c => c
  | n + 1, c => skip n c.next

/-- The characters up to the first that is not in a class. -/
def takeWhile (p : Char → Bool) (c : Cursor) : List Char × Cursor :=
  let taken := c.rest.takeWhile p
  (taken, skip taken.length c)

def skipWhile (p : Char → Bool) (c : Cursor) : Cursor := (takeWhile p c).2

/-- Is the next character the given one? -/
def at? (ch : Char) (c : Cursor) : Bool := c.rest.head? == some ch

/-- The cursor behind a comment that starts here. -/
def skipComment (c : Cursor) : Cursor :=
  if c.at? '#' then c.skipWhile (fun ch => !isBreak ch) else c

/-- The line break that starts here, or nothing. -/
def lineBreak (c : Cursor) : List Char × Cursor :=
  match c.rest with
  | '\r' :: '\n' :: _ => (['\n'], skip 2 c)
  | ch :: _ =>
    if ch == '\u2028' || ch == '\u2029' then ([ch], c.next)
    else if isBreak ch then (['\n'], c.next)
    else ([], c)
  | [] => ([], c)

/-- The cursor behind the rest of a line that holds blanks and a comment only. -/
def skipLineEnd (c : Cursor) : Except Problem Cursor :=
  let c := (c.skipWhile (· == ' ')).skipComment
  if endsLine c.rest then .ok c.lineBreak.2 else .error .malformed

/-- The cursor at the next token: behind blanks, comments and line breaks.  The flag tells that
there was a line break. -/
def skipToToken : Nat → Bool → Cursor → Bool × Cursor
  | 0, broke, c => (broke, c)
  | fuel + 1, broke, c =>
    let c := (c.skipWhile (· == ' ')).skipComment
    match c.lineBreak with
    | ([], c) => (broke, c)
    | (_, c) => skipToToken fuel true c

end Cursor

end ApiTools.Yaml
