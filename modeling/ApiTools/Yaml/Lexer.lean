/-
  ApiTools.Yaml.Lexer
  ───────────────────
  **CUTTING A TEXT INTO TOKENS.**

  The lexer keeps a stack of indentations, which opens and closes block
  collections, and remembers where a key without a question mark might have
  started: when a colon comes, the key's token is put there after the fact.
  Such a key has at most 1024 characters and stays on one line.  A text that
  stops making sense gives the tokens up to there and a broken one.
-/
import ApiTools.Yaml.Token
import ApiTools.Yaml.Scalar

namespace ApiTools.Yaml.Lexer

/-! ## §1. States. -/

/-- A place where a key may have started. -/
structure KeyStart where
  /-- how many tokens came before it -/
  token : Nat
  /-- does a colon have to follow? -/
  required : Bool
  index : Nat
  line : Nat
  column : Nat

/-- The most characters of a key without a question mark. -/
def maxKeyLength : Nat := 1024

structure State where
  cursor : Cursor
  /-- the tokens so far, the last one first -/
  tokens : List Token
  count : Nat
  /-- the column of the innermost block collection, -1 outside all of them -/
  indent : Int
  indents : List Int
  /-- may a key start here? -/
  keyAllowed : Bool
  flowLevel : Nat
  /-- the places where a key may have started, by depth of brackets -/
  keyStarts : List (Nat × KeyStart)

/-- A step of the lexer. -/
abbrev Step := Except Problem State

namespace State

def start (cs : List Char) : State :=
  { cursor := Cursor.start cs, tokens := [], count := 0, indent := -1, indents := []
    keyAllowed := true, flowLevel := 0, keyStarts := [] }

def inFlow (s : State) : Bool := s.flowLevel != 0

def column (s : State) : Int := s.cursor.column

/-- Adds a token. -/
def push (t : Token) (s : State) : State := { s with tokens := t :: s.tokens, count := s.count + 1 }

/-- Adds a token at a place among those that are there. -/
def pushAt (place : Nat) (t : Token) (s : State) : State :=
  { s with tokens := s.tokens.insertIdx (s.count - place) t, count := s.count + 1 }

/-- Adds a token and goes behind the characters that stand for it. -/
def pushOver (length : Nat) (t : Token) (s : State) : State :=
  { s.push t with cursor := Cursor.skip length s.cursor }

def allowKey (b : Bool) (s : State) : State := { s with keyAllowed := b }

/-! ## §2. Indentation. -/

/-- Opens a block collection at a column unless one is open there; tells whether it did. -/
def openBlock (column : Int) (s : State) : Bool × State :=
  if s.indent < column then
    (true, { s with indents := s.indent :: s.indents, indent := column })
  else (false, s)

/-- Closes block collections while the innermost is to the right of a column. -/
def closeFrom (column : Int) (s : State) : List Int → State
  | [] => s
  | outer :: indents =>
    if column < s.indent then
      closeFrom column ({ s with indent := outer, indents }.push .blockEnd) indents
    else s

/-- Closes the block collections to the right of a column.  Brackets keep them open. -/
def closeBlocks (column : Int) (s : State) : State :=
  if s.inFlow then s else closeFrom column s s.indents

/-! ## §3. Keys. -/

def keyStart? (s : State) : Option KeyStart :=
  (s.keyStarts.find? fun k => k.1 == s.flowLevel).map (·.2)

/-- Forgets where a key may have started inside the present brackets. -/
def dropKeyStart (s : State) : State :=
  { s with keyStarts := s.keyStarts.filter fun k => k.1 != s.flowLevel }

/-- Gives up a key that may have started inside the present brackets, unless it has to be one. -/
def giveUpKey (s : State) : Step :=
  match s.keyStart? with
  | some k => if k.required then .error .malformed else .ok s.dropKeyStart
  | none => .ok s

/-- Notes that a key may start here. -/
def noteKeyStart (s : State) : Step :=
  if s.keyAllowed then do
    let s ← s.giveUpKey
    let k : KeyStart :=
      { token := s.count, required := !s.inFlow && s.indent == s.column
        index := s.cursor.index, line := s.cursor.line, column := s.cursor.column }
    .ok { s with keyStarts := (s.flowLevel, k) :: s.keyStarts }
  else .ok s

/-- Has a key that started there become too long? -/
def isStale (s : State) (k : KeyStart) : Bool :=
  k.line != s.cursor.line || maxKeyLength < s.cursor.index - k.index

/-- Forgets the keys that have become too long. -/
def dropStale (s : State) : Step :=
  if s.keyStarts.any fun k => s.isStale k.2 && k.2.required then .error .malformed
  else .ok { s with keyStarts := s.keyStarts.filter fun k => !s.isStale k.2 }

end State

/-! ## §4. Directives. -/

/-- May a character stand in a name? -/
def isNameChar (c : Char) : Bool := c.isAlphanum || c == '-' || c == '_'

/-- May a character stand in a tag? -/
def isTagChar (c : Char) : Bool :=
  c.isAlphanum || "-;/?:@&=+$,_.!~*'()[]%".toList.contains c

/-- The octets of a run of percent escapes. -/
def escapedOctets : Nat → List UInt8 → Cursor → Read (List UInt8)
  | 0, acc, c => .ok (acc, c)
  | fuel + 1, acc, c =>
    match c.rest with
    | '%' :: a :: b :: _ =>
      if isHexDigit a && isHexDigit b then
        escapedOctets fuel (acc ++ [UInt8.ofNat (hexNumber [a, b])]) (Cursor.skip 3 c)
      else .error .malformed
    | '%' :: _ => .error .malformed
    | _ => .ok (acc, c)

/-- The characters of a tag, without their percent escapes. -/
def tagChars : Nat → List Char → Cursor → Read (List Char)
  | 0, acc, c => .ok (acc, c)
  | fuel + 1, acc, c =>
    let (plain, c) := c.takeWhile fun ch => isTagChar ch && ch != '%'
    if c.at? '%' then
      match escapedOctets (c.rest.length + 1) [] c with
      | .error p => .error p
      | .ok (octets, c) =>
        match Text.decode .utf8 false 0 octets with
        | .error _ => .error .malformed
        | .ok cs => tagChars fuel (acc ++ plain ++ cs) c
    else .ok (acc ++ plain, c)

/-- The text of a tag, which is not empty. -/
def tagText (c : Cursor) : Read String :=
  match tagChars (c.rest.length + 1) [] c with
  | .error p => .error p
  | .ok (cs, after) =>
    if after.index = c.index then .error .malformed else .ok (String.ofList cs, after)

/-- The handle of a tag: an exclamation mark alone, or a name between two. -/
def tagHandle (c : Cursor) : Read String :=
  if !c.at? '!' then .error .malformed
  else
    let inner := c.next
    if inner.at? ' ' then .ok ("!", inner)
    else
      let (name, c) := inner.takeWhile isNameChar
      if c.at? '!' then .ok (String.ofList ('!' :: (name ++ ['!'])), c.next) else .error .malformed

/-- A whole number of a version. -/
def versionNumber (c : Cursor) : Read Nat :=
  let (digits, c) := c.takeWhile Char.isDigit
  if digits.isEmpty then .error .malformed
  else .ok (Number.ofDigits 10 (digits.filterMap Number.digitOf), c)

/-- The version that a directive states. -/
def versionDirective (c : Cursor) : Except Problem (Token × Cursor) := do
  let (major, c) ← versionNumber (c.skipWhile (· == ' '))
  if !c.at? '.' then .error .malformed
  else
    let (_, c) ← versionNumber c.next
    if endsPart c.rest then .ok (.versionDirective major, c) else .error .malformed

/-- The handle that a directive defines. -/
def tagDirective (c : Cursor) : Except Problem (Token × Cursor) := do
  let (handle, c) ← tagHandle (c.skipWhile (· == ' '))
  if !c.at? ' ' then .error .malformed
  else
    let (expansion, c) ← tagText (c.skipWhile (· == ' '))
    if endsPart c.rest then .ok (.tagDirective handle expansion, c) else .error .malformed

/-- A directive; the cursor is at the percent sign. -/
def directive (c : Cursor) : Except Problem (Token × Cursor) := do
  let (name, c) := c.next.takeWhile isNameChar
  if name.isEmpty || !endsPart c.rest then .error .malformed
  else
    let (t, c) ←
      match String.ofList name with
      | "YAML" => versionDirective c
      | "TAG" => tagDirective c
      | _ => .ok (.otherDirective, c.skipWhile fun ch => !isBreak ch)
    let c ← c.skipLineEnd
    .ok (t, c)

/-! ## §5. Properties of nodes. -/

/-- The name behind the mark of an anchor or an alias. -/
def anchorName (c : Cursor) : Read String :=
  let (name, c) := c.next.takeWhile isNameChar
  if name.isEmpty then .error .malformed
  else if endsWord c.rest || c.rest.head?.any "?:,]\x7d%@`".toList.contains then
    .ok (String.ofList name, c)
  else .error .malformed

/-- Does an exclamation mark come before the word ends? -/
def hasSecondMark (cs : List Char) : Bool :=
  (cs.takeWhile fun c => !(c == ' ' || isBreak c)).contains '!'

/-- A tag; the cursor is at its exclamation mark. -/
def tag (c : Cursor) : Except Problem (Token × Cursor) := do
  let inner := c.next
  let (t, c) ←
    if inner.at? '<' then do
      let (text, c) ← tagText inner.next
      if c.at? '>' then .ok (Token.tag none text, c.next) else .error .malformed
    else if endsWord inner.rest then .ok (Token.tag none "!", inner)
    else if hasSecondMark inner.rest then do
      let (handle, c) ← tagHandle c
      let (text, c) ← tagText c
      .ok (Token.tag (some handle) text, c)
    else do
      let (text, c) ← tagText inner
      .ok (Token.tag (some "!") text, c)
  if endsPart c.rest then .ok (t, c) else .error .malformed

/-! ## §6. Steps. -/

/-- The end of the text. -/
def endStep (s : State) : Step := do
  let s ← (s.closeBlocks (-1)).giveUpKey
  .ok (s.push .streamEnd)

/-- A directive or a mark of a document: it closes all block collections. -/
def outerStep (read : Cursor → Except Problem (Token × Cursor)) (s : State) : Step := do
  let s ← (s.closeBlocks (-1)).giveUpKey
  let (t, c) ← read s.cursor
  .ok { (s.allowKey false).push t with cursor := c }

/-- The mark of the start or the end of a document. -/
def markStep (t : Token) : State → Step := outerStep fun c => .ok (t, Cursor.skip 3 c)

/-- An opening bracket. -/
def openStep (t : Token) (s : State) : Step := do
  let s ← s.noteKeyStart
  .ok ({ s.allowKey true with flowLevel := s.flowLevel + 1 }.pushOver 1 t)

/-- A closing bracket.  One that closes nothing is broken. -/
def closeStep (t : Token) (s : State) : Step := do
  let s ← s.giveUpKey
  if s.flowLevel = 0 then .error .malformed
  else .ok ({ s.allowKey false with flowLevel := s.flowLevel - 1 }.pushOver 1 t)

/-- A comma in brackets. -/
def commaStep (s : State) : Step := do
  let s ← (s.allowKey true).giveUpKey
  .ok (s.pushOver 1 .flowEntry)

/-- The mark of an item: it opens a sequence where none is open. -/
def entryStep (s : State) : Step := do
  let s ←
    if s.inFlow then .ok s
    else if !s.keyAllowed then .error .malformed
    else
      let (opened, s) := s.openBlock s.column
      .ok (if opened then s.push .blockSequenceStart else s)
  let s ← (s.allowKey true).giveUpKey
  .ok (s.pushOver 1 .blockEntry)

/-- The mark of a key or of a value without a key before it: it opens a mapping where none is
open. -/
def mappingStep (t : Token) (s : State) : Step := do
  let s ←
    if s.inFlow then .ok s
    else if !s.keyAllowed then .error .malformed
    else
      let (opened, s) := s.openBlock s.column
      .ok (if opened then s.push .blockMappingStart else s)
  let s ← (s.allowKey (!s.inFlow)).giveUpKey
  .ok (s.pushOver 1 t)

/-- The mark of a value: if a key may have started before, it did. -/
def valueStep (s : State) : Step :=
  match s.keyStart? with
  | none => mappingStep .value s
  | some k =>
    let s := s.dropKeyStart.pushAt k.token .key
    let s :=
      if s.inFlow then s
      else
        let (opened, s) := s.openBlock k.column
        if opened then s.pushAt k.token .blockMappingStart else s
    .ok ((s.allowKey false).pushOver 1 .value)

/-- A token that may be the start of a key. -/
def nodeStep (read : Cursor → Except Problem (Token × Cursor)) (s : State) : Step := do
  let s ← s.noteKeyStart
  let (t, c) ← read s.cursor
  .ok { (s.allowKey false).push t with cursor := c }

/-- A block scalar. -/
def blockStep (folds : Bool) (s : State) : Step := do
  let s ← (s.allowKey true).giveUpKey
  let (text, c) ← blockScalar folds (max 1 (s.indent + 1).toNat) s.cursor.next
  .ok { s.push (.scalar text false) with cursor := c }

/-- A plain scalar.  A key may start behind it if a line break does not separate it. -/
def plainStep (s : State) : Step := do
  let s ← s.noteKeyStart
  let (text, broke, c) := plainScalar s.inFlow (s.indent + 1) s.cursor
  .ok { (s.allowKey broke).push (.scalar text true) with cursor := c }

/-- May a plain scalar start with the text? -/
def startsPlain (inFlow : Bool) (cs : List Char) : Bool :=
  match cs with
  | [] => false
  | c :: rest =>
    !(isSeparator c || "-?:,[]\x7b\x7d#&*!|>'\"%@`".toList.contains c)
      || (!endsWord rest && (c == '-' || (!inFlow && (c == '?' || c == ':'))))

/-- A token of a node with its name. -/
def named (make : String → Token) (read : Cursor → Read String) (c : Cursor) : Read Token :=
  (read c).map fun (name, c) => (make name, c)

/-- The step at a character that is not the last. -/
def stepAt (ch : Char) (rest : List Char) (s : State) : Step :=
  let cs := ch :: rest
  let first := s.cursor.column == 0
  if ch = '%' && first then outerStep directive s
  else if first && startsWithThree '-' cs then markStep .documentStart s
  else if first && startsWithThree '.' cs then markStep .documentEnd s
  else if ch = '[' then openStep .flowSequenceStart s
  else if ch = '{' then openStep .flowMappingStart s
  else if ch = ']' then closeStep .flowSequenceEnd s
  else if ch = '}' then closeStep .flowMappingEnd s
  else if ch = ',' then commaStep s
  else if ch = '-' && endsWord rest then entryStep s
  else if ch = '?' && (s.inFlow || endsWord rest) then mappingStep .key s
  else if ch = ':' && (s.inFlow || endsWord rest) then valueStep s
  else if ch = '*' then nodeStep (named .alias anchorName) s
  else if ch = '&' then nodeStep (named .anchor anchorName) s
  else if ch = '!' then nodeStep tag s
  else if ch = '|' && !s.inFlow then blockStep false s
  else if ch = '>' && !s.inFlow then blockStep true s
  else if ch = '\'' then nodeStep (named (.scalar · false) (quotedScalar false)) s
  else if ch = '"' then nodeStep (named (.scalar · false) (quotedScalar true)) s
  else if startsPlain s.inFlow cs then plainStep s
  else .error .malformed

/-- Goes to the next token and takes it; the flag tells that the text is at its end. -/
def step (s : State) : Except Problem (Bool × State) := do
  let (broke, c) := Cursor.skipToToken (s.cursor.rest.length + 1) false s.cursor
  let s := { s with cursor := c, keyAllowed := s.keyAllowed || (broke && !s.inFlow) }
  let s ← s.dropStale
  let s := s.closeBlocks s.column
  match c.rest with
  | [] => (endStep s).map fun s => (true, s)
  | ch :: rest => (stepAt ch rest s).map fun s => (false, s)

/-- All tokens, the last first. -/
def run : Nat → State → List Token
  | 0, s => .broken .malformed :: s.tokens
  | fuel + 1, s =>
    match step s with
    | .error p => .broken p :: s.tokens
    | .ok (true, s) => s.tokens
    | .ok (false, s) => run fuel s

/-- The tokens of a text.  A mark of the encoding may stand in front. -/
def tokens (text : List Char) : List Token :=
  let s := State.start text
  let s := if s.cursor.at? byteOrderMark then { s with cursor := s.cursor.next } else s
  (run (text.length + 2) s).reverse

end ApiTools.Yaml.Lexer
