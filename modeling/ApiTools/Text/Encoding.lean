/-
  ApiTools.Text.Encoding
  ──────────────────────
  **OCTETS AND CHARACTERS.**

  `encodeUtf8` writes a text as octets, and `decode` reads octets in one of
  the Unicode encodings or tells which octets it cannot read.  `detect` finds
  the encoding of a JSON text from its first octets.  A unit that is half of a
  surrogate pair is no character; where it is let through, it becomes the
  replacement character.
-/

namespace ApiTools.Text

/-! ## §1. Octets that cannot be read. -/

/-- Octets that are no text in an encoding: where they start, which they are, and why. -/
structure Undecodable where
  encoding : String
  start : Nat
  octets : List UInt8
  reason : String
  deriving DecidableEq

/-- Two hexadecimal digits. -/
def hexOctet (b : UInt8) : String :=
  String.ofList [Nat.digitChar (b.toNat / 16), Nat.digitChar (b.toNat % 16)]

def Undecodable.message (u : Undecodable) : String :=
  let what :=
    match u.octets with
    | [b] => "byte 0x" ++ hexOctet b ++ " in position " ++ toString u.start
    | bs =>
      "bytes in position " ++ toString u.start ++ "-" ++ toString (u.start + bs.length - 1)
  "'" ++ u.encoding ++ "' codec can't decode " ++ what ++ ": " ++ u.reason

/-! ## §2. UTF-8. -/

/-- The octets of one character. -/
def encodeCharUtf8 (c : Char) : List UInt8 :=
  let n := c.toNat
  let octet (k : Nat) : UInt8 := UInt8.ofNat k
  if n < 0x80 then [octet n]
  else if n < 0x800 then [octet (0xC0 + n / 64), octet (0x80 + n % 64)]
  else if n < 0x10000 then
    [octet (0xE0 + n / 4096), octet (0x80 + n / 64 % 64), octet (0x80 + n % 64)]
  else
    [octet (0xF0 + n / 262144), octet (0x80 + n / 4096 % 64), octet (0x80 + n / 64 % 64),
      octet (0x80 + n % 64)]

/-- The octets of a text. -/
def encodeUtf8 (cs : List Char) : List UInt8 := cs.flatMap encodeCharUtf8

def isContinuation (b : UInt8) : Bool := 0x80 ≤ b && b ≤ 0xBF

/-- How the octets at the start of a list read: as a character that takes some of them, or not at
all, with the number of octets at fault and the reason. -/
inductive Reading where
  | char (code size : Nat)
  | fault (size : Nat) (reason : String)

/-- May `second` follow the first octet of a sequence?  This rules out forms that are longer than
needed, surrogates and numbers beyond the last character. -/
def secondFits (surrogates : Bool) (first second : UInt8) : Bool :=
  isContinuation second
    && !(first == 0xE0 && second < 0xA0)
    && !(first == 0xED && 0xA0 ≤ second && !surrogates)
    && !(first == 0xF0 && second < 0x90)
    && !(first == 0xF4 && 0x90 ≤ second)

/-- The number that a sequence of a known length denotes. -/
def sequenceCode (size : Nat) (bs : List UInt8) : Nat :=
  let lead := (bs.headD 0).toNat % Nat.pow 2 (7 - size)
  (bs.tail.take (size - 1)).foldl (fun n b => n * 64 + b.toNat % 64) lead

/-- Reads the character at the start of a list of octets that is not empty. -/
def readUtf8 (surrogates : Bool) (bs : List UInt8) : Reading :=
  let first := bs.headD 0
  let size := if first < 0x80 then 1 else if first < 0xE0 then 2 else if first < 0xF0 then 3 else 4
  if first < 0x80 then .char first.toNat 1
  else if first < 0xC2 || 0xF5 ≤ first then .fault 1 "invalid start byte"
  else
    let rest := bs.tail.take (size - 1)
    let good :=
      match rest with
      | [] => 0
      | second :: others =>
        let whole := others.head?.any isContinuation
        if secondFits (surrogates && whole) first second then
          1 + (others.takeWhile isContinuation).length
        else 0
    if good = size - 1 then .char (sequenceCode size bs) size
    else if good < rest.length then .fault (good + 1) "invalid continuation byte"
    else .fault bs.length "unexpected end of data"

/-! ## §3. UTF-16 and UTF-32. -/

/-- The number that octets denote in an order. -/
def wordOf (big : Bool) (bs : List UInt8) : Nat :=
  (if big then bs else bs.reverse).foldl (fun n b => n * 256 + b.toNat) 0

def readUtf16 (big : Bool) (bs : List UInt8) : Reading :=
  if bs.length < 2 then .fault bs.length "truncated data"
  else
    let n := wordOf big (bs.take 2)
    let m := wordOf big ((bs.drop 2).take 2)
    if 0xD800 ≤ n ∧ n < 0xDC00 ∧ 4 ≤ bs.length ∧ 0xDC00 ≤ m ∧ m < 0xE000 then
      .char (0x10000 + (n - 0xD800) * 0x400 + (m - 0xDC00)) 4
    else .char n 2

def readUtf32 (big : Bool) (bs : List UInt8) : Reading :=
  if bs.length < 4 then .fault bs.length "truncated data"
  else
    let n := wordOf big (bs.take 4)
    if 0x110000 ≤ n then .fault 4 "code point not in range(0x110000)" else .char n 4

/-! ## §4. Texts. -/

inductive Encoding where
  | utf8
  | utf16 (big : Bool)
  | utf32 (big : Bool)
  deriving DecidableEq

def Encoding.name : Encoding → String
  | utf8 => "utf-8"
  | utf16 big => if big then "utf-16-be" else "utf-16-le"
  | utf32 big => if big then "utf-32-be" else "utf-32-le"

/-- Reads the character at the start of a list of octets. -/
def Encoding.readChar (e : Encoding) (surrogates : Bool) (bs : List UInt8) : Reading :=
  match e with
  | utf8 => readUtf8 surrogates bs
  | utf16 big => readUtf16 big bs
  | utf32 big => readUtf32 big bs

/-- A number as a character; half of a surrogate pair becomes the replacement character. -/
def charOf (n : Nat) : Char :=
  if 0xD800 ≤ n ∧ n < 0xE000 then Char.ofNat 0xFFFD else Char.ofNat n

/-- Reads octets as characters; `position` counts the octets already read, and `acc` holds the
characters read, the last one first.  Every character takes an octet, so as much fuel as there
are octets suffices. -/
def decodeFrom (e : Encoding) (surrogates : Bool) (position : Nat) (acc : List Char) :
    Nat → List UInt8 → Except Undecodable (List Char)
  | 0, _ => .ok acc.reverse
  | fuel + 1, bs =>
    if bs.isEmpty then .ok acc.reverse
    else
      match e.readChar surrogates bs with
      | .char code size =>
        decodeFrom e surrogates (position + size) (charOf code :: acc) fuel (bs.drop size)
      | .fault size reason =>
        .error { encoding := e.name, start := position, octets := bs.take size, reason }

/-- Reads octets as a text. -/
def decode (e : Encoding) (surrogates : Bool) (start : Nat) (bs : List UInt8) :
    Except Undecodable (List Char) :=
  decodeFrom e surrogates start [] (bs.length + 1) bs

/-- The encoding that a mark in front of a text names, and the number of octets of the mark. -/
def mark? : List UInt8 → Option (Encoding × Nat)
  | 0x00 :: 0x00 :: 0xFE :: 0xFF :: _ => some (.utf32 true, 4)
  | 0xFF :: 0xFE :: 0x00 :: 0x00 :: _ => some (.utf32 false, 4)
  | 0xFE :: 0xFF :: _ => some (.utf16 true, 2)
  | 0xFF :: 0xFE :: _ => some (.utf16 false, 2)
  | 0xEF :: 0xBB :: 0xBF :: _ => some (.utf8, 3)
  | _ => none

/-- The encoding of a JSON text without a mark, by the octets of it that are zero. -/
def unmarked : List UInt8 → Encoding
  | a :: b :: c :: d :: _ =>
    if a = 0 then (if b = 0 then .utf32 true else .utf16 true)
    else if b = 0 then (if c = 0 ∧ d = 0 then .utf32 false else .utf16 false)
    else .utf8
  | [a, b] => if a = 0 then .utf16 true else if b = 0 then .utf16 false else .utf8
  | _ => .utf8

/-- The encoding of a JSON text, and the number of octets of its mark. -/
def detect (bs : List UInt8) : Encoding × Nat := (mark? bs).getD (unmarked bs, 0)

/-- Reads octets in the encoding that they show.  A mark in front of UTF-8 does not count in
positions. -/
def decodeDetected (bs : List UInt8) : Except Undecodable (List Char) :=
  let (e, mark) := detect bs
  decode e true (if e = .utf8 then 0 else mark) (bs.drop mark)

/-- A text with every way of ending a line made a line feed. -/
def unifyLines : List Char → List Char
  | '\r' :: '\n' :: rest => '\n' :: unifyLines rest
  | '\r' :: rest => '\n' :: unifyLines rest
  | c :: rest => c :: unifyLines rest
  | [] => []

/-- Reads a file of UTF-8 text. -/
def decodeFile (bs : List UInt8) : Except Undecodable String :=
  (decode .utf8 false 0 bs).map fun cs => String.ofList (unifyLines cs)

/-! ## §5. ASCII. -/

/-- Characters of a text that are not ASCII: where they start and which they are. -/
structure NotAscii where
  start : Nat
  first : Char
  count : Nat
  deriving DecidableEq

/-- The first run of characters above ASCII. -/
def notAscii? (cs : List Char) : Option NotAscii :=
  let start := (cs.takeWhile fun c => c.toNat < 128).length
  match cs.drop start with
  | [] => none
  | first :: rest =>
    some { start, first, count := (rest.takeWhile fun c => 128 ≤ c.toNat).length + 1 }

end ApiTools.Text
