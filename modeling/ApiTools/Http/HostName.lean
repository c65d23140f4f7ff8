/-
  ApiTools.Http.HostName
  ──────────────────────
  **HOST NAMES BEYOND ASCII.**

  A host name is made of labels.  A label with characters beyond ASCII is
  written in ASCII: its ASCII characters, then, for the others in the order of
  their numbers, how far each is from the one before, in digits of base 36
  whose thresholds adapt to the distances seen so far.
-/
import ApiTools.Text.Alphanumeric
import ApiTools.Text.Casing

namespace ApiTools.Http.HostName

/-! ## §1. Distances in base 36. -/

/-- A digit of base 36: letters come before decimal digits. -/
def digit (d : Nat) : Char := if d < 26 then Char.ofNat (97 + d) else Char.ofNat (22 + d)

/-- The threshold of the digit at a place. -/
def threshold (place bias : Nat) : Nat :=
  if place ≤ bias then 1 else if bias + 26 ≤ place then 26 else place - bias

theorem threshold_pos (place bias : Nat) : 1 ≤ threshold place bias := by
  unfold threshold
  split
  · omega
  · split <;> omega

/-- The digits of a distance. -/
def digits (bias place q : Nat) : List Char :=
  let t := threshold place bias
  if q < t then [digit q]
  else digit (t + (q - t) % (36 - t)) :: digits bias (place + 36) ((q - t) / (36 - t))
termination_by q
decreasing_by
  have := threshold_pos place bias
  have h : (q - threshold place bias) / (36 - threshold place bias)
      ≤ q - threshold place bias := Nat.div_le_self ..
  omega

/-- How often a distance is divided by 35 until it is at most 455, times 36, and what remains. -/
def shrink (steps delta : Nat) : Nat × Nat :=
  if 455 < delta then shrink (steps + 36) (delta / 35) else (steps, delta)
termination_by delta
decreasing_by exact Nat.div_lt_self (by omega) (by omega)

/-- The bias after a distance. -/
def adapt (delta count : Nat) (isFirst : Bool) : Nat :=
  let halved := if isFirst then delta / 700 else delta / 2
  let (steps, rest) := shrink 0 (halved + halved / count)
  steps + 36 * rest / (rest + 38)

/-- Where the writer of a label is. -/
structure Progress where
  delta : Nat
  bias : Nat
  written : Nat
  output : List Char

/-- Meets one character of the label while the characters of number `n` are written. -/
def Progress.meet (basic n : Nat) (p : Progress) (c : Char) : Progress :=
  if c.toNat < n then { p with delta := p.delta + 1 }
  else if c.toNat = n then
    { delta := 0, bias := adapt p.delta (p.written + 1) (p.written == basic)
      written := p.written + 1, output := p.output ++ digits p.bias 36 p.delta }
  else p

/-- Writes the characters whose numbers are listed in ascending order; those below `previous` are
written. -/
def writeFrom (label : List Char) (basic previous : Nat) (p : Progress) : List Nat → List Char
  | [] => p.output
  | n :: ns =>
    let start := { p with delta := p.delta + (n - previous) * (p.written + 1) }
    let done := label.foldl (Progress.meet basic n) start
    writeFrom label basic (n + 1) { done with delta := done.delta + 1 } ns

/-- Inserts a number into an ascending list, once. -/
def insertOnce (n : Nat) : List Nat → List Nat
  | [] => [n]
  | m :: ms => if n < m then n :: m :: ms else if n = m then m :: ms else m :: insertOnce n ms

/-- A label in ASCII. -/
def encodeLabel (label : List Char) : List Char :=
  let basic := label.filter fun c => c.toNat < 128
  let others := (label.filter fun c => 128 ≤ c.toNat).foldr (fun c ns => insertOnce c.toNat ns) []
  let start : Progress :=
    { delta := 0, bias := 72, written := basic.length
      output := basic ++ (if basic.isEmpty then [] else ['-']) }
  "xn--".toList ++ writeFrom label basic.length 128 start others

/-! ## §2. Names. -/

/-- May a character stand in a label? -/
def isLabelChar (c : Char) : Bool :=
  c == '-' || (Text.isWord c && c != '_' && Text.lower [c] == [c])

/-- Is a text a label: no hyphen at its ends, nor two at its third place? -/
def isLabel (label : List Char) : Bool :=
  !label.isEmpty && label.all isLabelChar && label.head? != some '-'
    && label.getLast? != some '-' && (label.drop 2).take 2 != ['-', '-']

/-- The characters that end a label. -/
def isDot (c : Char) : Bool := c == '.' || c == '。' || c == '．' || c == '｡'

/-- The labels of a name. -/
def labels : List Char → List (List Char)
  | [] => [[]]
  | c :: cs =>
    match labels cs with
    | [] => [[c]]
    | l :: ls => if isDot c then [] :: l :: ls else (c :: l) :: ls

/-- A label as it is written, if it is one. -/
def writtenLabel? (label : List Char) : Option (List Char) :=
  if !isLabel label then none
  else
    let out := if label.all (fun c => c.toNat < 128) then label else encodeLabel label
    if out.length ≤ 63 then some out else none

/-- A host name in ASCII; a dot may end it. -/
def encode? (name : List Char) : Option (List Char) :=
  let all := labels (Text.lower name)
  let ended := 1 < all.length && all.getLast? == some []
  match (if ended then all.dropLast else all).mapM writtenLabel? with
  | none => none
  | some written =>
    let out := ['.'].intercalate (if ended then written ++ [[]] else written)
    if out.length ≤ (if ended then 254 else 253) then some out else none

end ApiTools.Http.HostName
