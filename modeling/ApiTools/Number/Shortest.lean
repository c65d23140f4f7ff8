/-
  ApiTools.Number.Shortest
  ────────────────────────
  **THE FEWEST DIGITS THAT READ BACK.**

  `Double.shortest` finds, for a finite number, the decimal with the fewest
  digits that still rounds to it, and among those the nearest one.  The search
  tries grids of 1, 2, … 17 digits; on each it looks only at the two neighbours
  of the number, in exact arithmetic.  How the digits are laid out is a
  separate decision, taken once by `Layout`.
-/
import ApiTools.Number.Double

namespace ApiTools

namespace Double

/-! ## §1. The interval of decimals that read back. -/

/-- The reals that round to a number: the number and both ends over one denominator, and whether
the ends belong to it. -/
structure ReadBack where
  low : Nat
  value : Nat
  high : Nat
  den : Nat
  closed : Bool

/-- The interval of `m · 2^q`.  Just above a power of two the gap below is half as wide; the ends
round to the number exactly when its significand is even. -/
def readBack (m : Nat) (q : Int) : ReadBack :=
  let scale := if 2 ≤ q then Nat.pow 2 (q - 2).toNat else 1
  let den := if 2 ≤ q then 1 else Nat.pow 2 (2 - q).toNat
  let below := if m = Nat.pow 2 52 ∧ -1074 < q then 1 else 2
  { low := (4 * m - below) * scale, value := 4 * m * scale, high := (4 * m + 2) * scale,
    den, closed := m % 2 == 0 }

/-- Does `a · 10^p` lie in the interval? -/
def ReadBack.contains (r : ReadBack) (a : Nat) (p : Int) : Bool :=
  let x := if 0 ≤ p then a * Nat.pow 10 p.toNat * r.den else a * r.den
  let up := if 0 ≤ p then 1 else Nat.pow 10 (-p).toNat
  if r.closed then r.low * up ≤ x && x ≤ r.high * up
  else r.low * up < x && x < r.high * up

/-- The neighbours of the number on the grid of multiples of `10^p`, the nearer first; on a tie
the even one comes first. -/
def ReadBack.neighbours (r : ReadBack) (p : Int) : Nat × Nat :=
  let num := if 0 ≤ p then r.value else r.value * Nat.pow 10 (-p).toNat
  let den := if 0 ≤ p then r.den * Nat.pow 10 p.toNat else r.den
  let a := num / den
  let near := roundHalfEven num den
  if near = a then (a, a + 1) else (a + 1, a)

/-- The first of the neighbours that reads back. -/
def ReadBack.hit? (r : ReadBack) (p : Int) : Option Nat :=
  let (near, far) := r.neighbours p
  if r.contains near p then some near
  else if r.contains far p then some far
  else none

/-! ## §2. The search. -/

/-- The number of decimal digits. -/
def digitCount (n : Nat) : Nat := (Nat.toDigits 10 n).length

/-- The exponent of the leading decimal digit of `num / den`, both positive. -/
def leadingExponent (num den : Nat) : Int :=
  if den ≤ num then (digitCount (num / den) : Int) - 1
  else
    let above := (den + num - 1) / num
    Int.negOfNat (digitCount (above - 1))

/-- Tries grids with ever more digits, at most `fuel` of them. -/
def searchGrid (r : ReadBack) (p : Int) : Nat → Nat × Int
  | 0 => (0, p)
  | fuel + 1 =>
    match r.hit? p with
    | some a => (a, p)
    | none => searchGrid r (p - 1) fuel

/-- Drops the trailing zeros of `a`, each of which raises the exponent by one. -/
def trimZeros (a : Nat) (p : Int) : Nat → Nat × Int
  | 0 => (a, p)
  | fuel + 1 => if a ≠ 0 ∧ a % 10 = 0 then trimZeros (a / 10) (p + 1) fuel else (a, p)

/-- The digits `a` and the exponent `p` of the shortest decimal `a · 10^p` of a finite number that
is not zero. -/
def shortest (x : Double) : Nat × Int :=
  let (m, q) := x.magnitude
  let r := readBack m q
  let top := leadingExponent r.value r.den
  let (a, p) := searchGrid r top 18
  trimZeros a p 20

/-! ## §3. Layout. -/

/-- Where a decimal is written positionally and where with an exponent. -/
structure Layout where
  /-- the least exponent of the leading digit that is written positionally -/
  least : Int
  /-- the first exponent of the leading digit that no longer is -/
  bound : Int
  /-- the fewest digits of a written exponent -/
  exponentDigits : Nat
  infinity : String
  nan : String

/-- Zeros in front of the decimal digits of `n`, up to a width. -/
def padded (width n : Nat) : List Char :=
  let ds := Nat.toDigits 10 n
  List.replicate (width - ds.length) '0' ++ ds

/-- Lays out the digits `ds`, the first of which has the weight `10^e`. -/
def Layout.digits (l : Layout) (ds : List Char) (e : Int) : List Char :=
  if l.least ≤ e ∧ e < l.bound then
    if e < 0 then '0' :: '.' :: (List.replicate ((-e).toNat - 1) '0' ++ ds)
    else
      let whole := e.toNat + 1
      let front := ds.take whole ++ List.replicate (whole - ds.length) '0'
      let back := ds.drop whole
      front ++ '.' :: (if back.isEmpty then ['0'] else back)
  else
    let back := ds.drop 1
    let mantissa := ds.take 1 ++ (if back.isEmpty then [] else '.' :: back)
    mantissa ++ 'e' :: (if e < 0 then '-' else '+') :: padded l.exponentDigits e.natAbs

/-- The text of a number in a layout. -/
def Layout.render (l : Layout) (x : Double) : String :=
  if x.isNaN then l.nan
  else
    let sign := if x.negative then ['-'] else []
    if x.isInfinite then String.ofList sign ++ l.infinity
    else if x.isZero then String.ofList (sign ++ ['0', '.', '0'])
    else
      let (a, p) := x.shortest
      let ds := Nat.toDigits 10 a
      String.ofList (sign ++ l.digits ds (p + ds.length - 1))

/-- Numbers in texts: positional from `10^-4` up to `10^16`, exponents with at least two digits. -/
def plain : Layout := ⟨-4, 16, 2, "inf", "nan"⟩

/-- Numbers in JSON texts: as `plain`, with the names of the non-finite numbers that JSON readers
know. -/
def inJson : Layout := { plain with infinity := "Infinity", nan := "NaN" }

end Double

end ApiTools
