/-
  ApiTools.Number.Double
  ──────────────────────
  **BINARY64 NUMBERS AS BIT PATTERNS.**

  A `Double` is the 64-bit pattern of an IEEE 754 number, so equality of two
  of them is decidable and every question about one is a question about
  natural numbers.  A finite pattern denotes `± m · 2^q` (`magnitude`); the
  way back, `ofRatio`, rounds an exact quotient to the nearest pattern and
  sends a tie to the even one.
-/

namespace ApiTools

/-- An IEEE 754 binary64 number, kept as its bit pattern. -/
structure Double where
  bits : UInt64
  deriving DecidableEq, Inhabited

namespace Double

/-! ## §1. The fields of a pattern. -/

/-- The sign bit. -/
def negative (x : Double) : Bool := x.bits >>> 63 == 1

/-- The biased exponent, eleven bits wide. -/
def exponentField (x : Double) : Nat := ((x.bits >>> 52) &&& 0x7FF).toNat

/-- The fraction, fifty-two bits wide. -/
def fractionField (x : Double) : Nat := (x.bits &&& 0xFFFFFFFFFFFFF).toNat

def isFinite (x : Double) : Bool := x.exponentField != 0x7FF

def isNaN (x : Double) : Bool := x.exponentField == 0x7FF && x.fractionField != 0

def isInfinite (x : Double) : Bool := x.exponentField == 0x7FF && x.fractionField == 0

def isZero (x : Double) : Bool := x.exponentField == 0 && x.fractionField == 0

/-- The pair `(m, q)` with `|x| = m · 2^q`, for a finite `x`.  The numbers below the normal range
share the exponent of its bottom and lack the implicit leading bit. -/
def magnitude (x : Double) : Nat × Int :=
  if x.exponentField = 0 then (x.fractionField, -1074)
  else (x.fractionField + Nat.pow 2 52, (x.exponentField : Int) - 1075)

/-! ## §2. Building patterns. -/

/-- Assembles the three fields. -/
def ofFields (negative : Bool) (exponent fraction : Nat) : Double :=
  ⟨UInt64.ofNat ((if negative then Nat.pow 2 63 else 0) + exponent * Nat.pow 2 52 + fraction)⟩

def zero (negative : Bool) : Double := ofFields negative 0 0

def infinity (negative : Bool) : Double := ofFields negative 0x7FF 0

def nan : Double := ofFields false 0x7FF (Nat.pow 2 51)

/-- Flips the sign bit. -/
def negate (x : Double) : Double := ⟨x.bits ^^^ 0x8000000000000000⟩

/-- The quotient `num / den` rounded to a whole number, a tie going to the even neighbour. -/
def roundHalfEven (num den : Nat) : Nat :=
  let q := num / den
  let twice := 2 * (num % den)
  if twice < den then q
  else if den < twice then q + 1
  else if q % 2 = 0 then q else q + 1

/-- The pattern of `m · 2^q` for a rounded significand `m ≤ 2^53`; too large a value becomes the
infinity of its sign. -/
def pack (negative : Bool) (m : Nat) (q : Int) : Double :=
  let (m, q) := if m = Nat.pow 2 53 then (Nat.pow 2 52, q + 1) else (m, q)
  if m < Nat.pow 2 52 then ofFields negative 0 m
  else if 971 < q then infinity negative
  else ofFields negative (q + 1075).toNat (m - Nat.pow 2 52)

/-- The nearest number to `± num / den`, a tie going to the even pattern; `den` is positive.
The exponent is chosen so that the rounded significand has fifty-three bits, unless that would
fall below the least exponent there is. -/
def ofRatio (negative : Bool) (num den : Nat) : Double :=
  if num = 0 then zero negative
  else
    let scaled (q : Int) : Nat × Nat :=
      if 0 ≤ q then (num, den * Nat.pow 2 q.toNat) else (num * Nat.pow 2 (-q).toNat, den)
    let guess : Int := (Nat.log2 num : Int) - Nat.log2 den - 52
    let (n, d) := scaled guess
    let q := max (-1074) (if n / d < Nat.pow 2 52 then guess - 1 else guess)
    let (n, d) := scaled q
    pack negative (roundHalfEven n d) q

/-- The nearest number to `± digits · 10^exponent`.  Far outside the range of the format the
answer is known without the power: `digits` is between `10^least` and `10^most`. -/
def ofDecimal (negative : Bool) (digits : Nat) (exponent : Int) : Double :=
  let least : Int := (Nat.log2 digits : Int) * 3 / 10
  let most : Int := ((Nat.log2 digits : Int) + 1) * 302 / 1000 + 1
  if digits = 0 then zero negative
  else if 400 < least + exponent then infinity negative
  else if most + exponent < -400 then zero negative
  else if 0 ≤ exponent then ofRatio negative (digits * Nat.pow 10 exponent.toNat) 1
  else ofRatio negative digits (Nat.pow 10 (-exponent).toNat)

/-- The nearest number to a whole number. -/
def ofInt (i : Int) : Double := ofRatio (decide (i < 0)) i.natAbs 1

/-! ## §3. Comparison and arithmetic. -/

/-- The whole number that a finite pattern denotes, if it denotes one. -/
def toInt? (x : Double) : Option Int :=
  if !x.isFinite then none
  else
    let (m, q) := x.magnitude
    let size : Option Nat :=
      if 0 ≤ q then some (m * Nat.pow 2 q.toNat)
      else if m % Nat.pow 2 (-q).toNat = 0 then some (m / Nat.pow 2 (-q).toNat) else none
    size.map fun n => if x.negative then -(n : Int) else n

/-- Are numbers found under each other?  The zeros are, and so is what is no number: texts give
one and the same NaN. -/
def sameValue (x y : Double) : Bool :=
  x == y || (x.isZero && y.isZero) || (x.isNaN && y.isNaN)

/-- A finite pattern as a quotient with its sign. -/
def toRatio (x : Double) : Int × Nat :=
  let (m, q) := x.magnitude
  let (n, d) := if 0 ≤ q then (m * Nat.pow 2 q.toNat, 1) else (m, Nat.pow 2 (-q).toNat)
  (if x.negative then -(n : Int) else n, d)

/-- The product, rounded once. -/
def mul (x y : Double) : Double :=
  let sign := x.negative != y.negative
  if x.isNaN || y.isNaN then nan
  else if x.isInfinite || y.isInfinite then
    if x.isZero || y.isZero then nan else infinity sign
  else
    let (a, b) := x.toRatio
    let (c, d) := y.toRatio
    ofRatio sign (a * c).natAbs (b * d)

/-- The sum, rounded once; a sum of opposite numbers is the positive zero. -/
def add (x y : Double) : Double :=
  if x.isNaN || y.isNaN then nan
  else if x.isInfinite then
    if y.isInfinite && x.negative != y.negative then nan else x
  else if y.isInfinite then y
  else if x.isZero && y.isZero then zero (x.negative && y.negative)
  else
    let (a, b) := x.toRatio
    let (c, d) := y.toRatio
    let s := a * d + c * b
    ofRatio (decide (s < 0)) s.natAbs (b * d)

end Double

end ApiTools
