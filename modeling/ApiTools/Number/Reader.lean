/-
  ApiTools.Number.Reader
  ──────────────────────
  **NUMBERS IN SETTINGS AND SCALARS.**

  Whole numbers in a base and decimals with a point or an exponent, as people
  write them: white space around, an optional sign, underscores between
  digits, decimal digits of any script.  A whole number in base ten has at
  most 4300 digits.
-/
import ApiTools.Number.Double
import ApiTools.Text.Blank

namespace ApiTools.Number

open ApiTools.Text

/-! ## §1. Whole numbers. -/

/-- Why a text is not a whole number. -/
inductive IntProblem where
  | notANumber
  | tooManyDigits (count : Nat)
  deriving DecidableEq

/-- The most digits of a whole number in base ten. -/
def digitLimit : Nat := 4300

/-- A whole number that has at most 4300 digits in base ten. -/
abbrev Short (i : Int) : Prop := (Nat.toDigits 10 i.natAbs).length ≤ digitLimit

/-- The value of a digit or letter as a digit. -/
def digitOf (c : Char) : Option Nat :=
  match digitValue? c with
  | some d => some d
  | none =>
    if 'a' ≤ c ∧ c ≤ 'z' then some (c.toNat - 'a'.toNat + 10)
    else if 'A' ≤ c ∧ c ≤ 'Z' then some (c.toNat - 'A'.toNat + 10)
    else none

/-- The digits of a run in a base, in which a single underscore may stand between two digits.
`fresh` tells that an underscore may not come next. -/
def digitsIn (base : Nat) (fresh : Bool) : List Char → Option (List Nat)
  | [] => if fresh then none else some []
  | '_' :: rest => if fresh then none else digitsIn base true rest
  | c :: rest =>
    match digitOf c with
    | some d => if d < base then (digitsIn base false rest).map (d :: ·) else none
    | none => none

/-- The number that digits denote, the most significant first. -/
def ofDigits (base : Nat) (ds : List Nat) : Nat := ds.foldl (fun n d => n * base + d) 0

/-- Removes a sign; the flag tells a minus. -/
def splitSign : List Char → Bool × List Char
  | '+' :: rest => (false, rest)
  | '-' :: rest => (true, rest)
  | cs => (false, cs)

/-- The letter that may follow a zero in front of the digits of a base. -/
def baseLetter? : Nat → Option Char
  | 2 => some 'b'
  | 8 => some 'o'
  | 16 => some 'x'
  | _ => none

/-- Removes the mark of the base and one underscore after it. -/
def dropBaseMark (base : Nat) : List Char → List Char
  | '0' :: c :: rest =>
    if baseLetter? base = some c.toLower then
      match rest with
      | '_' :: more => more
      | _ => rest
    else '0' :: c :: rest
  | cs => cs

/-- Reads a whole number in a base. -/
def readInt (base : Nat) (cs : List Char) : Except IntProblem Int :=
  let (minus, body) := splitSign (strip cs)
  match digitsIn base true (dropBaseMark base body) with
  | none => .error .notANumber
  | some ds =>
    if base = 10 ∧ digitLimit < ds.length then .error (.tooManyDigits ds.length)
    else
      let n : Int := ofDigits base ds
      .ok (if minus then -n else n)

/-! ## §2. Decimals. -/

/-- A run of decimal digits with single underscores between; what follows comes back. -/
def decimalRun (cs : List Char) : List Nat × List Char :=
  let rec go (last : Bool) (acc : List Nat) : List Char → List Nat × List Char
    | '_' :: c :: rest =>
      if last && (digitValue? c).isSome then go false acc (c :: rest)
      else (acc.reverse, '_' :: c :: rest)
    | c :: rest =>
      match digitValue? c with
      | some d => go true (d :: acc) rest
      | none => (acc.reverse, c :: rest)
    | [] => (acc.reverse, [])
  go false [] cs

/-- The exponent after its letter. -/
def readExponent? (cs : List Char) : Option Int :=
  let (minus, body) := splitSign cs
  match decimalRun body with
  | ([], _) => none
  | (ds, []) => some (if minus then -(ofDigits 10 ds : Int) else ofDigits 10 ds)
  | _ => none

/-- The nearest number to a decimal: digits, possibly a point and more digits, possibly an
exponent. -/
def readDecimal? (minus : Bool) (cs : List Char) : Option Double :=
  let (whole, rest) := decimalRun cs
  let (part, rest) :=
    match rest with
    | '.' :: more => decimalRun more
    | _ => ([], rest)
  if whole.isEmpty && part.isEmpty then none
  else
    let digits := ofDigits 10 (whole ++ part)
    match rest with
    | [] => some (Double.ofDecimal minus digits (-part.length))
    | c :: more =>
      if c = 'e' ∨ c = 'E' then
        (readExponent? more).map fun e => Double.ofDecimal minus digits (e - part.length)
      else none

/-- Reads a number with a fraction, or one of the names of the numbers that are not finite. -/
def readDouble? (cs : List Char) : Option Double :=
  let (minus, body) := splitSign (strip cs)
  let name := String.ofList (body.map Char.toLower)
  if name = "inf" ∨ name = "infinity" then some (Double.infinity minus)
  else if name = "nan" then some Double.nan
  else readDecimal? minus body

end ApiTools.Number
