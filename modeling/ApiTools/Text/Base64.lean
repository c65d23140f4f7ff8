/-
  ApiTools.Text.Base64
  ────────────────────
  **OCTETS IN SIXTY-FOUR CHARACTERS.**

  Three octets are written as four characters of six bits each.  At the end,
  one octet gives two characters and two give three, and equals signs fill up
  to four.  Reading skips what is no such character, ends where equals signs
  fill up a group, and tells a group that was cut short.
-/

namespace ApiTools.Text.Base64

/-! ## §1. The characters. -/

/-- The character of six bits. -/
def digit (n : Nat) : Char :=
  if n < 26 then Char.ofNat (65 + n)
  else if n < 52 then Char.ofNat (71 + n)
  else if n < 62 then Char.ofNat (n - 4)
  else if n = 62 then '+'
  else '/'

/-- The six bits of a character. -/
def value? (c : Char) : Option Nat :=
  if 'A' ≤ c ∧ c ≤ 'Z' then some (c.toNat - 65)
  else if 'a' ≤ c ∧ c ≤ 'z' then some (c.toNat - 71)
  else if '0' ≤ c ∧ c ≤ '9' then some (c.toNat + 4)
  else if c = '+' then some 62
  else if c = '/' then some 63
  else none

/-! ## §2. Writing. -/

/-- Writes octets. -/
def encode : List UInt8 → List Char
  | [] => []
  | [a] =>
    let n := a.toNat
    [digit (n / 4), digit (n % 4 * 16), '=', '=']
  | [a, b] =>
    let n := a.toNat * 256 + b.toNat
    [digit (n / 1024), digit (n / 16 % 64), digit (n % 16 * 4), '=']
  | a :: b :: c :: rest =>
    let n := (a.toNat * 256 + b.toNat) * 256 + c.toNat
    digit (n / 262144) :: digit (n / 4096 % 64) :: digit (n / 64 % 64) :: digit (n % 64)
      :: encode rest

/-! ## §3. Reading. -/

/-- Where a reader is: how many characters of the group it has met, the bits that are left of the
last one, how many equals signs stand behind it, and the octets read, the last first. -/
structure Progress where
  place : Nat
  left : Nat
  fill : Nat
  octets : List UInt8

/-- The progress after six more bits. -/
def Progress.take (p : Progress) (bits : Nat) : Progress :=
  match p.place with
  | 0 => { p with place := 1, left := bits, fill := 0 }
  | 1 =>
    { place := 2, left := bits % 16, fill := 0
      octets := UInt8.ofNat (p.left * 4 + bits / 16) :: p.octets }
  | 2 =>
    { place := 3, left := bits % 4, fill := 0
      octets := UInt8.ofNat (p.left * 16 + bits / 4) :: p.octets }
  | _ =>
    { place := 0, left := 0, fill := 0
      octets := UInt8.ofNat (p.left * 64 + bits) :: p.octets }

/-- Reads on to the end; `none` if the last group is cut short. -/
def decodeFrom (p : Progress) : List Char → Option (List UInt8)
  | [] => if p.place = 0 then some p.octets.reverse else none
  | '=' :: rest =>
    if 2 ≤ p.place ∧ 4 ≤ p.place + (p.fill + 1) then some p.octets.reverse
    else if 2 ≤ p.place then decodeFrom { p with fill := p.fill + 1 } rest
    else decodeFrom p rest
  | c :: rest =>
    match value? c with
    | some bits => decodeFrom (p.take bits) rest
    | none => decodeFrom p rest

/-- Reads octets. -/
def decode (cs : List Char) : Option (List UInt8) := decodeFrom ⟨0, 0, 0, []⟩ cs

end ApiTools.Text.Base64
