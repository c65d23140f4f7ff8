/-
  ApiTools.Text.Point
  ───────────────────
  **TEXTS IN WHICH HALVES OF CHARACTERS STAND ALONE.**

  An escape can name half of a surrogate pair without the other half.  Such a
  half is no character, so a text with one in it is no `String`: it is `Torn`.
  It can be held, compared and written with escapes, but has no octets.
-/
namespace ApiTools.Text

/-- What texts are made of: a character, or half of a pair, by its place among the halves. -/
inductive Point where
  | char (c : Char)
  | half (n : Fin 0x800)
  deriving DecidableEq

namespace Point

def isHalf : Point → Bool
  | char _ => false
  | half _ => true

/-- The UTF-16 unit that a half is. -/
def unitOf (n : Fin 0x800) : Nat := 0xD800 + n.val

/-- What is shown where texts have to be made of characters: of a half, the replacement
character. -/
def shown : Point → Char
  | char c => c
  | half _ => Char.ofNat 0xFFFD

end Point

/-- A text in which a half stands alone. -/
structure Torn where
  points : List Point
  torn : points.any Point.isHalf = true
  deriving DecidableEq

/-- A torn text with a replacement character for every half. -/
def Torn.shown (t : Torn) : String := String.ofList (t.points.map Point.shown)

end ApiTools.Text
