/-
  ApiTools.Text.Search
  ────────────────────
  **FINDING AND REPLACING TEXT IN TEXT.**

  `occursIn` tells whether a text is part of another; `replaceAll` replaces
  the occurrences of a text from left to right, each looked for behind the one
  before, so what has been put in is never looked at.
-/

namespace ApiTools.Text

/-- Does one text occur in another? -/
def occursIn (part : List Char) : List Char → Bool
  | [] => part.isEmpty
  | c :: cs => part.isPrefixOf (c :: cs) || occursIn part cs

/-- Replaces the occurrences of a text that is not empty; the first `skip` characters belong to
an occurrence already replaced. -/
def replaceFrom (part new : List Char) : Nat → List Char → List Char
  | _, [] => []
  | skip + 1, _ :: cs => replaceFrom part new skip cs
  | 0, c :: cs =>
    if part.isPrefixOf (c :: cs) then new ++ replaceFrom part new (part.length - 1) cs
    else c :: replaceFrom part new 0 cs

/-- Replaces the occurrences of a text that is not empty by another. -/
def replaceAll (part new text : String) : String :=
  String.ofList (replaceFrom part.toList new.toList 0 text.toList)

/-- Does one text occur in another? -/
def contains (part text : String) : Bool := occursIn part.toList text.toList

/-- Puts one character in the place of another. -/
def swapChar (old new : Char) (text : String) : String :=
  String.ofList (text.toList.map fun c => if c = old then new else c)

/-- Does a text start with another? -/
def startsWith (part text : String) : Bool := part.toList.isPrefixOf text.toList

/-- Does a text end with another? -/
def endsWith (part text : String) : Bool := part.toList.isSuffixOf text.toList

/-- The text up to the first occurrence of a character. -/
def upTo (stop : Char) (text : String) : String :=
  String.ofList (text.toList.takeWhile (· != stop))

/-! ## What is found. -/

theorem occursIn_eq_true_iff (part cs : List Char) : occursIn part cs = true ↔ part <:+: cs := by
  induction cs with
  | nil => simp [occursIn]
  | cons c cs ih =>
      rw [occursIn, Bool.or_eq_true, List.isPrefixOf_iff_prefix, ih, List.infix_cons_iff]

theorem contains_eq_true_iff (part text : String) :
    contains part text = true ↔ part.toList <:+: text.toList :=
  occursIn_eq_true_iff part.toList text.toList

theorem startsWith_eq_true_iff (part text : String) :
    startsWith part text = true ↔ part.toList <+: text.toList :=
  List.isPrefixOf_iff_prefix

end ApiTools.Text
