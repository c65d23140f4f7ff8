/-
  ApiTools.Proofs.Json.Grammar
  ────────────────────────────
  **THE GRAMMAR OF JSON.**

  Which texts spell which values, said without a reader: `Characters` for what
  stands between the quotes of a string, `WholePart`, `FractionPart` and
  `ExponentPart` for the parts of a number, `Spells` for a value without
  blanks around it, `Denotes` for a whole text.  Beyond the standard the words
  for numbers that are not finite are values, a surrogate that stands alone
  spells a half, and of two members with one name the later value stays.

  How many digits a whole number may have and how many levels a value may have
  are parameters of the grammar, since these bounds belong to the reader and
  not to JSON (`Spells.mono`).
-/
import ApiTools.Json.Reader
import Mathlib.Data.List.TakeWhile
import Mathlib.Data.List.TakeDrop

namespace ApiTools.Json

/-! ## §1. Characters of a string. -/

/-- Four hexadecimal digits and the UTF-16 unit that they number. -/
inductive UnitDigits : List Char → Nat → Prop
  | mk {a b c d : Char} {x y z w : Nat} (first : hexValue? a = some x) (second : hexValue? b = some y)
      (third : hexValue? c = some z) (fourth : hexValue? d = some w) :
      UnitDigits [a, b, c, d] (((x * 16 + y) * 16 + z) * 16 + w)

/-- The text starts with the escape of a low surrogate. -/
def LowFollows (cs : List Char) : Prop :=
  ∃ us m rest, cs = '\\' :: 'u' :: (us ++ rest) ∧ UnitDigits us m ∧ isLowSurrogate m = true

/-- What stands between the quotes of a string, and the points that it spells. -/
inductive Characters : List Char → List Text.Point → Prop
  | nil : Characters [] []
  | plain {c : Char} {cs : List Char} {ps : List Text.Point} (fit : 32 ≤ c.toNat) (quote : c ≠ '"')
      (backslash : c ≠ '\\') (others : Characters cs ps) : Characters (c :: cs) (.char c :: ps)
  | short {c d : Char} {cs : List Char} {ps : List Text.Point} (escape : shortEscape? c = some d)
      (others : Characters cs ps) : Characters ('\\' :: c :: cs) (.char d :: ps)
  | unit {us cs : List Char} {ps : List Text.Point} {n : Nat} (number : UnitDigits us n)
      (alone : isHighSurrogate n = true → ¬ LowFollows cs) (others : Characters cs ps) :
      Characters ('\\' :: 'u' :: (us ++ cs)) (unitPoint n :: ps)
  | pair {us vs cs : List Char} {ps : List Text.Point} {n m : Nat} (first : UnitDigits us n)
      (second : UnitDigits vs m) (high : isHighSurrogate n = true) (low : isLowSurrogate m = true)
      (others : Characters cs ps) :
      Characters ('\\' :: 'u' :: (us ++ '\\' :: 'u' :: (vs ++ cs))) (.char (pairChar n m) :: ps)

/-! ## §2. Numbers. -/

/-- A run of digits. -/
structure Digits (ds : List Char) : Prop where
  ne_nil : ds ≠ []
  digit : ∀ d ∈ ds, d.isDigit = true

/-- The number that a run of digits denotes. -/
def numberOf (ds : List Char) : Nat := Number.ofDigits 10 (ds.map fun d => d.toNat - '0'.toNat)

/-- The digits in front of the point: a zero stands alone. -/
structure WholePart (ds : List Char) : Prop extends Digits ds where
  zero_alone : ds.head? = some '0' → ds = ['0']

/-- A point with digits after it, or nothing, and the digits. -/
inductive FractionPart : List Char → List Char → Prop
  | absent : FractionPart [] []
  | present {ds : List Char} (run : Digits ds) : FractionPart ('.' :: ds) ds

/-- The letter in front of an exponent. -/
def IsExponentLetter (c : Char) : Prop := c = 'e' ∨ c = 'E'

/-- An exponent, or nothing, and the power of ten. -/
inductive ExponentPart : List Char → Option Int → Prop
  | absent : ExponentPart [] none
  | unsigned {c : Char} {ds : List Char} (letter : IsExponentLetter c) (run : Digits ds) :
      ExponentPart (c :: ds) (some (numberOf ds))
  | plus {c : Char} {ds : List Char} (letter : IsExponentLetter c) (run : Digits ds) :
      ExponentPart (c :: '+' :: ds) (some (numberOf ds))
  | minus {c : Char} {ds : List Char} (letter : IsExponentLetter c) (run : Digits ds) :
      ExponentPart (c :: '-' :: ds) (some (-(numberOf ds : Int)))

/-- A number with its sign. -/
def signed (minus : Bool) (cs : List Char) : List Char := if minus then '-' :: cs else cs

/-! ## §3. Values. -/

/-- Nothing but blanks. -/
def Blank (cs : List Char) : Prop := ∀ c ∈ cs, isBlank c = true

/-- An item of a list: its text with the blanks around it, and its value. -/
structure Item where
  before : List Char
  text : List Char
  after : List Char
  value : Value

def Item.whole (i : Item) : List Char := i.before ++ (i.text ++ i.after)

/-- Only blanks stand around the text. -/
structure Item.Padded (i : Item) : Prop where
  before : Blank i.before
  after : Blank i.after

/-- A member of a mapping: the text between the quotes of its name with the blanks around the
quotes, the name, and the item after the colon. -/
structure Member extends Item where
  front : List Char
  name : List Char
  back : List Char
  key : List Text.Point

def Member.whole (m : Member) : List Char :=
  m.front ++ '"' :: (m.name ++ '"' :: (m.back ++ ':' :: m.toItem.whole))

/-- The entry that a member makes. -/
def Member.entry (m : Member) : Value × Value := (.ofPoints m.key, m.value)

/-- Only blanks stand around the name and the text, and the name is spelled. -/
structure Member.Padded (m : Member) : Prop extends m.toItem.Padded where
  front : Blank m.front
  back : Blank m.back
  name : Characters m.name m.key

/-- Parts of a list or mapping, with commas between. -/
def commaJoined (parts : List (List Char)) : List Char := [','].intercalate parts

/-- **The texts that spell a value**, no blanks around them.  Whole numbers have as many digits as
fit, and lists and mappings nest in at most so many levels. -/
inductive Spells (fits : Nat → Prop) : Nat → List Char → Value → Prop
  | word {levels : Nat} {cs : List Char} {v : Value} (mem : (cs, v) ∈ words) :
      Spells fits levels cs v
  | whole {levels : Nat} {ds : List Char} (minus : Bool) (part : WholePart ds)
      (length : fits ds.length) :
      Spells fits levels (signed minus ds)
        (.int (if minus then -(numberOf ds : Int) else numberOf ds))
  | decimal {levels : Nat} {ds part fs power : List Char} {e : Option Int} (minus : Bool)
      (whole : WholePart ds) (fraction : FractionPart part fs) (exponent : ExponentPart power e)
      (marked : fs ≠ [] ∨ e ≠ none) :
      Spells fits levels (signed minus (ds ++ (part ++ power)))
        (.float (Double.ofDecimal minus (numberOf (ds ++ fs)) (e.getD 0 - fs.length)))
  | string {levels : Nat} {cs : List Char} {ps : List Text.Point} (characters : Characters cs ps) :
      Spells fits levels ('"' :: (cs ++ ['"'])) (.ofPoints ps)
  | emptyList {levels : Nat} {ws : List Char} (blank : Blank ws) :
      Spells fits (levels + 1) ('[' :: (ws ++ [']'])) (.list [])
  | list {levels : Nat} {items : List Item} (ne_nil : items ≠ []) (padded : ∀ i ∈ items, i.Padded)
      (spelled : ∀ i ∈ items, Spells fits levels i.text i.value) :
      Spells fits (levels + 1) ('[' :: (commaJoined (items.map Item.whole) ++ [']']))
        (.list (items.map Item.value))
  | emptyMapping {levels : Nat} {ws : List Char} (blank : Blank ws) :
      Spells fits (levels + 1) ('{' :: (ws ++ ['}'])) (.mapping (p := none) [])
  | mapping {levels : Nat} {members : List Member} (ne_nil : members ≠ [])
      (padded : ∀ m ∈ members, m.Padded)
      (spelled : ∀ m ∈ members, Spells fits levels m.text m.value) :
      Spells fits (levels + 1) ('{' :: (commaJoined (members.map Member.whole) ++ ['}']))
        (.mapping (p := none) (Entries.ofList (members.map Member.entry)))

/-- **The texts that hold a value**: they spell it between blanks. -/
def Denotes (fits : Nat → Prop) (levels : Nat) (text : List Char) (v : Value) : Prop :=
  ∃ i : Item, i.Padded ∧ Spells fits levels i.text v ∧ text = i.whole

/-- The number of digits that the reader accepts. -/
abbrev shortEnough (n : Nat) : Prop := n ≤ Number.digitLimit

/-- Any number of digits. -/
abbrev anyLength (_ : Nat) : Prop := True

/-! ## §4. First properties. -/

section Basic

variable {fits : Nat → Prop} {levels : Nat} {cs text : List Char} {v : Value}

/-- Weaker bounds on the digits and the levels admit more texts. -/
theorem Spells.mono {fits' : Nat → Prop} {levels' : Nat} (le : ∀ n, fits n → fits' n)
    (fewer : levels ≤ levels') (h : Spells fits levels text v) : Spells fits' levels' text v := by
  induction h generalizing levels' with
  | word mem => exact .word mem
  | whole minus part length => exact .whole minus part (le _ length)
  | decimal minus whole fraction exponent marked =>
      exact .decimal minus whole fraction exponent marked
  | string characters => exact .string characters
  | emptyList blank =>
      obtain ⟨more, rfl⟩ := Nat.exists_eq_add_of_le' fewer
      exact .emptyList blank
  | list ne_nil padded _ ih =>
      obtain ⟨more, rfl⟩ := Nat.exists_eq_add_of_le' fewer
      exact .list ne_nil padded fun i mem => ih i mem (Nat.le_add_left _ more)
  | emptyMapping blank =>
      obtain ⟨more, rfl⟩ := Nat.exists_eq_add_of_le' fewer
      exact .emptyMapping blank
  | mapping ne_nil padded _ ih =>
      obtain ⟨more, rfl⟩ := Nat.exists_eq_add_of_le' fewer
      exact .mapping ne_nil padded fun m mem => ih m mem (Nat.le_add_left _ more)

theorem Blank.nil : Blank [] := fun _ mem => absurd mem List.not_mem_nil

theorem blank_append {ds : List Char} (h : Blank cs) (h' : Blank ds) : Blank (cs ++ ds) :=
  List.forall_mem_append.mpr ⟨h, h'⟩

/-- The blanks at the start of a text can be split off. -/
theorem exists_blank_append (cs : List Char) : ∃ ws, Blank ws ∧ cs = ws ++ skipBlanks cs :=
  ⟨cs.takeWhile isBlank, fun _ mem => List.mem_takeWhile_imp mem,
    List.takeWhile_append_dropWhile.symm⟩

@[simp] theorem commaJoined_singleton (part : List Char) : commaJoined [part] = part :=
  List.intercalate_singleton

theorem commaJoined_cons (part : List Char) {parts : List (List Char)} (ne_nil : parts ≠ []) :
    commaJoined (part :: parts) = part ++ ',' :: commaJoined parts := by
  rw [commaJoined, List.intercalate_cons_of_ne_nil ne_nil, List.append_assoc]
  rfl

@[simp] theorem commaJoined_cons_cons (part next : List Char) (parts : List (List Char)) :
    commaJoined (part :: next :: parts) = part ++ ',' :: commaJoined (next :: parts) :=
  commaJoined_cons part (List.cons_ne_nil next parts)

end Basic

end ApiTools.Json
