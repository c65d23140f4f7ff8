/-
  ApiTools.Value.Access
  ─────────────────────
  **USING A VALUE OF UNKNOWN KIND.**

  Specifications and arguments come from outside, and nothing has checked
  them.  Each function here asks one thing of a value (a field, its items,
  whether it contains a name) and answers with a fault when values of its kind
  do not admit it.
-/
import ApiTools.Fault
import ApiTools.Text.Search
import ApiTools.Text.Casing

namespace ApiTools.Value

/-! ## §1. Fields of a mapping. -/

/-- The fault of a value that has no feature of a name. -/
def lacks {α : Type} (v : Value) (feature : String) : Except Fault α :=
  .error (.noFeature v.kindName feature)

/-- The value of a field, if the mapping has it. -/
def field? (name : String) : Value → Except Fault (Option Value)
  | mapping es => .ok (Entries.get? name es)
  | v => v.lacks "get"

/-- The value of a field, null if the mapping does not have it. -/
def field (name : String) (v : Value) : Except Fault Value :=
  (v.field? name).map fun x => x.getD null

/-- The entries of a mapping. -/
def pairs : Value → Except Fault Entries
  | mapping es => .ok es
  | v => v.lacks "items"

/-- The value stored under a key that may be of any kind. -/
def fieldAt? (key : Value) : Value → Except Fault (Option Value)
  | mapping es =>
    if key.hashable then .ok (Entries.find? key es)
    else .error (.misuse (.noKey key.kindName))
  | v => v.lacks "get"

/-! ## §2. Parts. -/

/-- The part of a value under a name. -/
def part (name : String) : Value → Except Fault Value
  | mapping es =>
    match Entries.get? name es with
    | some v => .ok v
    | none => .error (.missingKey (.str name))
  | list _ => .error (.misuse (.numberedParts "list"))
  | tuple _ => .error (.misuse (.numberedParts "tuple"))
  | str _ => .error (.misuse (.numberedParts "str"))
  | torn _ => .error (.misuse (.numberedParts "str"))
  | bytes _ => .error (.misuse (.numberedParts "bytes"))
  | v => .error (.misuse (.noParts v.kindName))

/-- The first part of a value that is not empty; of a mapping, the one under the key zero. -/
def firstPart : Value → Except Fault Value
  | list (v :: _) => .ok v
  | tuple (v :: _) => .ok v
  | str s => .ok (str (String.ofList (s.toList.take 1)))
  | torn t => .ok (ofPoints (t.points.take 1))
  | bytes (b :: _) => .ok (int b.toNat)
  | mapping es =>
    match Entries.find? (int 0) es with
    | some v => .ok v
    | none => .error (.missingKey (int 0))
  | v => .error (.misuse (.noParts v.kindName))

/-- The characters of a text, each as a text. -/
def characters (s : String) : List Value := s.toList.map fun c => str (String.ofList [c])

/-- What going through a value meets, one after the other. -/
def elements : Value → Except Fault (List Value)
  | list xs => .ok xs
  | tuple xs => .ok xs
  | set xs => .ok xs
  | mapping es => .ok (es.map (·.1))
  | str s => .ok (characters s)
  | torn t => .ok (t.points.map fun p => ofPoints [p])
  | bytes bs => .ok (bs.map fun b => int b.toNat)
  | v => .error (.misuse (.noItems v.kindName))

/-- Does a value contain a name: a mapping as a key, a list as an item, a text as a part? -/
def has (name : String) : Value → Except Fault Bool
  | mapping es => .ok (Entries.contains name es)
  | list xs => .ok (xs.any (isText name))
  | tuple xs => .ok (xs.any (isText name))
  | set xs => .ok (xs.any (isText name))
  | str s => .ok (Text.contains name s)
  | torn t => .ok (Text.contains name t.shown)
  | bytes _ => .error (.misuse (.noText "bytes"))
  | v => .error (.misuse (.noMembers v.kindName))

/-! ## §3. Texts. -/

/-- The text that a value is, for a use that only texts and octets have, and of which octets do
not admit text. -/
def textFor (feature : String) : Value → Except Fault String
  | str s => .ok s
  | torn t => .ok t.shown
  | bytes _ => .error (.misuse (.noText "bytes"))
  | v => v.lacks feature

/-- The text that a value is, to look for names in braces in it. -/
def template : Value → Except Fault String
  | str s => .ok s
  | torn t => .ok t.shown
  | v => .error (.misuse (.noTemplate v.kindName))

/-- A text in upper case. -/
def upper : Value → Except Fault String
  | str s => .ok (Text.toUpper s)
  | torn t => .ok (Text.toUpper t.shown)
  | v => v.lacks "upper"

end ApiTools.Value
