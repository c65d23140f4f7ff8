/-
  ApiTools.Value.Basic
  ────────────────────
  **THE VALUES OF SPECIFICATIONS, ARGUMENTS AND RESPONSES.**

  A `Value` is what a JSON or YAML text denotes.  A text in a value is whole or
  torn (`Value.ofPoints`).  Mappings keep the order in which their keys first
  came, and one key may be written in several ways: `1`, `1.0` and `true` are
  the same key (`Value.sameKey`).  Looking up, storing and erasing are
  operations on the entry list, so a mapping is its entries and, if aliases
  make it stand at several places of a document, the number by which it is the
  same mapping at all of them.
-/
import ApiTools.Number.Shortest
import ApiTools.Text.Point
import ApiTools.Value.Calendar

namespace ApiTools

/-! ## §1. The type. -/

inductive Value where
  | null
  | bool (b : Bool)
  | int (i : Int)
  | float (x : Double)
  | str (s : String)
  | torn (t : Text.Torn)
  | list (items : List Value)
  /-- mappings with one number are one mapping of the text that they were read from -/
  | mapping {p : Option Nat} (entries : List (Value × Value))
  | tuple (items : List Value)
  | bytes (octets : List UInt8)
  | date (d : Date)
  | datetime (t : DateTime)
  | set (items : List Value)
  deriving Inhabited

/-- The entries of a mapping, in the order in which their keys first came. -/
abbrev Entries := List (Value × Value)

namespace Value

/-- The text that points make up. -/
def ofPoints (ps : List Text.Point) : Value :=
  if torn : ps.any Text.Point.isHalf = true then .torn ⟨ps, torn⟩
  else .str (String.ofList (ps.map Text.Point.shown))

/-- A mapping with string keys. -/
def object (fields : List (String × Value)) : Value :=
  .mapping (p := none) (fields.map fun f => (.str f.1, f.2))

/-! ## §2. Kinds. -/

/-- The word for the kind of a value in messages. -/
def kindName : Value → String
  | null => "NoneType"
  | bool _ => "bool"
  | int _ => "int"
  | float _ => "float"
  | str _ => "str"
  | torn _ => "str"
  | list _ => "list"
  | mapping _ => "dict"
  | tuple _ => "tuple"
  | bytes _ => "bytes"
  | date _ => "date"
  | datetime _ => "datetime"
  | set _ => "set"

def isNull : Value → Bool
  | null => true
  | _ => false

def isMapping : Value → Bool
  | mapping _ => true
  | _ => false

/-- Is this value the given text? -/
def isText (s : String) : Value → Bool
  | str t => t == s
  | _ => false

/-- Null, false, zero and whatever is empty count as absent. -/
def truthy : Value → Bool
  | null => false
  | bool b => b
  | int i => i != 0
  | float x => !x.isZero
  | str s => s != ""
  | torn _ => true
  | list xs => !xs.isEmpty
  | mapping es => !es.isEmpty
  | tuple xs => !xs.isEmpty
  | bytes bs => !bs.isEmpty
  | date _ => true
  | datetime _ => true
  | set xs => !xs.isEmpty

/-- The value itself if it counts as present, else the replacement. -/
def orElse (v replacement : Value) : Value := if v.truthy then v else replacement

mutual

/-- Is no text torn in a value, at whatever depth? -/
def isWhole : Value → Bool
  | torn _ => false
  | list xs => areWhole xs
  | mapping es => entriesAreWhole es
  | tuple xs => areWhole xs
  | set xs => areWhole xs
  | _ => true

def areWhole : List Value → Bool
  | [] => true
  | v :: vs => isWhole v && areWhole vs

def entriesAreWhole : List (Value × Value) → Bool
  | [] => true
  | (k, v) :: es => isWhole k && isWhole v && entriesAreWhole es

end

mutual

/-- How many levels of lists and mappings a value nests. -/
def depth : Value → Nat
  | list xs => depthOfItems xs + 1
  | mapping es => depthOfEntries es + 1
  | tuple xs => depthOfItems xs + 1
  | set xs => depthOfItems xs + 1
  | _ => 0

def depthOfItems : List Value → Nat
  | [] => 0
  | v :: vs => max (depth v) (depthOfItems vs)

def depthOfEntries : List (Value × Value) → Nat
  | [] => 0
  | (_, v) :: es => max (depth v) (depthOfEntries es)

end

/-! ## §3. Keys. -/

/-- Is the value one that is not made of others? -/
def isAtom : Value → Bool
  | list _ => false
  | mapping _ => false
  | tuple _ => false
  | set _ => false
  | _ => true

/-- Can the value be the key of an entry?  What can grow cannot, nor can a tuple that holds such
a thing.  No text gives a tuple in a tuple. -/
def hashable : Value → Bool
  | tuple xs => xs.all isAtom
  | v => v.isAtom

/-- The whole number that a key denotes, if it denotes one. -/
def keyInt? : Value → Option Int
  | bool b => some (if b then 1 else 0)
  | int i => some i
  | float x => x.toInt?
  | _ => none

/-- Do two values that are not made of others denote the same key?  Numbers do when they are equal
as numbers, whatever their kind; a truth value counts as zero or one. -/
def sameAtom : Value → Value → Bool
  | null, null => true
  | str s, str t => s == t
  | torn s, torn t => s == t
  | bytes a, bytes b => a == b
  | date a, date b => a == b
  | datetime a, datetime b => a.sameInstant b
  | float x, float y => x.sameValue y
  | v, w =>
    match v.keyInt?, w.keyInt? with
    | some i, some j => i == j
    | _, _ => false

/-- Do lists denote the same keys, one by one? -/
def sameAtoms : List Value → List Value → Bool
  | [], [] => true
  | v :: vs, w :: ws => v.sameAtom w && sameAtoms vs ws
  | _, _ => false

/-- Do two values denote the same key?  Tuples do when their items do. -/
def sameKey : Value → Value → Bool
  | tuple xs, tuple ys => sameAtoms xs ys
  | v, w => v.sameAtom w

end Value

/-! ## §4. Entries. -/

namespace Entries

/-- The value stored under a key. -/
def find? (key : Value) (es : Entries) : Option Value :=
  (List.find? (fun e => key.sameKey e.1) es).map (·.2)

/-- The value stored under a name. -/
def get? (name : String) (es : Entries) : Option Value := find? (.str name) es

def contains (name : String) (es : Entries) : Bool := (get? name es).isSome

/-- Stores a value under a key: in the place of the entry that has the key, else at the end. -/
def insert (key v : Value) : Entries → Entries
  | [] => [(key, v)]
  | (k, w) :: rest => if key.sameKey k then (k, v) :: rest else (k, w) :: insert key v rest

/-- Stores a value under a name. -/
def put (name : String) (v : Value) (es : Entries) : Entries := insert (.str name) v es

/-- Removes the entry under a name. -/
def erase (name : String) (es : Entries) : Entries :=
  List.filter (fun e => !e.1.isText name) es

/-- The mapping that arises when entries are stored one after the other. -/
def ofList (es : List (Value × Value)) : Entries := es.foldl (fun m e => insert e.1 e.2 m) []

end Entries

namespace Value

/-- The entries of a mapping; other values have none. -/
def entries : Value → Entries
  | mapping es => es
  | _ => []

/-- The value under a name, if this is a mapping that has it. -/
def get? (name : String) (v : Value) : Option Value := Entries.get? name v.entries

end Value

end ApiTools
