/-
  ApiTools.Yaml.Merge
  ───────────────────
  **MAPPINGS THAT TAKE OVER THE ENTRIES OF OTHERS.**

  Under a merge key stands a mapping, or a sequence of mappings, whose entries
  the mapping takes over.  They come in front of its own entries, so its own
  win; of a sequence, the first mapping wins.  `Merged` is a node of which all
  this has been carried out.
-/
import ApiTools.Yaml.Node

namespace ApiTools.Yaml

/-- A node without merge keys. -/
inductive Merged where
  | scalar (tag : Tag) (text : String)
  | sequence (tag : Tag) (items : List Merged)
  /-- a mapping with the entries that it takes over and its own -/
  | mapping {p : Option Nat} (tag : Tag) (taken own : List (Merged × Merged))
  /-- a mapping that takes over something that is no mapping -/
  | unmergeable
  | loop

namespace Merged

def tag : Merged → Tag
  | scalar t _ => t
  | sequence t _ => t
  | mapping t _ _ => t
  | unmergeable => .other
  | loop => .other

/-- The same node with another tag. -/
def withTag (t : Tag) : Merged → Merged
  | scalar _ text => scalar t text
  | sequence _ items => sequence t items
  | mapping (p := p) _ taken own => mapping (p := p) t taken own
  | m => m

/-- The entries that a mapping gives to one that takes it over. -/
def entries? : Merged → Option (List (Merged × Merged))
  | mapping _ taken own => some (taken ++ own)
  | _ => none

/-- The entries that the value of a merge key gives. -/
def offered? : Merged → Option (List (Merged × Merged))
  | mapping _ taken own => some (taken ++ own)
  | sequence _ items => (items.mapM entries?).map fun parts => parts.reverse.flatten
  | _ => none

/-- Entries that are taken over, and a mapping's own. -/
structure Split where
  taken : List (Merged × Merged)
  own : List (Merged × Merged)

/-- Sorts the entries of a mapping into those that merge keys give and its own. -/
def split : List (Merged × Merged) → Option Split
  | [] => some ⟨[], []⟩
  | (k, v) :: rest => do
    let others ← split rest
    if k.tag = .merge then
      let offered ← v.offered?
      some { others with taken := offered ++ others.taken }
    else
      let k := if k.tag = .value then k.withTag .str else k
      some { others with own := (k, v) :: others.own }

/-- The mapping of entries; only what is to become a mapping or a set has its merges carried
out. -/
def ofEntries (p : Option Nat) (tag : Tag) (entries : List (Merged × Merged)) : Merged :=
  if tag = .map ∨ tag = .set then
    match split entries with
    | some s => mapping (p := p) tag s.taken s.own
    | none => unmergeable
  else mapping (p := p) tag [] entries

mutual

/-- Carries out the merges of a node. -/
def ofNode : Node → Merged
  | .scalar t text => scalar t text
  | .sequence t items =>
    sequence t (if t = .omap ∨ t = .pairs then ofPairs items else ofItems items)
  | .mapping (p := p) t entries => ofEntries p t (ofMembers entries)
  | .loop => loop

def ofItems : List Node → List Merged
  | [] => []
  | n :: ns => ofNode n :: ofItems ns

/-- The items of a list of pairs: their keys are no merge keys. -/
def ofPairs : List Node → List Merged
  | [] => []
  | .mapping (p := p) t entries :: ns => mapping (p := p) t [] (ofMembers entries) :: ofPairs ns
  | n :: ns => ofNode n :: ofPairs ns

def ofMembers : List (Node × Node) → List (Merged × Merged)
  | [] => []
  | (k, v) :: es => (ofNode k, ofNode v) :: ofMembers es

end

end Merged

end ApiTools.Yaml
