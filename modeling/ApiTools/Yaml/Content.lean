/-
  ApiTools.Yaml.Content
  ─────────────────────
  **THE VALUES OF NODES.**

  A node denotes a value as its tag says.  Values are made from the outside
  in, level by level: a collection exists before its items do.  So where a
  document has several faults, the one on the outermost level counts, and on
  one level the first.
-/
import ApiTools.Yaml.Merge
import ApiTools.Number.Whole
import ApiTools.Text.Base64
import ApiTools.Text.Casing

namespace ApiTools.Yaml

/-! ## §1. Scalars. -/

namespace Scalar

/-- A fault as a problem. -/
def refusing {α : Type} (x : Except Fault α) : Except Problem α :=
  match x with
  | .ok a => .ok a
  | .error f => .error (.refused f)

/-- Without the underscores between digits. -/
def withoutBars (cs : List Char) : List Char := cs.filter (· != '_')

/-- The numbers between colons as one number of base sixty. -/
def sexagesimal (ns : List Int) : Int := ns.foldl (fun n d => n * 60 + d) 0

/-- The digits of a whole number, with what tells their base. -/
def wholeBody (dialect : Dialect) (body : List Char) : Except Fault Int :=
  match body with
  | [] => if dialect = .v11 then .error .emptyText else Number.whole 10 []
  | ['0'] => .ok 0
  | '0' :: 'b' :: rest => Number.whole 2 rest
  | '0' :: 'x' :: rest => Number.whole 16 rest
  | '0' :: rest =>
    if dialect = .v11 then Number.whole 8 body
    else
      match rest with
      | 'o' :: digits => Number.whole 8 digits
      | _ => Number.whole 10 body
  | _ =>
    if dialect = .v11 && body.contains ':' then
      ((Tag.colonParts body).mapM (Number.whole 10)).map sexagesimal
    else Number.whole 10 body

/-- A whole number. -/
def int (dialect : Dialect) (text : String) : Except Fault Int :=
  let cs := withoutBars text.toList
  if cs.isEmpty then .error .emptyText
  else
    let (minus, body) := Number.splitSign cs
    (wholeBody dialect body).map fun n => if minus then -n else n

/-- The decimals between colons, the last first, as one number of base sixty. -/
def sixtieths (base : Nat) (sum : Double) : List Double → Double
  | [] => sum
  | x :: xs => sixtieths (base * 60) (sum.add (x.mul (Double.ofInt base))) xs

/-- The digits of a decimal, or what stands for infinity or no number. -/
def decimalBody (dialect : Dialect) (body : List Char) : Except Fault Double :=
  match String.ofList body with
  | ".inf" => .ok (Double.infinity false)
  | ".nan" => .ok Double.nan
  | _ =>
    if dialect = .v11 && body.contains ':' then
      ((Tag.colonParts body).mapM Number.decimal).map fun xs =>
        sixtieths 1 (Double.zero false) xs.reverse
    else Number.decimal body

/-- A decimal. -/
def float (dialect : Dialect) (text : String) : Except Fault Double :=
  let cs := Text.lower (withoutBars text.toList)
  if cs.isEmpty then .error .emptyText
  else
    let (minus, body) := Number.splitSign cs
    (decimalBody dialect body).map fun x => if minus then x.negate else x

/-- A truth value. -/
def bool (text : String) : Except Fault Bool :=
  let word := Text.toLower text
  if ["yes", "true", "on"].contains word then .ok true
  else if ["no", "false", "off"].contains word then .ok false
  else .error (.missingKey (.str word))

/-- A day or a time. -/
def timestamp (dialect : Dialect) (text : String) : Except Problem Value :=
  match Timestamp.read? (Tag.withoutFinalBreak text.toList) with
  | some t =>
    match t.value with
    | .ok v => .ok v
    | .error p => .error (.refused (.refused (.calendar p)))
  | none =>
    if dialect = .v11 then .error (.refused (.noFeature "NoneType" "groupdict"))
    else .error .malformed

/-- Octets that are written in sixty-four characters. -/
def binary (text : String) : Except Problem Value :=
  let cs := text.toList
  if cs.any fun c => 128 ≤ c.toNat then .error .malformed
  else
    match Text.Base64.decode cs with
    | some octets => .ok (.bytes octets)
    | none => .error .malformed

/-- The value of a scalar with a tag that scalars have. -/
def value (dialect : Dialect) (tag : Tag) (text : String) : Except Problem Value :=
  match tag with
  | .null => .ok .null
  | .str => .ok (.str text)
  | .bool => (refusing (bool text)).map .bool
  | .int => (refusing (int dialect text)).map .int
  | .float => (refusing (float dialect text)).map .float
  | .timestamp => timestamp dialect text
  | .binary => binary text
  | _ => .error .malformed

end Scalar

/-! ## §2. Values with their faults. -/

/-- A value, and what went wrong while it was made: the first problem of each level, the level of
the node itself first. -/
structure Made where
  value : Value
  problems : List (Option Problem)

namespace Made

def ok (v : Value) : Made := ⟨v, []⟩

/-- A node that fails on its own level. -/
def failed (p : Problem) : Made := ⟨.null, [some p]⟩

/-- A collection that turns out to be none when its items are looked for. -/
def failedLater (v : Value) : Made := ⟨v, [none, some .malformed]⟩

def ofExcept (x : Except Problem Value) : Made :=
  match x with
  | .ok v => ok v
  | .error p => failed p

/-- The problems of two nodes, one made before the other. -/
def both : List (Option Problem) → List (Option Problem) → List (Option Problem)
  | [], qs => qs
  | ps, [] => ps
  | p :: ps, q :: qs => (p <|> q) :: both ps qs

/-- The problems of nodes made one after the other. -/
def all (ms : List Made) : List (Option Problem) := (ms.map (·.problems)).foldl both []

/-- One level further in. -/
def deeper (ps : List (Option Problem)) : List (Option Problem) :=
  if ps.isEmpty then [] else none :: ps

/-- The first problem, from the outermost level in. -/
def firstProblem? (ps : List (Option Problem)) : Option Problem := ps.firstM id

/-- All problems on one level. -/
def flatten (ps : List (Option Problem)) : List (Option Problem) :=
  match firstProblem? ps with
  | some p => [some p]
  | none => []

end Made

/-! ## §3. Collections. -/

/-- A key: in version 1.2, a list that is a key has its items at once and is a tuple. -/
def keyOf (dialect : Dialect) (m : Made) : Made :=
  if dialect = .v11 then m
  else
    match m.value with
    | .list xs => ⟨.tuple xs, Made.flatten m.problems⟩
    | _ => ⟨m.value, Made.flatten m.problems⟩

/-- The problems of an entry: its key, whether that can be a key, its value.  What a tuple holds is
looked at last. -/
def entryProblems (k v : Made) : List (Option Problem) :=
  if k.value.hashable then Made.both k.problems v.problems
  else
    match k.value with
    | .tuple _ =>
      let unfit := Problem.refused (.misuse (.noKey k.value.kindName))
      Made.both (Made.both k.problems v.problems) [some unfit]
    | _ => Made.both (Made.both k.problems [some .malformed]) v.problems

/-- Problems of keys that come twice where that is refused; `seen` are the keys before. -/
def repetitions (seen : Entries) : List (Made × Made) → List (Option Problem)
  | [] => []
  | (k, _) :: rest =>
    if (Entries.find? k.value seen).isSome then [some .malformed]
    else repetitions ((k.value, .null) :: seen) rest

/-- The entries of a mapping that is made of others' entries and its own. -/
def madeEntries (dialect : Dialect) (taken own : List (Made × Made)) :
    Entries × List (Option Problem) :=
  let ready := (taken ++ own).map fun e => (keyOf dialect e.1, e.2)
  let problems := (ready.map fun e => entryProblems e.1 e.2).foldl Made.both []
  let twice :=
    if dialect = .v12 && taken.isEmpty then
      repetitions [] (ready.filter fun e => e.1.value.hashable)
    else []
  (Entries.ofList (ready.map fun e => (e.1.value, e.2.value)), Made.both problems twice)

/-- A mapping with one entry as a pair. -/
def madePair (taken own : List (Made × Made)) : Made :=
  match taken ++ own with
  | [(k, v)] => ⟨.tuple [k.value, v.value], Made.both k.problems v.problems⟩
  | _ => Made.failed .malformed

/-- The value of a mapping with a tag. -/
def madeMapping (dialect : Dialect) (p : Option Nat) (tag : Tag) (taken own : List (Made × Made)) :
    Made :=
  let (entries, problems) := madeEntries dialect taken own
  match tag with
  | .map => ⟨.mapping (p := p) entries, Made.deeper problems⟩
  | .set => ⟨.set (entries.map (·.1)), Made.deeper problems⟩
  | .seq => Made.failedLater (.list [])
  | .omap => Made.failedLater (.list [])
  | .pairs => Made.failedLater (.list [])
  | _ => Made.failed .malformed

/-- The value of a sequence with a tag. -/
def madeSequence (tag : Tag) (items pairs : List Made) : Made :=
  match tag with
  | .seq => ⟨.list (items.map (·.value)), Made.deeper (Made.all items)⟩
  | .omap => ⟨.list (pairs.map (·.value)), Made.deeper (Made.all pairs)⟩
  | .pairs => ⟨.list (pairs.map (·.value)), Made.deeper (Made.all pairs)⟩
  | .map => Made.failedLater (.mapping (p := none) [])
  | .set => Made.failedLater (.set [])
  | _ => Made.failed .malformed

mutual

/-- Makes the value of a node. -/
def make (dialect : Dialect) : Merged → Made
  | .scalar tag text =>
    match tag with
    | .map => Made.failedLater (.mapping (p := none) [])
    | .set => Made.failedLater (.set [])
    | .seq => Made.failedLater (.list [])
    | .omap => Made.failedLater (.list [])
    | .pairs => Made.failedLater (.list [])
    | _ => Made.ofExcept (Scalar.value dialect tag text)
  | .sequence tag items => madeSequence tag (makeItems dialect items) (makePairs dialect items)
  | .mapping (p := p) tag taken own =>
    match tag, standIn? dialect tag own with
    | .map, _ => madeMapping dialect p tag (makeMembers dialect taken) (makeMembers dialect own)
    | _, some m => m
    | _, none => madeMapping dialect p tag (makeMembers dialect taken) (makeMembers dialect own)
  | .unmergeable => Made.failedLater (.mapping (p := none) [])
  | .loop => Made.failed (.refused .endless)

/-- The items of a sequence. -/
def makeItems (dialect : Dialect) : List Merged → List Made
  | [] => []
  | n :: ns => make dialect n :: makeItems dialect ns

/-- The items of a sequence as pairs. -/
def makePairs (dialect : Dialect) : List Merged → List Made
  | [] => []
  | .mapping _ taken own :: ns =>
    madePair (makeMembers dialect taken) (makeMembers dialect own) :: makePairs dialect ns
  | _ :: ns => Made.failed .malformed :: makePairs dialect ns

def makeMembers (dialect : Dialect) : List (Merged × Merged) → List (Made × Made)
  | [] => []
  | (k, v) :: es => (make dialect k, make dialect v) :: makeMembers dialect es

/-- A scalar in the guise of a mapping: the value of its value key, if the tag is one of a
scalar. -/
def standIn? (dialect : Dialect) (tag : Tag) : List (Merged × Merged) → Option Made
  | [] => none
  | (k, .scalar _ text) :: rest =>
    if k.tag = .value ∧ tag ≠ .set then some (Made.ofExcept (Scalar.value dialect tag text))
    else standIn? dialect tag rest
  | _ :: rest => standIn? dialect tag rest

end

/-- The value of a node. -/
def Node.value (dialect : Dialect) (n : Node) : Except Problem Value :=
  let made := make dialect (Merged.ofNode n)
  match Made.firstProblem? made.problems with
  | some p => .error p
  | none => .ok made.value

end ApiTools.Yaml
