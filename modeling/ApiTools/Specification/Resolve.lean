/-
  ApiTools.Specification.Resolve
  ──────────────────────────────
  **RESOLVING REFERENCES.**

  A mapping with a reference becomes the object that the reference leads to,
  in which references are resolved in turn.  A reference that leads to an
  object which is being resolved already becomes the placeholder that is given,
  so resolving ends.  Objects are always looked up in documents as they were
  written.

  How a library puts what references lead to in their places is a parameter of
  resolving, a `Placing`.  `inPlaces` is the one of the library that is used:
  of what stands beside a reference in its mapping only other references count.
-/
import ApiTools.Specification.Reference
import ApiTools.Yaml.Reader
import ApiTools.Json.Octets
import ApiTools.Value.Text
import ApiTools.Number.Reader

namespace ApiTools.Specification

/-! ## §1. Referenced documents. -/

mutual

/-- A mapping with every key as a text, and so the mappings that are its values. -/
def withTextKeys : Value → Value
  | .mapping (p := p) es => .mapping (p := p) (Entries.ofList (entriesWithTextKeys es))
  | v => v

def entriesWithTextKeys : List (Value × Value) → List (Value × Value)
  | [] => []
  | (k, v) :: es => (.str k.text, withTextKeys v) :: entriesWithTextKeys es

end

/-- The octets of a UTF-8 text without the mark that may stand in front. -/
def withoutMark : List UInt8 → List UInt8
  | 0xEF :: 0xBB :: 0xBF :: rest => rest
  | octets => octets

/-- Reads a text as YAML; `none` if it is none. -/
def asYaml? (text : String) : Except Fault (Option Value) :=
  match Yaml.read .v12 text with
  | .ok v => .ok (some v)
  | .error .malformed => .ok none
  | .error (.refused f) => .error f

/-- Reads a text as JSON; `none` if it is none. -/
def asJson? (nesting : Nat) (text : String) : Except Fault (Option Value) :=
  match Json.read nesting text with
  | .ok v => .ok (some v)
  | .error .tooDeep => .error .tooDeep
  | .error _ => .ok none

/-- Is a file one of JSON, by its name? -/
def isJsonFile (path : String) : Bool := Text.endsWith ".json" path || Text.endsWith ".js" path

/-- Reads a text in the format that is told, else in the other one. -/
def readEither (nesting : Nat) (json : Bool) (text : String) : Except Fault Value := do
  let found ←
    if json then do
      match ← asJson? nesting text with
      | some v => .ok (some v)
      | none => asYaml? text
    else do
      match ← asYaml? text with
      | some v => .ok (some v)
      | none => asJson? nesting text
  match found with
  | some v => .ok v
  | none => .error .unknownFormat

/-- How the text of a referenced file is read, given whether its name is one of JSON. -/
abbrev Parser := Bool → String → Except Fault Value

/-- The document that octets hold.  It has to be a mapping. -/
def documentOf (parse : Parser) (json : Bool) (octets : List UInt8) : Except Fault Value :=
  if octets.isEmpty then .error (.noFeature "NoneType" "lower")
  else do
    let text ←
      match Text.decodeFile (withoutMark octets) with
      | .ok s => .ok s
      | .error u => .error (.undecodable u)
    let v ← parse json text
    if v.isMapping then .ok (withTextKeys v) else .error .notAMapping

/-- Reads a referenced document. -/
def readResource (parse : Parser) (files : Files) (path : String) : Except Fault Value :=
  match files.read path with
  | .ok octets => documentOf parse (isJsonFile path) octets
  | .error (.notOpened .missing _) => .error .unresolved
  | .error f => .error f

/-! ## §2. Objects in documents. -/

/-- A thing of a list by its number. -/
def itemAt {α : Type} (i : Int) (xs : List α) : Except Fault α :=
  if i < 0 then .error .unresolved
  else
    match xs[i.toNat]? with
    | some x => .ok x
    | none => .error .unresolved

/-- The part of a value that a step leads to: by name in a mapping, by number in a list, a text or
octets. -/
def stepInto (step : String) (v : Value) : Except Fault Value :=
  let numbered {α : Type} (xs : List α) : Except Fault α :=
    match Number.readInt 10 step.toList with
    | .ok i => itemAt i xs
    | .error _ => .error .unresolved
  match v with
  | .mapping es =>
    match Entries.get? step es with
    | some w => .ok w
    | none => .error .unresolved
  | .list xs => numbered xs
  | .tuple xs => numbered xs
  | .str s => (numbered s.toList).map fun c => .str (String.ofList [c])
  | .bytes bs => (numbered bs).map fun b => .int b.toNat
  | _ => .error .unresolved

/-- The object at the end of a path.  What counts as absent is null. -/
def objectAt : List String → Value → Except Fault Value
  | [], v => .ok (v.orElse .null)
  | step :: steps, v => do
    let w ← stepInto step v
    objectAt steps w

/-- The object that steps lead to; without steps it is the whole document. -/
def object (steps : List String) (document : Value) : Except Fault Value :=
  if steps.isEmpty then .ok document else objectAt steps document

/-! ## §3. References in a value. -/

mutual

/-- The references in a value, at whatever depth, also those beside other references. -/
def references : Value → List Value
  | .mapping es => entryReferences es
  | .list xs => itemReferences xs
  | .tuple xs => itemReferences xs
  | _ => []

def entryReferences : List (Value × Value) → List Value
  | [] => []
  | (k, v) :: es =>
    (if k.isText "$ref" then [v] else []) ++ references v ++ entryReferences es

def itemReferences : List Value → List Value
  | [] => []
  | v :: vs => references v ++ itemReferences vs

end

/-- Is a value free of references? -/
def isFree (v : Value) : Bool := (references v).isEmpty

/-! ## §4. What references lead to, in their places. -/

/-- What a value becomes, and entries that are left over for the mapping around it. -/
structure Expanded where
  value : Value
  excess : Entries

/-- What the entries of a mapping become: what the reference among them leads to, if there is one,
the others, and what is left over of these. -/
structure ExpandedEntries where
  found : Option Value
  entries : Entries
  excess : Entries

/-- Entries with others stored into them, one after the other. -/
def storeAll (more es : Entries) : Entries := more.foldl (fun es e => Entries.insert e.1 e.2 es) es

/-- What a mapping becomes.  With a reference in it, it becomes what this leads to, and only what
other references lead to is stored there, or is left over if that is empty. -/
def ExpandedEntries.whole (p : Option Nat) (x : ExpandedEntries) : Except Fault Expanded :=
  match x.found with
  | none => .ok ⟨.mapping (p := p) (storeAll x.excess x.entries), []⟩
  | some v =>
    let more := x.entries ++ x.excess
    if more.isEmpty || !v.truthy then .ok ⟨v, more⟩
    else
      match v with
      | .mapping (p := q) es => .ok ⟨.mapping (p := q) (storeAll more es), []⟩
      | v => .error (.misuse (.noStoring v.kindName))

/-- What a value becomes that stands in nothing else. -/
def Expanded.whole (x : Expanded) : Value :=
  match x.value with
  | .mapping (p := p) es => .mapping (p := p) (storeAll x.excess es)
  | v => v

/-- How what references lead to is put in their places: what a value becomes, given what a reference
in it leads to. -/
abbrev Placing := (Value → Except Fault Value) → Value → Except Fault Value

section Expand

variable (follow : Value → Except Fault Value)

mutual

/-- A value with what its references lead to, by `follow`, in their places; `only` says whether
entries without references are left out. -/
def expand (only : Bool) : Value → Except Fault Expanded
  | .mapping (p := p) es => do
    let x ← expandEntries (only || Entries.contains "$ref" es) es
    x.whole p
  | .list xs => do
    let done ← expandItems only xs
    .ok ⟨.list (done.map (·.value)), done.flatMap (·.excess)⟩
  | .tuple xs =>
    if xs.all isFree then .ok ⟨.tuple xs, []⟩ else .error (.misuse (.noStoring "tuple"))
  | v => .ok ⟨v, []⟩

/-- The entries of a mapping, one after the other. -/
def expandEntries (only : Bool) : List (Value × Value) → Except Fault ExpandedEntries
  | [] => .ok ⟨none, [], []⟩
  | (k, v) :: es =>
    if k.isText "$ref" then do
      let found ← follow v
      let others ← expandEntries only es
      .ok { others with found := some found }
    else if only && isFree v then expandEntries only es
    else do
      let x ← expand only v
      let others ← expandEntries only es
      .ok ⟨others.found, (k, x.value) :: others.entries, x.excess ++ others.excess⟩

/-- The items of a list, one after the other. -/
def expandItems (only : Bool) : List Value → Except Fault (List Expanded)
  | [] => .ok []
  | v :: vs => do
    let x ← expand only v
    let others ← expandItems only vs
    .ok (x :: others)

end

end Expand

/-- Every mapping with a reference gives way to what this leads to. -/
def inPlaces : Placing := fun follow v => do
  let x ← expand follow false v
  .ok x.whole

/-! ## §5. Resolving. -/

/-- A document and the files around it. -/
structure Sources where
  parse : Parser
  files : Files
  main : Resource
  document : Value

/-- The document of a resource: the main one as it is, any other from its file. -/
def Sources.fetch (s : Sources) (r : Resource) : Except Fault Value :=
  if r = s.main then .ok s.document else readResource s.parse s.files r.path

/-- The URL of a reference.  It has to be a text. -/
def linkOf (base : Link) (reference : Value) : Except Fault Link :=
  match reference with
  | .str s =>
    match Link.parse? s with
    | some l =>
      let l := Link.inDocument base l
      if l.scheme = "file" then .ok l
      else .error (.refused (.unknownScheme l.scheme l.text))
    | none => .error .unresolved
  | v => if v.truthy then .error .unresolved else .error (.misuse (.noText "bytes"))

/-- What a reference leads to that stands in the document of a URL; `above` are the targets that
are being resolved.  A reference to one of these becomes the placeholder, any other one the object
at its target, resolved by `resolved`. -/
def follow (s : Sources) (placeholder : Value)
    (resolved : Link → List Target → Value → Except Fault Value) (base : Link)
    (above : List Target) (reference : Value) : Except Fault Value := do
  let link ← linkOf base reference
  let target := link.target
  if above.contains target then .ok placeholder
  else
    let document ← s.fetch target.resource
    let found ← object target.steps document
    resolved link (target :: above) found

/-- Resolves the references of a value that stands in the document of a URL.  Every level adds a new
target, so as much fuel as there are targets suffices. -/
def resolveIn (place : Placing) (s : Sources) (placeholder : Value) :
    Nat → Link → List Target → Value → Except Fault Value
  | 0, _, _, _ => .error .endless
  | fuel + 1, base, above, v =>
    place (follow s placeholder (resolveIn place s placeholder fuel) base above) v

/-- The documents that an item holds, whatever its name says. -/
def Sources.documentsIn (s : Sources) : FileItem → List Value
  | .file octets => [true, false].filterMap fun json => (documentOf s.parse json octets).toOption
  | .folder => []

/-- The main document and all others. -/
def Sources.documents (s : Sources) : List Value :=
  s.document :: s.files.items.flatMap fun e => s.documentsIn e.2

/-- The URLs that are written in documents. -/
def Sources.links (s : Sources) : List Link :=
  s.documents.flatMap fun d => (references d).filterMap fun r =>
    match r with
    | .str t => Link.parse? t
    | _ => none

/-- The paths of all files, and those that are written. -/
def Sources.paths (s : Sources) : List String :=
  (s.files.items.map fun e => Link.fromRoot e.1) ++ s.links.map (·.path)

/-- The number of all combinations of a document and the steps of a URL, where a document is the
main one or told by the host of a URL and a path: there are no more targets. -/
def Sources.targetCount (s : Sources) : Nat :=
  let written := s.links.length
  (1 + written * s.paths.length) * written

/-- Resolves every reference of a document that stands in a file. -/
def resolve (place : Placing) (parse : Parser) (placeholder : Value) (files : Files)
    (file : String) (document : Value) : Except Fault Value :=
  let base := Link.ofFile files file
  let s : Sources := ⟨parse, files, base.resource, document⟩
  resolveIn place s placeholder (s.targetCount + 1) base [] document

end ApiTools.Specification
