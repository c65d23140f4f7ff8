/-
  ApiTools.Yaml.Node
  ──────────────────
  **THE NODES OF A DOCUMENT.**

  A document is a tree of scalars, sequences and mappings, each with a tag.
  `Node.ofTokens` reads it from tokens.  An alias is the node that its anchor
  names; one that stands inside that very node is kept as a node of its own,
  since no finite tree can take its place.  A mapping in a node that has a name
  is numbered, by the tokens from its start on, so that it can be told from an
  equal one wherever aliases put it.
-/
import ApiTools.Yaml.Token
import ApiTools.Yaml.Tag

namespace ApiTools.Yaml

inductive Node where
  | scalar (tag : Tag) (text : String)
  | sequence (tag : Tag) (items : List Node)
  | mapping {p : Option Nat} (tag : Tag) (entries : List (Node × Node))
  /-- an alias of a node that it is a part of -/
  | loop
  deriving Inhabited

namespace Node

/-- The node where nothing is written. -/
def empty : Node := scalar .null ""

/-! ## §1. The state of reading. -/

/-- The handles of tags, with what they stand for. -/
abbrev Handles := List (String × String)

/-- The handles that need no directive. -/
def commonHandles : Handles := [("!", "!"), ("!!", Tag.commonStart)]

structure State where
  tokens : List Token
  /-- the nodes that have names; one that is still being read has a name only -/
  anchors : List (String × Option Node)

/-- A step of reading: what was read and the state behind it. -/
abbrev Parse (α : Type) := Except Problem (α × State)

namespace State

/-- The problem of a state in which nothing can follow. -/
def problem (s : State) : Problem :=
  match s.tokens with
  | t :: _ => t.problem
  | [] => .malformed

/-- The state behind the next token. -/
def drop (s : State) : State := { s with tokens := s.tokens.tail }

/-- The number of a mapping that starts here, if it stands in a node that has a name. -/
def number (s : State) : Option Nat :=
  if s.anchors.any fun e => e.2.isNone then some s.tokens.length else none

/-- Gives a name to a node, once. -/
def name (anchor : Option String) (n : Option Node) (s : State) : State :=
  match anchor with
  | none => s
  | some a => { s with anchors := (a, n) :: s.anchors.filter fun e => e.1 != a }

end State

/-! ## §2. Properties. -/

/-- What stands in front of a node. -/
structure Properties where
  anchor : Option String
  tag : Option String

/-- The tag of a handle and what follows it. -/
def tagName (handles : Handles) (handle : Option String) (rest : String) :
    Except Problem String :=
  match handle with
  | none => .ok rest
  | some h =>
    match List.find? (fun e => e.1 == h) handles with
    | some e => .ok (e.2 ++ rest)
    | none => .error .malformed

/-- Reads an anchor and a tag, in either order.  A name is given once only. -/
def properties (handles : Handles) (s : State) : Except Problem (Properties × State) := do
  let (anchor, tag, tokens) :=
    match s.tokens with
    | .anchor a :: .tag h r :: rest => (some a, some (h, r), rest)
    | .tag h r :: .anchor a :: rest => (some a, some (h, r), rest)
    | .anchor a :: rest => (some a, none, rest)
    | .tag h r :: rest => (none, some (h, r), rest)
    | rest => (none, none, rest)
  let tag ←
    match tag with
    | none => .ok none
    | some (h, r) => (tagName handles h r).map some
  .ok ({ anchor, tag }, { s with tokens })

/-- The tag of a node that is no scalar. -/
def Properties.collectionTag (p : Properties) (default : Tag) : Tag :=
  match p.tag with
  | none => default
  | some t => if t = "!" then default else Tag.ofName t

/-- The tag of a scalar: a plain one without a tag, and any whose tag says no more than that it
has one, go by their form. -/
def Properties.scalarTag (p : Properties) (dialect : Dialect) (text : String) (plain : Bool) :
    Tag :=
  match p.tag with
  | none => if plain then Tag.ofPlain dialect text else .str
  | some t => if t = "!" then Tag.ofPlain dialect text else Tag.ofName t

/-! ## §3. Reading nodes. -/

/-- Where a node stands. -/
inductive Place where
  /-- inside brackets -/
  | flow
  /-- in a block collection -/
  | block
  /-- as a key or value of a block mapping, where the items of a sequence need no indentation -/
  | member
  deriving DecidableEq

/-- May the node at a place be missing before the token? -/
abbrev Ender := Token → Bool

def endsItem : Ender
  | .blockEntry => true
  | .blockEnd => true
  | _ => false

def endsLooseItem : Ender
  | .blockEntry => true
  | .key => true
  | .value => true
  | .blockEnd => true
  | _ => false

def endsMember : Ender
  | .key => true
  | .value => true
  | .blockEnd => true
  | _ => false

def endsFlowKey : Ender
  | .value => true
  | .flowEntry => true
  | .flowMappingEnd => true
  | _ => false

def endsFlowValue : Ender
  | .flowEntry => true
  | .flowMappingEnd => true
  | _ => false

def endsPairKey : Ender
  | .value => true
  | .flowEntry => true
  | .flowSequenceEnd => true
  | _ => false

def endsPairValue : Ender
  | .flowEntry => true
  | .flowSequenceEnd => true
  | _ => false

/-- What all nodes of a document share. -/
structure Context where
  dialect : Dialect
  handles : Handles

/-- Goes behind the comma in front of an item of brackets; the first item has none. -/
def skipComma (isFirst : Bool) (s : State) : Except Problem State :=
  if isFirst then .ok s
  else
    match s.tokens with
    | .flowEntry :: rest => .ok { s with tokens := rest }
    | _ => .error s.problem

mutual

/-- A node that may be missing. -/
def optional (c : Context) (place : Place) (ends : Ender) : Nat → State → Parse Node
  | 0, s => .error s.problem
  | fuel + 1, s =>
    match s.tokens with
    | t :: _ => if ends t then .ok (empty, s) else node c place fuel s
    | [] => .error s.problem

/-- A node. -/
def node (c : Context) (place : Place) : Nat → State → Parse Node
  | 0, s => .error s.problem
  | fuel + 1, s =>
    match s.tokens with
    | .alias a :: rest =>
      match List.find? (fun e => e.1 == a) s.anchors with
      | some (_, some n) => .ok (n, { s with tokens := rest })
      | some (_, none) => .ok (loop, { s with tokens := rest })
      | none => .error .malformed
    | _ =>
      match properties c.handles s with
      | .error p => .error p
      | .ok (p, s) =>
        if p.anchor.any fun a => s.anchors.any fun e => e.1 == a then .error .malformed
        else
          match content c place p fuel (s.name p.anchor none) with
          | .error p => .error p
          | .ok (n, s) => .ok (n, s.name p.anchor (some n))

/-- A node behind its properties. -/
def content (c : Context) (place : Place) (p : Properties) : Nat → State → Parse Node
  | 0, s => .error s.problem
  | fuel + 1, s =>
    match s.tokens with
    | .scalar text plain :: rest =>
      .ok (scalar (p.scalarTag c.dialect text plain) text, { s with tokens := rest })
    | .flowSequenceStart :: rest =>
      (flowItems c true fuel [] { s with tokens := rest }).map fun (items, s) =>
        (sequence (p.collectionTag .seq) items, s)
    | .flowMappingStart :: rest =>
      let start := s.number
      (flowEntries c true fuel [] { s with tokens := rest }).map fun (entries, s) =>
        (mapping (p := start) (p.collectionTag .map) entries, s)
    | t :: rest =>
      match place, t with
      | .member, .blockEntry =>
        (looseItems c fuel [] s).map fun (items, s) => (sequence (p.collectionTag .seq) items, s)
      | .flow, _ => missing c p s
      | _, .blockSequenceStart =>
        (blockItems c fuel [] { s with tokens := rest }).map fun (items, s) =>
          (sequence (p.collectionTag .seq) items, s)
      | _, .blockMappingStart =>
        let start := s.number
        (blockEntries c fuel [] { s with tokens := rest }).map fun (entries, s) =>
          (mapping (p := start) (p.collectionTag .map) entries, s)
      | _, _ => missing c p s
    | [] => .error s.problem

/-- A node of which only the properties are written. -/
def missing (c : Context) (p : Properties) (s : State) : Parse Node :=
  if p.anchor.isSome || p.tag.isSome then
    .ok (scalar (p.scalarTag c.dialect "" (p.tag.isNone)) "", s)
  else .error s.problem

/-- The items of a block sequence, and its end. -/
def blockItems (c : Context) : Nat → List Node → State → Parse (List Node)
  | 0, _, s => .error s.problem
  | fuel + 1, acc, s =>
    match s.tokens with
    | .blockEntry :: rest =>
      match optional c .block endsItem fuel { s with tokens := rest } with
      | .error p => .error p
      | .ok (n, s) => blockItems c fuel (n :: acc) s
    | .blockEnd :: rest => .ok (acc.reverse, { s with tokens := rest })
    | _ => .error s.problem

/-- The items of a sequence that stands at the indentation of its mapping. -/
def looseItems (c : Context) : Nat → List Node → State → Parse (List Node)
  | 0, _, s => .error s.problem
  | fuel + 1, acc, s =>
    match s.tokens with
    | .blockEntry :: rest =>
      match optional c .block endsLooseItem fuel { s with tokens := rest } with
      | .error p => .error p
      | .ok (n, s) => looseItems c fuel (n :: acc) s
    | _ => .ok (acc.reverse, s)

/-- The entries of a block mapping, and its end. -/
def blockEntries (c : Context) : Nat → List (Node × Node) → State → Parse (List (Node × Node))
  | 0, _, s => .error s.problem
  | fuel + 1, acc, s =>
    match s.tokens with
    | .key :: rest =>
      match optional c .member endsMember fuel { s with tokens := rest } with
      | .error p => .error p
      | .ok (k, s) =>
        match blockValue c fuel s with
        | .error p => .error p
        | .ok (v, s) => blockEntries c fuel ((k, v) :: acc) s
    | .blockEnd :: rest => .ok (acc.reverse, { s with tokens := rest })
    | _ => .error s.problem

/-- The value of an entry of a block mapping. -/
def blockValue (c : Context) : Nat → State → Parse Node
  | 0, s => .error s.problem
  | fuel + 1, s =>
    match s.tokens with
    | .value :: rest => optional c .member endsMember fuel { s with tokens := rest }
    | _ => .ok (empty, s)

/-- The items of a sequence in brackets, and the closing one.  A key makes a mapping of one
entry. -/
def flowItems (c : Context) (isFirst : Bool) : Nat → List Node → State → Parse (List Node)
  | 0, _, s => .error s.problem
  | fuel + 1, acc, s =>
    match s.tokens with
    | .flowSequenceEnd :: rest => .ok (acc.reverse, { s with tokens := rest })
    | _ =>
      match skipComma isFirst s with
      | .error p => .error p
      | .ok s =>
        match s.tokens with
        | .flowSequenceEnd :: rest => .ok (acc.reverse, { s with tokens := rest })
        | .key :: rest =>
          let start := s.number
          match optional c .flow endsPairKey fuel { s with tokens := rest } with
          | .error p => .error p
          | .ok (k, s) =>
            match flowValue c endsPairValue fuel s with
            | .error p => .error p
            | .ok (v, s) => flowItems c false fuel (mapping (p := start) .map [(k, v)] :: acc) s
        | _ =>
          match node c .flow fuel s with
          | .error p => .error p
          | .ok (n, s) => flowItems c false fuel (n :: acc) s

/-- The entries of a mapping in brackets, and the closing one. -/
def flowEntries (c : Context) (isFirst : Bool) : Nat → List (Node × Node) → State →
    Parse (List (Node × Node))
  | 0, _, s => .error s.problem
  | fuel + 1, acc, s =>
    match s.tokens with
    | .flowMappingEnd :: rest => .ok (acc.reverse, { s with tokens := rest })
    | _ =>
      match skipComma isFirst s with
      | .error p => .error p
      | .ok s =>
        match s.tokens with
        | .flowMappingEnd :: rest => .ok (acc.reverse, { s with tokens := rest })
        | .key :: rest =>
          match optional c .flow endsFlowKey fuel { s with tokens := rest } with
          | .error p => .error p
          | .ok (k, s) =>
            match flowValue c endsFlowValue fuel s with
            | .error p => .error p
            | .ok (v, s) => flowEntries c false fuel ((k, v) :: acc) s
        | _ =>
          match node c .flow fuel s with
          | .error p => .error p
          | .ok (k, s) => flowEntries c false fuel ((k, empty) :: acc) s

/-- The value of an entry in brackets. -/
def flowValue (c : Context) (ends : Ender) : Nat → State → Parse Node
  | 0, s => .error s.problem
  | fuel + 1, s =>
    match s.tokens with
    | .value :: rest => optional c .flow ends fuel { s with tokens := rest }
    | _ => .ok (empty, s)

end

/-! ## §4. Documents. -/

/-- What the directives in front of a document state. -/
structure Directives where
  version : Bool
  handles : Handles

/-- Reads directives.  There is one version at most, of major number one, and a handle is defined
once. -/
def directives : Directives → List Token → Except Problem (Directives × List Token)
  | d, .versionDirective major :: rest =>
    if d.version || major != 1 then .error .malformed
    else directives { d with version := true } rest
  | d, .tagDirective handle expansion :: rest =>
    if d.handles.any fun e => e.1 == handle then .error .malformed
    else directives { d with handles := (handle, expansion) :: d.handles } rest
  | d, .otherDirective :: rest => directives d rest
  | d, tokens => .ok (d, tokens)

/-- Does nothing stand where the content of a document should? -/
def endsDocument : Ender
  | .versionDirective _ => true
  | .tagDirective _ _ => true
  | .otherDirective => true
  | .documentStart => true
  | .documentEnd => true
  | .streamEnd => true
  | _ => false

/-- Behind the marks of the end of a document. -/
def dropEnds : List Token → List Token
  | .documentEnd :: rest => dropEnds rest
  | tokens => tokens

/-- Reads the node of a document, behind which the stream has to end. -/
def document (c : Context) (mayBeMissing : Bool) (tokens : List Token) : Except Problem Node :=
  let ends : Ender := fun t => mayBeMissing && endsDocument t
  match optional c .block ends (4 * tokens.length + 4) ⟨tokens, []⟩ with
  | .error p => .error p
  | .ok (n, s) =>
    match dropEnds s.tokens with
    | .streamEnd :: _ => .ok n
    | t :: _ => .error t.problem
    | [] => .error .malformed

/-- Is a token one that comes in front of the mark of the start of a document, or that mark? -/
def startsExplicitly : Token → Bool
  | .versionDirective _ => true
  | .tagDirective _ _ => true
  | .otherDirective => true
  | .documentStart => true
  | _ => false

/-- Reads the one document of a stream, if there is one. -/
def ofTokens (dialect : Dialect) (tokens : List Token) : Except Problem (Option Node) :=
  match tokens with
  | .streamEnd :: _ => .ok none
  | t :: _ =>
    if startsExplicitly t then
      match directives ⟨false, []⟩ tokens with
      | .error p => .error p
      | .ok (d, .documentStart :: rest) =>
        (document ⟨dialect, d.handles ++ commonHandles⟩ true rest).map some
      | .ok (_, t :: _) => .error t.problem
      | .ok (_, []) => .error .malformed
    else (document ⟨dialect, commonHandles⟩ false tokens).map some
  | [] => .error .malformed

end Node

end ApiTools.Yaml
