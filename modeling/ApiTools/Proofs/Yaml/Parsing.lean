/-
  ApiTools.Proofs.Yaml.Parsing
  ────────────────────────────
  **NODES ARE REFUSED FOR THEIR TOKENS ONLY.**

  Reading nodes takes tokens off the front, and fails at a token that may not
  stand where it does.  Such a failure is malformed unless the token is broken
  by a refusal of the lexer (`broken_of_ofTokens`).  The readers of nodes,
  items and entries call each other with less fuel, so one induction on the
  fuel settles them all (`settled_readers`).
-/
import ApiTools.Yaml.Node
import ApiTools.Proofs.Yaml.Lexing

namespace ApiTools.Yaml.Node

/-! ## §1. Tokens that are left. -/

/-- A refusal is that of a token among the given ones. -/
def Reported (ts : List Token) (f : Fault) : Prop := Token.broken (.refused f) ∈ ts

/-- A reader leaves tokens of the given ones, and refuses what one of them reports. -/
def Parses {α : Type} (ts : List Token) (r : Parse α) : Prop :=
  Settles (Reported ts) (fun a => a.2.tokens ⊆ ts) r

variable {α : Type} {ts : List Token} {s : State}

theorem settles_tokenProblem {P : α → Prop} {t : Token} (mem : t ∈ ts) :
    Settles (Reported ts) P (.error t.problem) := by
  cases t with
  | broken p =>
      cases p with
      | malformed => exact .malformed
      | refused f => exact mem
  | _ => exact .malformed

theorem settles_problem {P : α → Prop} (left : s.tokens ⊆ ts) :
    Settles (Reported ts) P (.error s.problem) := by
  unfold State.problem
  split
  next same =>
    rw [same] at left
    exact settles_tokenProblem (left List.mem_cons_self)
  next => exact .malformed

theorem tail_subset {t : Token} {rest : List Token} (left : s.tokens ⊆ ts)
    (same : s.tokens = t :: rest) : rest ⊆ ts := by
  rw [same] at left
  exact List.subset_of_cons_subset left

/-- Naming a node takes no tokens. -/
theorem tokens_name (anchor : Option String) (n : Option Node) (s : State) :
    (s.name anchor n).tokens = s.tokens := by
  unfold State.name
  split <;> rfl

theorem settles_tagName (handles : Handles) (handle : Option String) (rest : String) :
    Settles (Reported ts) (fun _ => True) (tagName handles handle rest) := by
  unfold tagName
  split
  · trivial
  · split <;> trivial

/-- The tokens behind the properties, whatever these are. -/
theorem parses_named (handles : Handles) (anchor : Option String)
    (tag : Option (Option String × String)) {rest : List Token} (behind : rest ⊆ ts) :
    Settles (Reported ts) (fun a => a.2.tokens ⊆ ts) (do
      let tag ←
        match tag with
        | none => .ok none
        | some (h, r) => (tagName handles h r).map some
      .ok (({ anchor, tag } : Properties), { s with tokens := rest })) := by
  cases tag with
  | none => exact behind
  | some tag =>
      exact ((settles_tagName handles tag.1 tag.2).map (Q := fun _ => True) fun _ _ =>
        trivial).bind fun _ _ => behind

theorem parses_properties (handles : Handles) (left : s.tokens ⊆ ts) :
    Settles (Reported ts) (fun a => a.2.tokens ⊆ ts) (properties handles s) := by
  unfold properties
  split
  next anchor tag tokens parts =>
    refine parses_named handles anchor tag ?_
    have sublist : tokens.Sublist s.tokens := by
      split at parts
      all_goals
        next same =>
          obtain ⟨-, -, rfl⟩ := parts
          simp [same]
    exact List.Subset.trans sublist.subset left

theorem settles_skipComma (isFirst : Bool) (left : s.tokens ⊆ ts) :
    Settles (Reported ts) (fun s => s.tokens ⊆ ts) (skipComma isFirst s) := by
  unfold skipComma
  split
  · exact left
  · split
    next same => exact tail_subset left same
    next => exact settles_problem left

/-! ## §2. Readers. -/

/-- The readers with a certain fuel leave tokens of those there are. -/
structure SettledReaders (c : Context) (ts : List Token) (fuel : Nat) : Prop where
  optional : ∀ {place ends s}, s.tokens ⊆ ts → Parses ts (optional c place ends fuel s)
  node : ∀ {place s}, s.tokens ⊆ ts → Parses ts (node c place fuel s)
  content : ∀ {place p s}, s.tokens ⊆ ts → Parses ts (content c place p fuel s)
  blockItems : ∀ {acc s}, s.tokens ⊆ ts → Parses ts (blockItems c fuel acc s)
  looseItems : ∀ {acc s}, s.tokens ⊆ ts → Parses ts (looseItems c fuel acc s)
  blockEntries : ∀ {acc s}, s.tokens ⊆ ts → Parses ts (blockEntries c fuel acc s)
  blockValue : ∀ {s}, s.tokens ⊆ ts → Parses ts (blockValue c fuel s)
  flowItems : ∀ {isFirst acc s}, s.tokens ⊆ ts → Parses ts (flowItems c isFirst fuel acc s)
  flowEntries : ∀ {isFirst acc s}, s.tokens ⊆ ts → Parses ts (flowEntries c isFirst fuel acc s)
  flowValue : ∀ {ends s}, s.tokens ⊆ ts → Parses ts (flowValue c ends fuel s)

section Steps

variable {c : Context} {fuel : Nat} (ih : SettledReaders c ts fuel)
include ih

theorem SettledReaders.optional_succ {place : Place} {ends : Ender} (left : s.tokens ⊆ ts) :
    Parses ts (Node.optional c place ends (fuel + 1) s) := by
  unfold Node.optional
  split
  · split
    · exact left
    · exact ih.node left
  · exact settles_problem left

theorem SettledReaders.node_succ {place : Place} (left : s.tokens ⊆ ts) :
    Parses ts (Node.node c place (fuel + 1) s) := by
  unfold Node.node
  split
  next same =>
    split
    · exact tail_subset left same
    · exact tail_subset left same
    · exact .malformed
  next =>
    have props := parses_properties c.handles left
    split
    next failed => exact props.failed failed
    next p s' done =>
      have left' := props.result done
      split
      · exact .malformed
      · have inner : Parses ts (Node.content c place p fuel (s'.name p.anchor none)) :=
          ih.content (by rw [tokens_name]; exact left')
        split
        next failed => exact inner.failed failed
        next done =>
          have left'' := inner.result done
          show (State.name _ _ _).tokens ⊆ ts
          rw [tokens_name]
          exact left''

theorem SettledReaders.content_succ {place : Place} {p : Properties} (left : s.tokens ⊆ ts) :
    Parses ts (Node.content c place p (fuel + 1) s) := by
  have none_written : Parses ts (missing c p s) := by
    unfold missing
    split
    · exact left
    · exact settles_problem left
  unfold Node.content
  split
  next same => exact tail_subset left same
  next same => exact (ih.flowItems (tail_subset left same)).map fun _ behind => behind
  next same => exact (ih.flowEntries (tail_subset left same)).map fun _ behind => behind
  next t rest _ _ _ same =>
    have behind := tail_subset left same
    split
    · exact (ih.looseItems left).map fun _ behind => behind
    · exact none_written
    · exact (ih.blockItems (s := { s with tokens := rest }) behind).map fun _ behind => behind
    · exact (ih.blockEntries (s := { s with tokens := rest }) behind).map fun _ behind => behind
    · exact none_written
  next => exact settles_problem left

theorem SettledReaders.blockItems_succ {acc : List Node} (left : s.tokens ⊆ ts) :
    Parses ts (Node.blockItems c (fuel + 1) acc s) := by
  unfold Node.blockItems
  split
  next rest same =>
    have item : Parses ts (Node.optional c .block endsItem fuel { s with tokens := rest }) :=
      ih.optional (tail_subset left same)
    split
    next failed => exact item.failed failed
    next done => exact ih.blockItems (item.result done)
  next same => exact tail_subset left same
  next => exact settles_problem left

theorem SettledReaders.looseItems_succ {acc : List Node} (left : s.tokens ⊆ ts) :
    Parses ts (Node.looseItems c (fuel + 1) acc s) := by
  unfold Node.looseItems
  split
  next rest same =>
    have item : Parses ts (Node.optional c .block endsLooseItem fuel { s with tokens := rest }) :=
      ih.optional (tail_subset left same)
    split
    next failed => exact item.failed failed
    next done => exact ih.looseItems (item.result done)
  next => exact left

theorem SettledReaders.blockEntries_succ {acc : List (Node × Node)} (left : s.tokens ⊆ ts) :
    Parses ts (Node.blockEntries c (fuel + 1) acc s) := by
  unfold Node.blockEntries
  split
  next rest same =>
    have key : Parses ts (Node.optional c .member endsMember fuel { s with tokens := rest }) :=
      ih.optional (tail_subset left same)
    split
    next failed => exact key.failed failed
    next done =>
      have value := ih.blockValue (key.result done)
      split
      next failed => exact value.failed failed
      next done => exact ih.blockEntries (value.result done)
  next same => exact tail_subset left same
  next => exact settles_problem left

theorem SettledReaders.blockValue_succ (left : s.tokens ⊆ ts) :
    Parses ts (Node.blockValue c (fuel + 1) s) := by
  unfold Node.blockValue
  split
  next same => exact ih.optional (tail_subset left same)
  next => exact left

theorem SettledReaders.flowValue_succ {ends : Ender} (left : s.tokens ⊆ ts) :
    Parses ts (Node.flowValue c ends (fuel + 1) s) := by
  unfold Node.flowValue
  split
  next same => exact ih.optional (tail_subset left same)
  next => exact left

theorem SettledReaders.flowItems_succ {isFirst : Bool} {acc : List Node} (left : s.tokens ⊆ ts) :
    Parses ts (Node.flowItems c isFirst (fuel + 1) acc s) := by
  unfold Node.flowItems
  split
  next same => exact tail_subset left same
  next =>
    have comma := settles_skipComma isFirst left
    split
    next failed => exact comma.failed failed
    next s' done =>
      have left' := comma.result done
      split
      next same => exact tail_subset left' same
      next rest same =>
        have key : Parses ts (Node.optional c .flow endsPairKey fuel { s' with tokens := rest }) :=
          ih.optional (tail_subset left' same)
        split
        next failed => exact key.failed failed
        next s'' done =>
          have value : Parses ts (Node.flowValue c endsPairValue fuel s'') :=
            ih.flowValue (key.result done)
          split
          next failed => exact value.failed failed
          next done => exact ih.flowItems (value.result done)
      next =>
        have item : Parses ts (Node.node c .flow fuel s') := ih.node left'
        split
        next failed => exact item.failed failed
        next done => exact ih.flowItems (item.result done)

theorem SettledReaders.flowEntries_succ {isFirst : Bool} {acc : List (Node × Node)}
    (left : s.tokens ⊆ ts) : Parses ts (Node.flowEntries c isFirst (fuel + 1) acc s) := by
  unfold Node.flowEntries
  split
  next same => exact tail_subset left same
  next =>
    have comma := settles_skipComma isFirst left
    split
    next failed => exact comma.failed failed
    next s' done =>
      have left' := comma.result done
      split
      next same => exact tail_subset left' same
      next rest same =>
        have key : Parses ts (Node.optional c .flow endsFlowKey fuel { s' with tokens := rest }) :=
          ih.optional (tail_subset left' same)
        split
        next failed => exact key.failed failed
        next s'' done =>
          have value : Parses ts (Node.flowValue c endsFlowValue fuel s'') :=
            ih.flowValue (key.result done)
          split
          next failed => exact value.failed failed
          next done => exact ih.flowEntries (value.result done)
      next =>
        have key : Parses ts (Node.node c .flow fuel s') := ih.node left'
        split
        next failed => exact key.failed failed
        next done => exact ih.flowEntries (key.result done)

end Steps

/-- **The readers of nodes are settled**, whatever their fuel. -/
theorem settled_readers (c : Context) (ts : List Token) (fuel : Nat) :
    SettledReaders c ts fuel := by
  induction fuel with
  | zero =>
      -- without fuel a reader reports the token that it stands at
      constructor
      case looseItems =>
        intro acc s left
        rw [Node.looseItems]
        exact settles_problem left
      all_goals
        intros
        simp only [Node.optional, Node.node, Node.content, Node.blockItems, Node.blockEntries,
          Node.blockValue, Node.flowItems, Node.flowEntries, Node.flowValue]
        exact settles_problem ‹_›
  | succ fuel ih =>
      constructor
      case optional => exact ih.optional_succ
      case node => exact ih.node_succ
      case content => exact ih.content_succ
      case blockItems => exact ih.blockItems_succ
      case looseItems => exact ih.looseItems_succ
      case blockEntries => exact ih.blockEntries_succ
      case blockValue => exact ih.blockValue_succ
      case flowItems => exact ih.flowItems_succ
      case flowEntries => exact ih.flowEntries_succ
      case flowValue => exact ih.flowValue_succ

/-! ## §3. Documents. -/

theorem settles_directives {d : Directives} {tokens : List Token} (left : tokens ⊆ ts) :
    Settles (Reported ts) (fun a => a.2 ⊆ ts) (directives d tokens) := by
  fun_induction directives d tokens with
  | case1 => exact .malformed
  | case2 _ _ _ _ ih => exact ih (List.subset_of_cons_subset left)
  | case3 => exact .malformed
  | case4 _ _ _ _ _ ih => exact ih (List.subset_of_cons_subset left)
  | case5 _ _ ih => exact ih (List.subset_of_cons_subset left)
  | case6 => exact left

theorem dropEnds_subset (tokens : List Token) : dropEnds tokens ⊆ tokens := by
  fun_induction dropEnds tokens with
  | case1 _ ih => exact List.subset_cons_of_subset _ ih
  | case2 => exact List.Subset.refl _

theorem settles_document {c : Context} {mayBeMissing : Bool} {tokens : List Token}
    (left : tokens ⊆ ts) :
    Settles (Reported ts) (fun _ => True) (document c mayBeMissing tokens) := by
  have read : Parses ts (optional c .block (fun t => mayBeMissing && endsDocument t)
      (4 * tokens.length + 4) ⟨tokens, []⟩) := (settled_readers c ts _).optional left
  unfold document
  dsimp only
  split
  next failed => exact read.failed failed
  next n s done =>
    have behind := List.Subset.trans (dropEnds_subset s.tokens) (read.result done)
    split
    next => trivial
    next same =>
      rw [same] at behind
      exact settles_tokenProblem (behind List.mem_cons_self)
    next => exact .malformed

/-- **Nodes are refused only for a token that is broken by a refusal.** -/
theorem broken_of_ofTokens {dialect : Dialect} {f : Fault}
    (h : ofTokens dialect ts = .error (.refused f)) : Token.broken (.refused f) ∈ ts := by
  have settled : Settles (Reported ts) (fun _ => True) (ofTokens dialect ts) := by
    unfold ofTokens
    split
    next => trivial
    next t rest _ =>
      split
      next =>
        have stated := settles_directives (d := ⟨false, []⟩) (List.Subset.refl (t :: rest))
        split
        next failed => exact stated.failed failed
        next done =>
          have behind := stated.result done
          exact (settles_document (List.subset_of_cons_subset behind)).map fun _ known => known
        next done => exact settles_tokenProblem (stated.result done List.mem_cons_self)
        next => exact .malformed
      next => exact (settles_document (List.Subset.refl (t :: rest))).map fun _ known => known
    next => exact .malformed
  rw [h] at settled
  exact settled

end ApiTools.Yaml.Node
