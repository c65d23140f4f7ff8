/-
  ApiTools.Proofs.Path.Cutting
  ────────────────────────────
  **A TEMPLATE IS CUT AT ITS LEFTMOST TOKENS.**

  `Cuts` says where a text is to be cut, without a scanner: at the leftmost
  place where a token stands, and so on behind that token, until no token
  stands anywhere.  Braces that make up no token are text like any other.

    • `exists_cuts`, `Cuts.unique` — a text can be cut in one way and no other,
    • `piecesFrom_of_cuts` — the pieces of a template are its cuts, so that the
      scanner, which looks at one character after the other, finds these places,
    • `names_of_cuts`, `substitute_of_cuts` — the names and the substitution
      read off the cuts.
-/
import ApiTools.Proofs.Path.Occurrence

namespace ApiTools.Template

/-! ## §1. Tokens and cuts. -/

/-- Behind `before` the token of a name stands in a text. -/
def Stands (before name cs : List Char) : Prop := IsName name ∧ before ++ tokenText name <+: cs

/-- A token with the text in front of it. -/
structure Cut where
  before : List Char
  name : List Char

/-- **How a text is cut**: the tokens, each with the text in front of it, and the text behind the
last one. -/
inductive Cuts : List Char → List Cut → List Char → Prop where
  /-- where no token stands, nothing is cut off -/
  | rest {cs : List Char} : (∀ before name, ¬ Stands before name cs) → Cuts cs [] cs
  /-- a token is cut off if none stands further to the left, and what follows it is cut on its own -/
  | token {cs before name after rest : List Char} {cuts : List Cut} :
      IsName name → cs = before ++ (tokenText name ++ after) →
      (∀ before' name', Stands before' name' cs → before.length ≤ before'.length) →
      Cuts after cuts rest → Cuts cs (⟨before, name⟩ :: cuts) rest

variable {c d : Char} {cs before name after rest : List Char} {cuts : List Cut}

theorem stands_of_isName (h : IsName name) (before after : List Char) :
    Stands before name (before ++ (tokenText name ++ after)) :=
  ⟨h, after, List.append_assoc _ _ _⟩

/-- The scanner asks for a token at the start. -/
theorem stands_nil_iff : Stands [] name cs ↔ tokenAt? cs = some name := by
  constructor
  · rintro ⟨is_name, rest, rfl⟩
    exact tokenAt?_token is_name rest
  · intro found
    obtain ⟨rest, rfl⟩ := tokenAt?_eq_some found
    exact stands_of_isName (isName_of_tokenAt? found) [] rest

/-- Behind the first character a token stands where it stands in the others. -/
theorem stands_cons_iff : Stands (c :: before) name (d :: cs) ↔ c = d ∧ Stands before name cs := by
  unfold Stands
  rw [List.cons_append, List.cons_prefix_cons]
  exact and_left_comm

/-- No token stands in the empty text. -/
theorem not_stands_empty : ¬ Stands before name [] := by
  rintro ⟨-, inside⟩
  have empty := List.prefix_nil.mp inside
  exact absurd empty (by simp [tokenText])

/-! ## §2. The scanner finds the cuts. -/

/-- Text in front of the leftmost token is taken character by character. -/
theorem piecesFrom_of_leftmost (cs : List Char)
    (h : ∀ before' name', Stands before' name' (before ++ cs) → before.length ≤ before'.length) :
    piecesFrom 0 (before ++ cs) = before.map .literal ++ piecesFrom 0 cs := by
  induction before with
  | nil => rfl
  | cons c before ih =>
      have none_here : tokenAt? (c :: (before ++ cs)) = none := by
        rw [Option.eq_none_iff_forall_ne_some]
        intro name found
        have short := h [] name (stands_nil_iff.mpr found)
        exact absurd short (by simp)
      -- behind the character the leftmost place is nearer by one
      have later : ∀ before' name', Stands before' name' (before ++ cs) →
          before.length ≤ before'.length := by
        intro before' name' stands
        have long := h (c :: before') name' (stands_cons_iff.mpr ⟨rfl, stands⟩)
        exact Nat.le_of_succ_le_succ long
      rw [List.cons_append, piecesFrom_of_none none_here, ih later]
      rfl

/-- The pieces of a cut: its characters, and the token. -/
def Cut.pieces (c : Cut) : List Piece := c.before.map .literal ++ [.token c.name]

/-- **The pieces of a text are its cuts.** -/
theorem piecesFrom_of_cuts (h : Cuts cs cuts rest) :
    piecesFrom 0 cs = cuts.flatMap Cut.pieces ++ rest.map .literal := by
  induction h with
  | @rest cs nowhere =>
      -- where no token stands, the whole text is in front of the leftmost one
      have leftmost : ∀ before name, Stands before name (cs ++ []) → cs.length ≤ before.length := by
        rw [List.append_nil]
        exact fun before name stands => absurd stands (nowhere before name)
      have pieces_eq := piecesFrom_of_leftmost [] leftmost
      rw [List.append_nil] at pieces_eq
      rw [pieces_eq]
      exact List.append_nil _
  | token is_name whole leftmost _ ih =>
      subst whole
      rw [piecesFrom_of_leftmost _ leftmost, piecesFrom_token is_name, ih, List.flatMap_cons,
        Cut.pieces]
      simp only [List.append_assoc, List.cons_append, List.nil_append]

/-! ## §3. There is one way to cut a text. -/

/-- A character at which no token starts belongs to the text in front of the first cut. -/
theorem Cuts.exists_cons (none_here : tokenAt? (c :: cs) = none) (h : Cuts cs cuts rest) :
    ∃ cuts rest, Cuts (c :: cs) cuts rest := by
  -- so every token in the longer text stands in the shorter one
  have behind : ∀ {before name}, Stands before name (c :: cs) →
      ∃ before', before = c :: before' ∧ Stands before' name cs := by
    intro before name stands
    cases before with
    | nil => exact absurd (stands_nil_iff.mp stands) (by simp [none_here])
    | cons d before =>
        obtain ⟨rfl, in_others⟩ := stands_cons_iff.mp stands
        exact ⟨before, rfl, in_others⟩
  cases h with
  | rest nowhere =>
      refine ⟨[], c :: cs, .rest ?_⟩
      intro before name stands
      obtain ⟨before', -, in_others⟩ := behind stands
      exact nowhere before' name in_others
  | @token _ before name after _ cuts is_name whole leftmost others =>
      refine ⟨⟨c :: before, name⟩ :: cuts, rest, .token is_name (congrArg (c :: ·) whole) ?_ others⟩
      intro before' name' stands
      obtain ⟨before', rfl, in_others⟩ := behind stands
      exact Nat.succ_le_succ (leftmost before' name' in_others)

/-- Every text can be cut. -/
theorem exists_cuts (cs : List Char) : ∃ cuts rest, Cuts cs cuts rest := by
  -- a token takes several characters at once, so the induction is on the length
  induction length : cs.length using Nat.strong_induction_on generalizing cs with
  | _ n ih =>
  subst length
  cases cs with
  | nil => exact ⟨[], [], .rest fun _ _ => not_stands_empty⟩
  | cons c cs =>
      cases found : tokenAt? (c :: cs) with
      | none =>
          obtain ⟨cuts, rest, others⟩ := ih cs.length (by simp) cs rfl
          exact others.exists_cons found
      | some name =>
          have is_name := isName_of_tokenAt? found
          obtain ⟨after, whole⟩ := tokenAt?_eq_some found
          have shorter : after.length < (c :: cs).length := by
            rw [whole]
            simp [tokenText]
            omega
          obtain ⟨cuts, rest, others⟩ := ih after.length shorter after rfl
          exact ⟨⟨[], name⟩ :: cuts, rest,
            .token is_name whole (fun _ _ _ => Nat.zero_le _) others⟩

/-- **A text can be cut in one way only.** -/
theorem Cuts.unique {cuts' : List Cut} {rest' : List Char} (h : Cuts cs cuts rest)
    (h' : Cuts cs cuts' rest') : cuts' = cuts ∧ rest' = rest := by
  induction h generalizing cuts' rest' with
  | rest nowhere =>
      cases h' with
      | rest => exact ⟨rfl, rfl⟩
      | token is_name whole =>
          subst whole
          exact absurd (stands_of_isName is_name _ _) (nowhere _ _)
  | @token _ before name after rest cuts is_name whole leftmost _ ih =>
      subst whole
      cases h' with
      | rest nowhere => exact absurd (stands_of_isName is_name _ _) (nowhere _ _)
      | @token _ before' name' after' _ cuts' is_name' whole leftmost' others' =>
          -- each of the two tokens is the leftmost one
          have ge := leftmost' _ _ (stands_of_isName is_name _ _)
          rw [whole] at leftmost
          have le := leftmost _ _ (stands_of_isName is_name' _ _)
          obtain ⟨rfl, same⟩ := List.append_inj whole (Nat.le_antisymm le ge)
          have found := tokenAt?_token is_name after
          rw [same, tokenAt?_token is_name' after'] at found
          obtain rfl := Option.some.inj found
          obtain rfl := List.append_cancel_left same
          obtain ⟨rfl, rfl⟩ := ih others'
          exact ⟨rfl, rfl⟩

/-! ## §4. Names and substitution. -/

/-- The names of a template, cut by cut. -/
theorem names_of_cuts {template : String} (h : Cuts template.toList cuts rest) :
    names template = cuts.map fun c => String.ofList c.name := by
  have no_name : ∀ cs : List Char, (cs.map Piece.literal).filterMap Piece.name? = [] := by
    intro cs
    simp [List.filterMap_map, Function.comp_def, Piece.name?]
  have one_name : ∀ c : Cut, c.pieces.filterMap Piece.name? = [String.ofList c.name] := by
    intro c
    simp [Cut.pieces, no_name, Piece.name?]
  unfold names pieces
  rw [piecesFrom_of_cuts h, List.filterMap_append, no_name, List.append_nil,
    List.filterMap_flatMap]
  simp only [one_name]
  exact List.map_eq_flatMap.symm

/-- The substitution, cut by cut. -/
theorem substitute_of_cuts {text : String → String} {template : String}
    (h : Cuts template.toList cuts rest) :
    substitute text template
      = String.ofList
        (cuts.flatMap (fun c => c.before ++ (text (String.ofList c.name)).toList) ++ rest) := by
  have as_is : ∀ cs : List Char, (cs.map Piece.literal).flatMap (Piece.substitute text) = cs := by
    intro cs
    rw [List.flatMap_map]
    exact List.flatMap_singleton' _
  have one_cut : ∀ c : Cut, c.pieces.flatMap (Piece.substitute text)
      = c.before ++ (text (String.ofList c.name)).toList := by
    intro c
    rw [Cut.pieces, List.flatMap_append, as_is]
    simp [Piece.substitute]
  unfold substitute pieces
  rw [piecesFrom_of_cuts h, List.flatMap_append, as_is, List.flatMap_assoc]
  simp only [one_cut]

end ApiTools.Template
