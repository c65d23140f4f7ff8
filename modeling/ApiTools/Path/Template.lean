/-
  ApiTools.Path.Template
  ──────────────────────
  **PATHS WITH NAMES IN BRACES.**

  A path template is text with tokens such as the one for `id`: a name of word
  characters between two braces.  `Template.pieces` cuts a template into its
  tokens and the characters between them, the leftmost token first and none
  overlapping another; nothing is lost (`Template.source_pieces`).
-/
import ApiTools.Text.Alphanumeric

namespace ApiTools.Template

/-- A piece of a template. -/
inductive Piece where
  | literal (c : Char)
  | token (name : List Char)
  deriving DecidableEq

/-- The text of a token: its name between braces. -/
def tokenText (name : List Char) : List Char := '{' :: (name ++ ['}'])

/-- The text that a piece was cut from. -/
def Piece.source : Piece → List Char
  | literal c => [c]
  | token name => tokenText name

/-- The name of the token at the start of a text, if there is one. -/
def tokenAt? : List Char → Option (List Char)
  | '{' :: rest =>
    let name := rest.takeWhile Text.isWord
    if !name.isEmpty && (rest.drop name.length).head? == some '}' then some name else none
  | _ => none

/-- Cuts a text; its first `skip` characters belong to a token that has been cut off. -/
def piecesFrom : Nat → List Char → List Piece
  | _, [] => []
  | skip + 1, _ :: cs => piecesFrom skip cs
  | 0, c :: cs =>
    match tokenAt? (c :: cs) with
    | some name => .token name :: piecesFrom (name.length + 1) cs
    | none => .literal c :: piecesFrom 0 cs

/-- The pieces of a template. -/
def pieces (template : String) : List Piece := piecesFrom 0 template.toList

/-- The name of a piece that is a token. -/
def Piece.name? : Piece → Option String
  | literal _ => none
  | token name => some (String.ofList name)

/-- The names of the tokens, in order. -/
def names (template : String) : List String := (pieces template).filterMap Piece.name?

/-! ## Nothing is lost. -/

theorem tokenAt?_eq_some {cs name : List Char} (h : tokenAt? cs = some name) :
    ∃ rest, cs = tokenText name ++ rest := by
  unfold tokenAt? at h
  split at h
  · next rest =>
    simp only [Bool.and_eq_true] at h
    split at h
    · next hc =>
      obtain ⟨_, hb⟩ := hc
      injection h with h
      subst h
      have whole : rest.takeWhile Text.isWord ++ rest.dropWhile Text.isWord = rest :=
        List.takeWhile_append_dropWhile
      have hd : rest.drop (rest.takeWhile Text.isWord).length = rest.dropWhile Text.isWord := by
        have := @List.drop_left _ (rest.takeWhile Text.isWord) (rest.dropWhile Text.isWord)
        rwa [whole] at this
      rw [hd] at hb
      refine ⟨(rest.dropWhile Text.isWord).tail, ?_⟩
      cases hx : rest.dropWhile Text.isWord with
      | nil => simp [hx] at hb
      | cons b more =>
        simp [hx] at hb
        subst hb
        rw [hx] at whole
        simp [tokenText, whole]
    · simp at h
  · simp at h

theorem source_piecesFrom (skip : Nat) (cs : List Char) :
    (piecesFrom skip cs).flatMap Piece.source = cs.drop skip := by
  induction cs generalizing skip with
  | nil => simp [piecesFrom]
  | cons c cs ih =>
    cases skip with
    | succ k => simp [piecesFrom, ih]
    | zero =>
      simp only [piecesFrom]
      split
      · next name h =>
        obtain ⟨rest, hr⟩ := tokenAt?_eq_some h
        simp only [List.flatMap_cons, ih, List.drop_zero, Piece.source]
        simp only [tokenText, List.cons_append, List.cons.injEq, List.append_assoc] at hr
        obtain ⟨hc, hcs⟩ := hr
        subst hc
        subst hcs
        simp [tokenText]
      · next h => simp [ih, Piece.source]

/-- The pieces, put together, are the template. -/
theorem source_pieces (template : String) :
    (pieces template).flatMap Piece.source = template.toList := by
  simp [pieces, source_piecesFrom]

end ApiTools.Template
