/-
  ApiTools.Proofs.Path.Occurrence
  ───────────────────────────────
  **WHERE THE TOKENS OF A TEMPLATE STAND.**

  A template is cut from left to right, and every token that is cut off moves
  the place where the next piece starts.  Braces are no word characters, so a
  token never reaches over an opening brace, and the text in front of one is
  cut as if nothing followed (`piecesFrom_append_brace`).  Therefore

    • `piecesFrom_append_token` — a name of word characters in braces is a
      token wherever it occurs, and the text around it is cut on its own,
    • `piecesFrom_append_text` — any other name in braces is no token, and
      its text is left as it is.

  `substitute` puts a text in the place of every token, by its name, and leaves
  the rest of the template.
-/
import ApiTools.Path.Template
import Mathlib.Data.List.Infix
import Mathlib.Data.List.TakeWhile

namespace ApiTools.Template

/-! ## §1. Names. -/

/-- The name of a token has at least one character, and only word characters. -/
def IsName (name : List Char) : Prop := name ≠ [] ∧ ∀ c ∈ name, Text.isWord c = true

theorem tokenText_append (name rest : List Char) :
    tokenText name ++ rest = '{' :: (name ++ '}' :: rest) := by
  simp [tokenText]

/-- Words end at a character that is none. -/
theorem takeWhile_append_stop {p : Char → Bool} {stop : Char} (h : p stop = false)
    (cs rest : List Char) : (cs ++ stop :: rest).takeWhile p = cs.takeWhile p := by
  induction cs with
  | nil =>
      show List.takeWhile p (stop :: rest) = []
      rw [List.takeWhile_cons_of_neg]
      rw [h]
      exact Bool.false_ne_true
  | cons c cs ih =>
      rw [List.cons_append, List.takeWhile_cons, List.takeWhile_cons, ih]

/-! ## §2. The token at a place. -/

/-- Only an opening brace starts a token. -/
theorem tokenAt?_eq_none_of_ne {c : Char} (h : c ≠ '{') (cs : List Char) :
    tokenAt? (c :: cs) = none := by
  unfold tokenAt?
  split
  next heq =>
    injection heq with head _
    exact absurd head h
  next => rfl

theorem isName_of_tokenAt? {cs name : List Char} (h : tokenAt? cs = some name) : IsName name := by
  unfold tokenAt? at h
  split at h
  next rest =>
    dsimp only at h
    split at h
    next found =>
      injection h with h
      subst h
      rw [Bool.and_eq_true, Bool.not_eq_true', List.isEmpty_eq_false_iff] at found
      exact ⟨found.1, fun c mem => List.mem_takeWhile_imp mem⟩
    next => exact absurd h (by simp)
  next => exact absurd h (by simp)

/-- A name in braces is found where it stands. -/
theorem tokenAt?_token {name : List Char} (h : IsName name) (rest : List Char) :
    tokenAt? (tokenText name ++ rest) = some name := by
  have word : (name ++ '}' :: rest).takeWhile Text.isWord = name := by
    rw [takeWhile_append_stop Text.isWord_brace.2]
    exact List.takeWhile_eq_self_iff.mpr h.2
  have filled : name.isEmpty = false := List.isEmpty_eq_false_iff.mpr h.1
  rw [tokenText_append]
  unfold tokenAt?
  simp only [word, List.drop_left, filled, List.head?_cons]
  rfl

/-- What is no name is not found in braces, unless a closing brace ends it before. -/
theorem tokenAt?_eq_none_of_not_isName {name : List Char} (h : ¬ IsName name)
    (unclosed : '}' ∉ name) (rest : List Char) : tokenAt? (tokenText name ++ rest) = none := by
  have word : (name ++ '}' :: rest).takeWhile Text.isWord = name.takeWhile Text.isWord :=
    takeWhile_append_stop Text.isWord_brace.2 name rest
  rw [tokenText_append]
  unfold tokenAt?
  simp only [word]
  rw [if_neg]
  intro found
  rw [Bool.and_eq_true, Bool.not_eq_true', List.isEmpty_eq_false_iff, beq_iff_eq] at found
  obtain ⟨some_word, closed⟩ := found
  -- behind the word comes the rest of the name, and only if there is none the closing brace
  have parts : name.takeWhile Text.isWord ++ name.dropWhile Text.isWord = name :=
    List.takeWhile_append_dropWhile
  have behind : (name ++ '}' :: rest).drop (name.takeWhile Text.isWord).length
      = name.dropWhile Text.isWord ++ '}' :: rest := by
    conv => lhs; rw [← parts, List.append_assoc]
    rw [parts]
    exact List.drop_left
  rw [behind] at closed
  cases left : name.dropWhile Text.isWord with
  | nil =>
      rw [left, List.append_nil] at parts
      refine h ⟨?_, ?_⟩
      · rw [← parts]
        exact some_word
      · rw [← parts]
        intro c mem
        exact List.mem_takeWhile_imp mem
  | cons d ds =>
      rw [left, List.cons_append, List.head?_cons, Option.some.injEq] at closed
      subst closed
      have mem : '}' ∈ name := by
        rw [← parts, left]
        simp
      exact unclosed mem

/-- No token reaches over an opening brace. -/
theorem tokenAt?_append_brace (c : Char) (cs rest : List Char) :
    tokenAt? (c :: (cs ++ '{' :: rest)) = tokenAt? (c :: cs) := by
  by_cases brace : c = '{'
  · subst brace
    have word : (cs ++ '{' :: rest).takeWhile Text.isWord = cs.takeWhile Text.isWord :=
      takeWhile_append_stop Text.isWord_brace.1 cs rest
    have short : (cs.takeWhile Text.isWord).length ≤ cs.length :=
      (List.takeWhile_prefix _).length_le
    -- if the word is all of the text in front, an opening brace follows instead of nothing
    have closed : ((cs ++ '{' :: rest).drop (cs.takeWhile Text.isWord).length).head? == some '}'
        ↔ (cs.drop (cs.takeWhile Text.isWord).length).head? == some '}' := by
      rw [List.drop_append_of_le_length short]
      cases cs.drop (cs.takeWhile Text.isWord).length with
      | nil => simp
      | cons d ds => rfl
    unfold tokenAt?
    simp only [word, Bool.and_eq_true, closed]
  · rw [tokenAt?_eq_none_of_ne brace, tokenAt?_eq_none_of_ne brace]

/-! ## §3. Cutting around a token. -/

/-- Characters that have been cut off do not count. -/
theorem piecesFrom_eq_drop (skip : Nat) (cs : List Char) :
    piecesFrom skip cs = piecesFrom 0 (cs.drop skip) := by
  induction cs generalizing skip with
  | nil => simp [piecesFrom]
  | cons c cs ih =>
      cases skip with
      | zero => rfl
      | succ k =>
          show piecesFrom k cs = piecesFrom 0 (cs.drop k)
          exact ih k

theorem piecesFrom_of_none {c : Char} {cs : List Char} (h : tokenAt? (c :: cs) = none) :
    piecesFrom 0 (c :: cs) = .literal c :: piecesFrom 0 cs := by
  rw [piecesFrom, h]

/-- A token at the start is the first piece. -/
theorem piecesFrom_token {name : List Char} (h : IsName name) (rest : List Char) :
    piecesFrom 0 (tokenText name ++ rest) = .token name :: piecesFrom 0 rest := by
  have found := tokenAt?_token h rest
  rw [tokenText_append] at found ⊢
  rw [piecesFrom, found]
  dsimp only
  rw [piecesFrom_eq_drop]
  congr 2
  -- the name and the closing brace have been cut off
  have cut : name ++ '}' :: rest = (name ++ ['}']) ++ rest := by simp
  have length : name.length + 1 = (name ++ ['}']).length := by simp
  rw [cut, length]
  exact List.drop_left

/-- The text in front of an opening brace is cut as if nothing followed. -/
theorem piecesFrom_append_brace {skip : Nat} {before : List Char} (le : skip ≤ before.length)
    (rest : List Char) :
    piecesFrom skip (before ++ '{' :: rest)
      = piecesFrom skip before ++ piecesFrom 0 ('{' :: rest) := by
  induction before generalizing skip with
  | nil =>
      have none_left : skip = 0 := by simpa using le
      subst none_left
      rfl
  | cons c cs ih =>
      cases skip with
      | succ k => exact ih (by simpa using le)
      | zero =>
          rw [List.cons_append, piecesFrom, tokenAt?_append_brace, piecesFrom]
          cases found : tokenAt? (c :: cs) with
          | none =>
              dsimp only
              rw [ih (Nat.zero_le _)]
              rfl
          | some name =>
              -- the token ends in front of the brace
              obtain ⟨tail, whole⟩ := tokenAt?_eq_some found
              have size : (c :: cs).length = (tokenText name ++ tail).length := by rw [whole]
              have inside : name.length + 1 ≤ cs.length := by
                simp [tokenText] at size
                omega
              dsimp only
              rw [ih inside]
              rfl

theorem piecesFrom_append_tokenText (before name after : List Char) :
    piecesFrom 0 (before ++ (tokenText name ++ after))
      = piecesFrom 0 before ++ piecesFrom 0 (tokenText name ++ after) :=
  piecesFrom_append_brace (Nat.zero_le _) _

/-- **A name in braces is a token wherever it occurs.** -/
theorem piecesFrom_append_token {name : List Char} (h : IsName name) (before after : List Char) :
    piecesFrom 0 (before ++ (tokenText name ++ after))
      = piecesFrom 0 before ++ .token name :: piecesFrom 0 after := by
  rw [piecesFrom_append_tokenText, piecesFrom_token h]

/-- Text without an opening brace has no tokens. -/
theorem piecesFrom_append_of_not_mem {cs : List Char} (h : '{' ∉ cs) (rest : List Char) :
    piecesFrom 0 (cs ++ rest) = cs.map .literal ++ piecesFrom 0 rest := by
  induction cs with
  | nil => rfl
  | cons c cs ih =>
      rw [List.mem_cons, not_or] at h
      obtain ⟨first, others⟩ := h
      rw [List.cons_append, piecesFrom_of_none (tokenAt?_eq_none_of_ne (fun e => first e.symm) _),
        ih others]
      rfl

/-- **What is no name stays in its braces**: text without further braces is left as it is. -/
theorem piecesFrom_append_text {name : List Char} (h : ¬ IsName name)
    (plain : '{' ∉ name ∧ '}' ∉ name) (before after : List Char) :
    piecesFrom 0 (before ++ (tokenText name ++ after))
      = piecesFrom 0 before ++ ((tokenText name).map .literal ++ piecesFrom 0 after) := by
  have missed := tokenAt?_eq_none_of_not_isName h plain.2 after
  have closing : name ++ '}' :: after = (name ++ ['}']) ++ after := by simp
  have no_brace : '{' ∉ name ++ ['}'] := by simp [plain.1]
  rw [tokenText_append] at missed
  rw [piecesFrom_append_tokenText, tokenText_append, piecesFrom_of_none missed, closing,
    piecesFrom_append_of_not_mem no_brace]
  rfl

/-! ## §4. The names of a template. -/

theorem mem_names_iff_token {n template : String} :
    n ∈ names template ↔ Piece.token n.toList ∈ pieces template := by
  unfold names
  rw [List.mem_filterMap]
  constructor
  · rintro ⟨p, mem, name⟩
    cases p with
    | literal c => exact absurd name (by simp [Piece.name?])
    | token cs =>
        injection name with name
        subst name
        rwa [String.toList_ofList]
  · intro mem
    exact ⟨_, mem, by rw [Piece.name?, String.ofList_toList]⟩

theorem isName_of_mem_piecesFrom {skip : Nat} {cs name : List Char}
    (h : Piece.token name ∈ piecesFrom skip cs) : IsName name := by
  induction cs generalizing skip with
  | nil => exact absurd h (by simp [piecesFrom])
  | cons c cs ih =>
      cases skip with
      | succ k => exact ih h
      | zero =>
          rw [piecesFrom] at h
          split at h
          next found_name found =>
            rcases List.mem_cons.mp h with same | later
            · injection same with same
              rw [same]
              exact isName_of_tokenAt? found
            · exact ih later
          next =>
            rcases List.mem_cons.mp h with other | later
            · exact absurd other (by simp)
            · exact ih later

theorem isName_of_mem_names {n template : String} (h : n ∈ names template) : IsName n.toList :=
  isName_of_mem_piecesFrom (mem_names_iff_token.mp h)

/-! ## §5. Substituting. -/

/-- The token of a name. -/
def token (n : String) : String := String.ofList (tokenText n.toList)

/-- What stands in the place of a piece. -/
def Piece.substitute (text : String → String) : Piece → List Char
  | literal c => [c]
  | token name => (text (String.ofList name)).toList

/-- The template with a text in the place of every token. -/
def substitute (text : String → String) (template : String) : String :=
  String.ofList ((pieces template).flatMap (Piece.substitute text))

variable {text other : String → String}

/-- Only the names of the template count. -/
theorem substitute_congr {template : String} (h : ∀ n ∈ names template, text n = other n) :
    substitute text template = substitute other template := by
  have pieces_eq : ∀ p ∈ pieces template, Piece.substitute text p = Piece.substitute other p := by
    intro p mem
    cases p with
    | literal c => rfl
    | token name =>
        have named : String.ofList name ∈ names template :=
          List.mem_filterMap.mpr ⟨.token name, mem, rfl⟩
        show (text (String.ofList name)).toList = (other (String.ofList name)).toList
        rw [h _ named]
  unfold substitute
  rw [List.flatMap_congr pieces_eq]

/-- Every occurrence of the token of a name is replaced. -/
theorem substitute_append_token {n : String} (h : IsName n.toList) (before after : String) :
    substitute text (before ++ token n ++ after)
      = substitute text before ++ text n ++ substitute text after := by
  have cut : pieces (before ++ token n ++ after)
      = pieces before ++ .token n.toList :: pieces after := by
    unfold pieces token
    rw [String.toList_append, String.toList_append, String.toList_ofList, List.append_assoc,
      piecesFrom_append_token h]
  unfold substitute
  rw [cut, List.flatMap_append, List.flatMap_cons, String.ofList_append, String.ofList_append,
    String.append_assoc]
  simp only [Piece.substitute, String.ofList_toList]

/-- What is no name stays in its braces. -/
theorem substitute_append_text {n : String} (h : ¬ IsName n.toList)
    (plain : '{' ∉ n.toList ∧ '}' ∉ n.toList) (before after : String) :
    substitute text (before ++ token n ++ after)
      = substitute text before ++ token n ++ substitute text after := by
  have cut : pieces (before ++ token n ++ after)
      = pieces before ++ ((tokenText n.toList).map .literal ++ pieces after) := by
    unfold pieces token
    rw [String.toList_append, String.toList_append, String.toList_ofList, List.append_assoc,
      piecesFrom_append_text h plain]
  have kept : ((tokenText n.toList).map Piece.literal).flatMap (Piece.substitute text)
      = tokenText n.toList := by
    rw [List.flatMap_map]
    exact List.flatMap_singleton' _
  unfold substitute
  rw [cut, List.flatMap_append, List.flatMap_append, kept, String.ofList_append,
    String.ofList_append, String.append_assoc]
  rfl

end ApiTools.Template
