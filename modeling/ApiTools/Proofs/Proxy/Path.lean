/-
  ApiTools.Proofs.Proxy.Path
  ──────────────────────────
  **WHAT STANDS IN A RESOLVED PATH.**

  Given its parameters by name, a path is resolved in one way
  (`resolvePath_mapping`): every token is replaced by the value of its name, and
  a token without a value stays and gives a notice.  Only a value that cannot
  be said ends it, and then nothing behind that value is looked at.  What is
  said of templates in general therefore holds of resolved paths.

  Only the template is cut, and that once (`resolvePath_of_cuts`): the text of
  a value goes between the texts around its token and is never read again.
-/
import ApiTools.Proofs.Path.Cutting
import ApiTools.Proofs.Value.Entries
import ApiTools.Proxy.Downstream

namespace ApiTools.Downstream

open Template

/-- The value that parameters have under a name, if it is not null. -/
def given? (es : Entries) (name : String) : Option Value :=
  (Entries.get? name es).filter fun v => !v.isNull

/-- Can the value be said that parameters have under a name, if they have one? -/
def said (es : Entries) (name : String) : Bool := (given? es name).all Value.isSayable

/-- A text into which the values of names go, if all of them can be said. -/
def saying (es : Entries) (ns : List String) (text : String) : Except Fault String :=
  if ns.all (said es) then .ok text else .error (.refused .notWritten)

/-- What stands for the token of a name: the value as text, or the token itself. -/
def standsFor (es : Entries) (name : String) : String :=
  match given? es name with
  | some v => v.inUrl
  | none => token name

/-- The names without a value, in front of the first one whose value cannot be said. -/
def missing (es : Entries) (ns : List String) : List String :=
  (ns.takeWhile (said es)).filter fun n => (given? es n).isNone

variable {p : Option Nat} {es : Entries} {name template text : String} {ns : List String} {v : Value}

theorem given?_eq_some_iff :
    given? es name = some v ↔ Entries.get? name es = some v ∧ v ≠ .null := by
  unfold given?
  rw [Option.filter_eq_some_iff, Bool.not_eq_true', ← Bool.not_eq_true, Value.isNull_eq_true_iff]

theorem standsFor_of_given? (h : given? es name = some v) : standsFor es name = v.inUrl := by
  unfold standsFor
  rw [h]

theorem said_of_none (h : given? es name = none) : said es name = true := by
  rw [said, h]
  rfl

theorem said_of_some (h : given? es name = some v) : said es name = v.isSayable := by
  rw [said, h]
  rfl

theorem saying_of_said (h : ∀ n ∈ ns, said es n = true) : saying es ns text = .ok text :=
  if_pos (List.all_eq_true.mpr h)

theorem saying_eq_ok {t : String} (h : saying es ns text = .ok t) :
    t = text ∧ ∀ n ∈ ns, said es n = true := by
  unfold saying at h
  split at h
  next all =>
    injection h with h
    exact ⟨h.symm, List.all_eq_true.mp all⟩
  next => exact absurd h (by simp)

theorem tokenValue?_mapping (es : Entries) (name : String) :
    tokenValue? (.mapping (p := p) es) name = .ok (given? es name) := by
  unfold tokenValue? given?
  simp only [Value.has, Entries.contains, Value.part, ok_bind]
  cases Entries.get? name es with
  | none => rfl
  | some v =>
      cases null : v.isNull <;> simp [null, Option.filter]

/-! ## One piece, and all of them. -/

theorem fillPiece_literal (template : String) (es : Entries) (c : Char) :
    fillPiece template (.mapping (p := p) es) (.literal c) = ⟨[], .ok [c]⟩ := rfl

theorem fillPiece_of_some {cs : List Char} (h : given? es (String.ofList cs) = some v) :
    fillPiece template (.mapping (p := p) es) (.token cs) = ⟨[], v.sayInUrl.map String.toList⟩ := by
  rw [fillPiece, tokenValue?_mapping, h, Reported.ofExcept_ok_bind]
  dsimp only
  cases v.sayInUrl <;> rfl

theorem fillPiece_of_none {cs : List Char} (h : given? es (String.ofList cs) = none) :
    fillPiece template (.mapping (p := p) es) (.token cs)
      = ⟨[.pathValueMissing (String.ofList cs) template], .ok (tokenText cs)⟩ := by
  rw [fillPiece, tokenValue?_mapping, h]
  rfl

/-- The names of pieces. -/
def pieceNames (ps : List Piece) : List String := ps.filterMap Piece.name?

theorem fillPieces_mapping (template : String) (es : Entries) (ps : List Piece) :
    fillPieces template (.mapping (p := p) es) ps
      = ⟨(missing es (pieceNames ps)).map (.pathValueMissing · template),
          if (pieceNames ps).all (said es) then .ok (ps.flatMap (Piece.substitute (standsFor es)))
          else .error (.refused .notWritten)⟩ := by
  unfold missing pieceNames
  induction ps with
  | nil => rfl
  | cons p ps ih =>
      cases p with
      | literal c =>
          rw [fillPieces, fillPiece_literal, Reported.ok_bind, ih, List.filterMap_cons]
          simp only [Piece.name?, List.flatMap_cons, Piece.substitute]
          cases (ps.filterMap Piece.name?).all (said es) <;>
            simp [Reported.ok_bind, Reported.error_bind]
      | token cs =>
          rw [fillPieces, List.filterMap_cons]
          simp only [Piece.name?, List.flatMap_cons, Piece.substitute, List.all_cons,
            List.takeWhile_cons]
          cases found : given? es (String.ofList cs) with
          | none =>
              have stands : (standsFor es (String.ofList cs)).toList = tokenText cs := by
                simp [standsFor, found, token]
              rw [fillPiece_of_none found, Reported.ok_bind, ih, said_of_none found, stands]
              cases (ps.filterMap Piece.name?).all (said es) <;>
                simp [found, Reported.ok_bind, Reported.error_bind]
          | some v =>
              rw [fillPiece_of_some found, said_of_some found, Value.sayInUrl,
                standsFor_of_given? found]
              cases v.isSayable with
              | false => rfl
              | true =>
                  rw [if_pos rfl, map_ok, Reported.ok_bind, ih]
                  cases (ps.filterMap Piece.name?).all (said es) <;>
                    simp [found, Reported.ok_bind, Reported.error_bind]

/-- **Resolving a path** replaces every token and speaks of those without a value. -/
theorem resolvePath_mapping (template : String) (es : Entries) :
    resolvePath template (.mapping (p := p) es)
      = ⟨(missing es (names template)).map (.pathValueMissing · template),
          saying es (names template) (substitute (standsFor es) template)⟩ := by
  unfold resolvePath
  rw [fillPieces_mapping]
  unfold saying
  show (Reported.bind _ _ : Reported String) = _
  have same : pieceNames (pieces template) = names template := rfl
  rw [same]
  cases (names template).all (said es) with
  | false => rfl
  | true =>
      show (⟨_ ++ [], _⟩ : Reported String) = _
      rw [List.append_nil]
      rfl

/-! ## The whole path, cut by cut. -/

/-- What stands for a cut: its text as it is, and behind it what stands for its token. -/
def filled (es : Entries) (c : Cut) : List Char :=
  c.before ++ (standsFor es (String.ofList c.name)).toList

/-- The notices of a cut: one if its name has no value. -/
def notices (template : String) (es : Entries) (c : Cut) : List Notice :=
  match given? es (String.ofList c.name) with
  | some _ => []
  | none => [.pathValueMissing (String.ofList c.name) template]

/-- Can the value of a cut be said, if it has one? -/
def saidAt (es : Entries) (c : Cut) : Bool := said es (String.ofList c.name)

theorem notices_of_cuts {cuts : List Cut} {rest : List Char}
    (h : Cuts template.toList cuts rest) :
    (missing es (names template)).map (.pathValueMissing · template)
      = (cuts.takeWhile (saidAt es)).flatMap (notices template es) := by
  unfold missing
  rw [names_of_cuts h]
  clear h
  induction cuts with
  | nil => rfl
  | cons c cuts ih =>
      rw [List.map_cons, List.takeWhile_cons, List.takeWhile_cons, saidAt]
      cases said es (String.ofList c.name) with
      | false => rfl
      | true =>
          rw [if_pos rfl, if_pos rfl, List.filter_cons, List.flatMap_cons, ← ih, notices]
          cases given? es (String.ofList c.name) <;> rfl

/-- **A PATH IS RESOLVED IN A SINGLE PASS.**  There is one way to cut a template at its leftmost
tokens, and the path is what stands for its cuts, joined in their order; each token without a value
gives one notice.  A value that cannot be said ends it, and nothing behind it is spoken of. -/
theorem resolvePath_of_cuts (template : String) (es : Entries) :
    ∃ cuts rest, Cuts template.toList cuts rest
      ∧ (∀ cuts' rest', Cuts template.toList cuts' rest' → cuts' = cuts ∧ rest' = rest)
      ∧ ((∀ c ∈ cuts, saidAt es c = true) →
        resolvePath template (.mapping (p := p) es)
          = ⟨cuts.flatMap (notices template es),
              .ok (String.ofList (cuts.flatMap (filled es) ++ rest))⟩)
      ∧ ∀ before c after, cuts = before ++ c :: after → (∀ b ∈ before, saidAt es b = true) →
        saidAt es c = false →
        resolvePath template (.mapping (p := p) es)
          = ⟨before.flatMap (notices template es), .error (.refused .notWritten)⟩ := by
  obtain ⟨cuts, rest, cut⟩ := exists_cuts template.toList
  have names_eq := names_of_cuts cut
  refine ⟨cuts, rest, cut, fun _ _ other => cut.unique other, ?_, ?_⟩
  · intro all
    have all_names : ∀ n ∈ names template, said es n = true := by
      rw [names_eq, List.forall_mem_map]
      exact all
    rw [resolvePath_mapping, notices_of_cuts cut, substitute_of_cuts cut, saying_of_said all_names,
      List.takeWhile_eq_self_iff.mpr all]
    rfl
  · rintro before c after rfl front unsaid
    have some_unsaid : (names template).all (said es) = false := by
      rw [names_eq, List.all_eq_false]
      exact ⟨_, List.mem_map_of_mem (List.mem_append_right _ List.mem_cons_self),
        by rw [show said es (String.ofList c.name) = false from unsaid]; exact Bool.false_ne_true⟩
    rw [resolvePath_mapping, notices_of_cuts cut, List.takeWhile_append_of_pos front,
      List.takeWhile_cons_of_neg (by rw [unsaid]; exact Bool.false_ne_true), List.append_nil,
      saying, some_unsaid]
    rfl

/-- A value that is a token, and one that makes up a token with the text behind it, stay as they
are: `/{{a}/{}{c}b}/{b}` becomes `/{{b}/{}{b}/{b}`, and only the last token gives a notice. -/
example : resolvePath "/\x7b\x7ba\x7d/\x7b\x7d\x7bc\x7db\x7d/\x7bb\x7d" (.mapping (p := p) [
      (.str "a", .str "\x7bb\x7d"), (.str "b", .null), (.str "c", .str "\x7b")])
    = ⟨[.pathValueMissing "b" "/\x7b\x7ba\x7d/\x7b\x7d\x7bc\x7db\x7d/\x7bb\x7d"],
        .ok "/\x7b\x7bb\x7d/\x7b\x7d\x7bb\x7d/\x7bb\x7d"⟩ := by
  rfl

end ApiTools.Downstream
