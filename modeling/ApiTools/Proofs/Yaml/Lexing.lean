/-
  ApiTools.Proofs.Yaml.Lexing
  ───────────────────────────
  **THE LEXER GOES FORWARD AND REFUSES ONE THING.**

  A cursor that a reader gives back stands in the same text (`Within`), and
  what a reader refuses is an escape by number that is beyond the last
  character (`Beyond`); all else that is wrong is malformed.  The rules of
  `Settles` carry both through the readers, from single scalars to the whole
  lexer: a token is broken by a refusal only if such an escape stands in the
  text (`beyond_of_broken`).
-/
import ApiTools.Yaml.Lexer
import Mathlib.Data.List.InsertIdx

namespace ApiTools.Yaml

/-! ## §1. Outcomes. -/

section Outcomes

variable {α β : Type} {faults : Fault → Prop} {P : α → Prop} {Q : β → Prop}

/-- What is known of an outcome: something of the result, and something of the fault if it is a
refusal. -/
def Settles (faults : Fault → Prop) (P : α → Prop) : Except Problem α → Prop
  | .ok a => P a
  | .error .malformed => True
  | .error (.refused f) => faults f

theorem Settles.malformed : Settles faults P (.error .malformed) := trivial

theorem Settles.mono {P' : α → Prop} {x : Except Problem α} (h : Settles faults P x)
    (le : ∀ a, P a → P' a) : Settles faults P' x := by
  cases x with
  | ok a => exact le a h
  | error p => cases p <;> exact h

/-- The failure of a part is one of the whole. -/
theorem Settles.failed {x : Except Problem α} {p : Problem} (h : Settles faults P x)
    (failed : x = .error p) : Settles faults Q (.error p) := by
  subst failed
  cases p <;> exact h

theorem Settles.result {x : Except Problem α} {a : α} (h : Settles faults P x)
    (done : x = .ok a) : P a := by
  subst done
  exact h

theorem Settles.bind {x : Except Problem α} {f : α → Except Problem β} (h : Settles faults P x)
    (next : ∀ a, P a → Settles faults Q (f a)) : Settles faults Q (x >>= f) := by
  cases x with
  | ok a => exact next a h
  | error p => cases p <;> exact h

theorem Settles.map {x : Except Problem α} {f : α → β} (h : Settles faults P x)
    (next : ∀ a, P a → Q (f a)) : Settles faults Q (x.map f) := by
  cases x with
  | ok a => exact next a h
  | error p => cases p <;> exact h

theorem Settles.ite {c : Prop} [Decidable c] {x y : Except Problem α} (h : Settles faults P x)
    (h' : Settles faults P y) : Settles faults P (if c then x else y) := by
  split
  · exact h
  · exact h'

end Outcomes

/-! ## §2. Cursors in a text. -/

/-- **A text asks for a character that does not exist**: it has an escape by a number beyond the
last one. -/
inductive Beyond (text : List Char) : Fault → Prop
  | mk {letter : Char} {digits rest : List Char} {f : Fault}
      (here : '\\' :: letter :: (digits ++ rest) <:+ text)
      (width : escapeWidth? letter = some digits.length)
      (hexadecimal : digits.all isHexDigit = true) (beyond : 0x110000 ≤ hexNumber digits)
      (cause : f = .numberTooLarge ∨ f = .refused .noSuchCharacter) : Beyond text f

section Cursors

variable {text : List Char} {c : Cursor}

namespace Cursor

/-- A cursor stands in a text. -/
def Within (text : List Char) (c : Cursor) : Prop := c.rest <:+ text

theorem rest_next (c : Cursor) : c.next.rest = c.rest.tail := by
  unfold next
  split
  next none => rw [none]; rfl
  next some =>
    rw [some]
    split <;> rfl

theorem Within.next (h : Within text c) : Within text c.next := by
  unfold Within
  rw [rest_next]
  exact (List.tail_suffix c.rest).trans h

theorem Within.skip (n : Nat) (h : Within text c) : Within text (skip n c) := by
  induction n generalizing c with
  | zero => exact h
  | succ n ih => exact ih h.next

theorem Within.takeWhile (p : Char → Bool) (h : Within text c) :
    Within text (takeWhile p c).2 := h.skip _

theorem Within.skipWhile (p : Char → Bool) (h : Within text c) : Within text (c.skipWhile p) :=
  h.takeWhile p

theorem Within.skipComment (h : Within text c) : Within text c.skipComment := by
  unfold Cursor.skipComment
  split
  · exact h.skipWhile _
  · exact h

theorem Within.lineBreak (h : Within text c) : Within text c.lineBreak.2 := by
  unfold Cursor.lineBreak
  split
  next => exact h.skip 2
  next =>
    split_ifs
    · exact h.next
    · exact h.next
    · exact h
  next => exact h

theorem Within.skipToToken (fuel : Nat) (broke : Bool) (h : Within text c) :
    Within text (skipToToken fuel broke c).2 := by
  induction fuel generalizing broke c with
  | zero => exact h
  | succ fuel ih =>
      have line := (h.skipWhile (· == ' ')).skipComment.lineBreak
      unfold Cursor.skipToToken
      dsimp only
      split
      next same =>
        rw [same] at line
        exact line
      next same =>
        rw [same] at line
        exact ih true line

theorem settles_skipLineEnd (h : Within text c) :
    Settles (Beyond text) (Within text) c.skipLineEnd := by
  unfold skipLineEnd
  dsimp only
  split
  · exact (h.skipWhile _).skipComment.lineBreak
  · exact .malformed

end Cursor

open Cursor (Within)

/-- A reader stays in the text, and refuses no more than it may. -/
def Reads {α : Type} (text : List Char) (r : Read α) : Prop :=
  Settles (Beyond text) (fun a => Within text a.2) r

/-! ## §3. Scalars. -/

theorem reads_quotedBreaks (fuel : Nat) (acc : List Char) (h : Within text c) :
    Reads text (quotedBreaks fuel acc c) := by
  induction fuel generalizing acc c with
  | zero => exact h
  | succ fuel ih =>
      have line := (h.skipWhile isSpace).lineBreak
      unfold quotedBreaks
      split
      · exact .malformed
      · split
        next same =>
          rw [same] at line
          exact line
        next same =>
          rw [same] at line
          exact ih _ line

theorem cause_of_numberedChar {n : Nat} {p : Problem} (h : numberedChar n = .error p) :
    0x110000 ≤ n ∧ ∃ f, p = .refused f ∧ (f = .numberTooLarge ∨ f = .refused .noSuchCharacter) := by
  unfold numberedChar at h
  split at h
  next large =>
    injection h with h
    exact ⟨by omega, _, h.symm, Or.inl rfl⟩
  next =>
    split at h
    next large =>
      injection h with h
      exact ⟨large, _, h.symm, Or.inr rfl⟩
    next => exact absurd h (by simp)

/-- The cursor of an escape is behind a backslash. -/
theorem reads_escape (h : Within text c) (back : '\\' :: c.rest <:+ text) :
    Reads text (escape c) := by
  unfold escape
  split
  next => exact .malformed
  next letter rest start =>
    split
    next => exact h.next
    next width _ is_width =>
      dsimp only
      split
      next fit =>
        split
        next => exact h.skip _
        next p failed =>
          obtain ⟨beyond, f, rfl, cause⟩ := cause_of_numberedChar failed
          rw [start, ← List.take_append_drop width rest] at back
          refine Beyond.mk back ?_ fit.2 beyond cause
          rw [fit.1]
          exact is_width
      next => exact .malformed
    next =>
      split
      next => exact reads_quotedBreaks _ _ h.lineBreak
      next => exact .malformed

theorem reads_quotedSpaces (h : Within text c) : Reads text (quotedSpaces c) := by
  have line := (h.takeWhile isSpace).lineBreak
  unfold quotedSpaces
  dsimp only
  split
  · exact .malformed
  · split
    next same =>
      rw [same] at line
      exact line
    next same =>
      rw [same] at line
      split
      next done =>
        have inside := (reads_quotedBreaks _ [] line).result done
        exact inside
      next failed => exact (reads_quotedBreaks _ [] line).failed failed

theorem reads_quotedStep (double : Bool) (h : Within text c) : Reads text (quotedStep double c) := by
  unfold quotedStep
  dsimp only
  split
  next => exact .malformed
  next ch rest start =>
    have wrapped : ∀ {r : Read (List Char)}, Reads text r →
        Reads text (r.map fun a => (some a.1, a.2)) := fun h => h.map fun _ inside => inside
    split_ifs
    · exact wrapped (reads_quotedSpaces h)
    · exact h.next
    next backslash =>
      refine wrapped (reads_escape h.next ?_)
      rw [Cursor.rest_next, start, ← backslash]
      unfold Within at h
      rwa [start] at h
    · exact h.next
    · exact h.skip 2
    · exact h.next
    · exact h.next

theorem reads_quotedText (double : Bool) (fuel : Nat) (acc : List Char) (h : Within text c) :
    Reads text (quotedText double fuel acc c) := by
  induction fuel generalizing acc c with
  | zero => exact .malformed
  | succ fuel ih =>
      have step := reads_quotedStep double h
      unfold quotedText
      split
      next failed => exact step.failed failed
      next done => exact step.result done
      next done => exact ih _ (step.result done)

theorem reads_quotedScalar (double : Bool) (h : Within text c) :
    Reads text (quotedScalar double c) := reads_quotedText double _ [] h.next

theorem within_plainBreaks (fuel : Nat) (acc : List Char) (h : Within text c) :
    Within text (plainBreaks fuel acc c).2 := by
  induction fuel generalizing acc c with
  | zero => exact h
  | succ fuel ih =>
      have line := (h.skipWhile (· == ' ')).lineBreak
      unfold plainBreaks
      split
      · exact h
      · split
        next same =>
          rw [same] at line
          exact line
        next same =>
          rw [same] at line
          exact ih _ line

theorem within_plainSpaces (h : Within text c) : Within text (plainSpaces c).2.2 := by
  have line := (h.takeWhile (· == ' ')).lineBreak
  unfold plainSpaces
  dsimp only
  split
  next same =>
    rw [same] at line
    exact line
  next after _ same =>
    rw [same] at line
    have breaks := within_plainBreaks (after.rest.length + 1) [] line
    split
    next same' =>
      rw [same'] at breaks
      exact breaks
    next same' =>
      rw [same'] at breaks
      exact breaks

theorem within_plainText (inFlow : Bool) (indent : Int) (fuel : Nat) (acc spaces : List Char)
    (broke : Bool) (h : Within text c) :
    Within text (plainText inFlow indent fuel acc spaces broke c).2.2 := by
  induction fuel generalizing acc spaces broke c with
  | zero => exact h
  | succ fuel ih =>
      unfold plainText
      dsimp only
      generalize (if c.at? '#' then 0 else wordLength inFlow c.rest) = n
      have behind := within_plainSpaces (h.skip n)
      split
      · exact h
      · split
        · exact behind
        · exact ih _ _ _ behind

theorem within_plainScalar (inFlow : Bool) (indent : Int) (h : Within text c) :
    Within text (plainScalar inFlow indent c).2.2 := within_plainText inFlow indent _ [] [] false h

theorem within_chompingSign (h : Within text c) : Within text (chompingSign c).2 := by
  unfold chompingSign
  split
  · exact h.next
  · exact h.next
  · exact h

theorem reads_indentDigit (h : Within text c) : Reads text (indentDigit c) := by
  unfold indentDigit
  split
  next =>
    split_ifs
    · exact .malformed
    · exact h.next
    · exact h
  next => exact h

theorem reads_blockHeader (h : Within text c) : Reads text (blockHeader c) := by
  unfold blockHeader
  dsimp only
  refine (reads_indentDigit (within_chompingSign h)).bind fun digit behind => ?_
  have inside : Within text (if (chompingSign c).1.isNone && digit.1.isSome then
      chompingSign digit.2 else (none, digit.2)).2 := by
    split
    · exact within_chompingSign behind
    · exact behind
  generalize (if (chompingSign c).1.isNone && digit.1.isSome then
      chompingSign digit.2 else (none, digit.2)) = second at inside ⊢
  split
  · exact (Cursor.settles_skipLineEnd inside).bind fun _ behind => behind
  · exact .malformed

theorem within_blockIndentation (fuel : Nat) (breaks : List Char) (deepest : Nat)
    (h : Within text c) : Within text (blockIndentation fuel breaks deepest c).2 := by
  induction fuel generalizing breaks deepest c with
  | zero => exact h
  | succ fuel ih =>
      have line := (h.skipWhile (· == ' ')).lineBreak
      unfold blockIndentation
      dsimp only
      split
      next same =>
        rw [same] at line
        exact line
      next same =>
        rw [same] at line
        exact ih _ _ line

theorem within_blockBreaks (indent fuel : Nat) (breaks : List Char) (h : Within text c) :
    Within text (blockBreaks indent fuel breaks c).2 := by
  induction fuel generalizing breaks c with
  | zero => exact h
  | succ fuel ih =>
      have line : Within text (skipIndent indent c).lineBreak.2 := Within.lineBreak (h.skip _)
      unfold blockBreaks
      split
      next same =>
        rw [same] at line
        exact line
      next same =>
        rw [same] at line
        exact ih _ line

theorem within_blockLines (folds : Bool) (indent fuel : Nat) (p : BlockProgress)
    (h : Within text c) : Within text (blockLines folds indent fuel p c).2 := by
  induction fuel generalizing p c with
  | zero => exact h
  | succ fuel ih =>
      unfold blockLines
      dsimp only
      have behind := within_blockBreaks indent
        ((c.takeWhile fun ch => !isBreak ch).2.lineBreak.2.rest.length + 1) []
        (h.takeWhile fun ch => !isBreak ch).lineBreak
      split
      · exact h
      · split
        · exact ih _ behind
        · exact behind

theorem reads_blockScalar (folds : Bool) (least : Nat) (h : Within text c) :
    Reads text (blockScalar folds least c) := by
  unfold blockScalar
  refine (reads_blockHeader h).bind fun header behind => ?_
  obtain ⟨⟨chomping, digit⟩, c⟩ := header
  dsimp only at behind ⊢
  cases digit with
  | none => exact within_blockLines _ _ _ _ (within_blockIndentation _ _ _ behind)
  | some d => exact within_blockLines _ _ _ _ (within_blockBreaks _ _ _ behind)

/-! ## §4. Directives and properties. -/

theorem reads_escapedOctets (fuel : Nat) (acc : List UInt8) (h : Within text c) :
    Reads text (Lexer.escapedOctets fuel acc c) := by
  induction fuel generalizing acc c with
  | zero => exact h
  | succ fuel ih =>
      unfold Lexer.escapedOctets
      split
      · split_ifs
        · exact ih _ (h.skip 3)
        · exact .malformed
      · exact .malformed
      · exact h

theorem reads_tagChars (fuel : Nat) (acc : List Char) (h : Within text c) :
    Reads text (Lexer.tagChars fuel acc c) := by
  induction fuel generalizing acc c with
  | zero => exact h
  | succ fuel ih =>
      have plain := h.takeWhile fun ch => Lexer.isTagChar ch && ch != '%'
      unfold Lexer.tagChars
      dsimp only
      split
      · split
        next failed => exact (reads_escapedOctets _ [] plain).failed failed
        next done =>
          have behind := (reads_escapedOctets _ [] plain).result done
          split
          · exact .malformed
          · exact ih _ behind
      · exact plain

theorem reads_tagText (h : Within text c) : Reads text (Lexer.tagText c) := by
  unfold Lexer.tagText
  split
  next failed => exact (reads_tagChars _ [] h).failed failed
  next done =>
    have behind := (reads_tagChars _ [] h).result done
    split
    · exact .malformed
    · exact behind

theorem reads_tagHandle (h : Within text c) : Reads text (Lexer.tagHandle c) := by
  unfold Lexer.tagHandle
  dsimp only
  split_ifs
  · exact .malformed
  · exact h.next
  · exact (h.next.takeWhile _).next
  · exact .malformed

theorem reads_versionNumber (h : Within text c) : Reads text (Lexer.versionNumber c) := by
  unfold Lexer.versionNumber
  dsimp only
  split
  · exact .malformed
  · exact h.takeWhile _

/-- A reader of a token, which is not a broken one. -/
def ReadsToken (text : List Char) (r : Except Problem (Token × Cursor)) : Prop :=
  Settles (Beyond text) (fun a => Within text a.2 ∧ ∀ p, a.1 ≠ .broken p) r

theorem readsToken_versionDirective (h : Within text c) :
    ReadsToken text (Lexer.versionDirective c) := by
  unfold Lexer.versionDirective
  refine (reads_versionNumber (h.skipWhile _)).bind fun major behind => ?_
  dsimp only
  split
  · exact .malformed
  · refine (reads_versionNumber behind.next).bind fun minor behind => ?_
    split
    · exact ⟨behind, by simp⟩
    · exact .malformed

theorem readsToken_tagDirective (h : Within text c) :
    ReadsToken text (Lexer.tagDirective c) := by
  unfold Lexer.tagDirective
  refine (reads_tagHandle (h.skipWhile _)).bind fun handle behind => ?_
  dsimp only
  split
  · exact .malformed
  · refine (reads_tagText (behind.skipWhile _)).bind fun expansion behind => ?_
    split
    · exact ⟨behind, by simp⟩
    · exact .malformed

theorem readsToken_directive (h : Within text c) : ReadsToken text (Lexer.directive c) := by
  have name := h.next.takeWhile Lexer.isNameChar
  -- whatever the directive is, its line has to end
  have ended : ∀ {r}, ReadsToken text r →
      ReadsToken text (r >>= fun t => t.2.skipLineEnd >>= fun c => .ok (t.1, c)) :=
    fun known => known.bind fun _ behind =>
      (Cursor.settles_skipLineEnd behind.1).bind fun _ inside => ⟨inside, behind.2⟩
  unfold Lexer.directive
  dsimp only
  split
  · exact .malformed
  · split
    · exact ended (readsToken_versionDirective name)
    · exact ended (readsToken_tagDirective name)
    · exact ended (r := .ok _) ⟨name.skipWhile _, by simp⟩

theorem reads_anchorName (h : Within text c) : Reads text (Lexer.anchorName c) := by
  unfold Lexer.anchorName
  dsimp only
  split_ifs
  · exact .malformed
  · exact h.next.takeWhile _
  · exact .malformed

theorem readsToken_tag (h : Within text c) : ReadsToken text (Lexer.tag c) := by
  -- whatever the tag is, its word has to end
  have ended : ∀ {r}, ReadsToken text r → ReadsToken text
      (r >>= fun t => if endsPart t.2.rest then .ok (t.1, t.2) else .error .malformed) := by
    refine fun known => known.bind fun t behind => ?_
    split
    · exact behind
    · exact .malformed
  unfold Lexer.tag
  dsimp only
  split_ifs
  · refine (reads_tagText h.next.next).bind fun name behind => ?_
    split
    · exact ended (r := .ok _) ⟨behind.next, by simp⟩
    · exact .malformed
  · exact ended (r := .ok _) ⟨h.next, by simp⟩
  · refine (reads_tagHandle h).bind fun handle behind => ?_
    exact (reads_tagText behind).bind fun name behind => ended (r := .ok _) ⟨behind, by simp⟩
  · exact (reads_tagText h.next).bind fun name behind => ended (r := .ok _) ⟨behind, by simp⟩

/-! ## §5. Steps. -/

namespace Lexer

open Cursor (Within)

namespace State

/-- A state of the lexer whose cursor stands in the text, with whole tokens so far. -/
structure Fine (text : List Char) (s : State) : Prop where
  within : Within text s.cursor
  whole : ∀ p, Token.broken p ∉ s.tokens

variable {s : State}

theorem Fine.push {t : Token} (h : Fine text s) (whole : ∀ p, t ≠ .broken p) :
    Fine text (s.push t) where
  within := h.within
  whole := fun p mem => (List.mem_cons.mp mem).elim (fun same => whole p same.symm) (h.whole p)

theorem Fine.pushAt {t : Token} (place : Nat) (h : Fine text s) (whole : ∀ p, t ≠ .broken p) :
    Fine text (s.pushAt place t) where
  within := h.within
  whole := fun p mem => (List.eq_or_mem_of_mem_insertIdx mem).elim
    (fun same => whole p same.symm) (h.whole p)

theorem Fine.pushOver {t : Token} (length : Nat) (h : Fine text s) (whole : ∀ p, t ≠ .broken p) :
    Fine text (s.pushOver length t) where
  within := h.within.skip length
  whole := (h.push whole).whole

/-- The rest of a state does not matter. -/
theorem Fine.of_eq {s' : State} (h : Fine text s) (cursor : s'.cursor = s.cursor)
    (tokens : s'.tokens = s.tokens) : Fine text s' := by
  constructor
  case within =>
    rw [cursor]
    exact h.within
  case whole =>
    rw [tokens]
    exact h.whole

theorem Fine.allowKey (b : Bool) (h : Fine text s) : Fine text (s.allowKey b) := h.of_eq rfl rfl

theorem Fine.dropKeyStart (h : Fine text s) : Fine text s.dropKeyStart := h.of_eq rfl rfl

theorem Fine.openBlock (column : Int) (h : Fine text s) : Fine text (s.openBlock column).2 := by
  unfold State.openBlock
  split
  · exact h.of_eq rfl rfl
  · exact h

theorem Fine.closeFrom (column : Int) (indents : List Int) (h : Fine text s) :
    Fine text (s.closeFrom column indents) := by
  induction indents generalizing s with
  | nil => exact h
  | cons outer indents ih =>
      unfold State.closeFrom
      split
      · have inner : Fine text { s with indent := outer, indents } := h.of_eq rfl rfl
        exact ih (inner.push (by simp))
      · exact h

theorem Fine.closeBlocks (column : Int) (h : Fine text s) : Fine text (s.closeBlocks column) := by
  unfold State.closeBlocks
  split
  · exact h
  · exact h.closeFrom _ _

theorem Fine.giveUpKey (h : Fine text s) : Settles (Beyond text) (Fine text) s.giveUpKey := by
  unfold State.giveUpKey
  split
  · split
    · exact .malformed
    · exact h.dropKeyStart
  · exact h

theorem Fine.noteKeyStart (h : Fine text s) :
    Settles (Beyond text) (Fine text) s.noteKeyStart := by
  unfold State.noteKeyStart
  split
  · exact h.giveUpKey.bind fun _ fine => fine.of_eq rfl rfl
  · exact h

theorem Fine.dropStale (h : Fine text s) : Settles (Beyond text) (Fine text) s.dropStale := by
  unfold State.dropStale
  split
  · exact .malformed
  · exact h.of_eq rfl rfl

/-- A token that a reader has read is taken, with the cursor behind it. -/
theorem Fine.take {t : Token} {c : Cursor} (h : Fine text s) (within : Within text c)
    (whole : ∀ p, t ≠ .broken p) :
    Fine text { (s.allowKey false).push t with cursor := c } where
  within := within
  whole := (h.push whole).whole

end State

open State (Fine)

variable {s : State}

/-- A step keeps a state fine, and refuses no more than it may. -/
abbrev Keeps (text : List Char) (r : Step) : Prop := Settles (Beyond text) (Fine text) r

theorem keeps_endStep (h : Fine text s) : Keeps text (endStep s) :=
  (h.closeBlocks (-1)).giveUpKey.bind fun _ fine => fine.push (by simp)

theorem keeps_outerStep {read : Cursor → Except Problem (Token × Cursor)}
    (token : ∀ {c}, Within text c → ReadsToken text (read c)) (h : Fine text s) :
    Keeps text (outerStep read s) := by
  refine (h.closeBlocks (-1)).giveUpKey.bind fun s fine => ?_
  exact (token fine.within).bind fun t behind => fine.take behind.1 behind.2

theorem keeps_markStep {t : Token} (whole : ∀ p, t ≠ .broken p) (h : Fine text s) :
    Keeps text (markStep t s) :=
  keeps_outerStep (fun within => ⟨within.skip 3, whole⟩) h

theorem keeps_openStep {t : Token} (whole : ∀ p, t ≠ .broken p) (h : Fine text s) :
    Keeps text (openStep t s) := by
  refine h.noteKeyStart.bind fun s fine => ?_
  have deeper : Fine text { s.allowKey true with flowLevel := s.flowLevel + 1 } :=
    fine.of_eq rfl rfl
  exact deeper.pushOver 1 whole

theorem keeps_closeStep {t : Token} (whole : ∀ p, t ≠ .broken p) (h : Fine text s) :
    Keeps text (closeStep t s) := by
  refine h.giveUpKey.bind fun s fine => ?_
  split
  · exact .malformed
  · have shallower : Fine text { s.allowKey false with flowLevel := s.flowLevel - 1 } :=
      fine.of_eq rfl rfl
    exact shallower.pushOver 1 whole

theorem keeps_commaStep (h : Fine text s) : Keeps text (commaStep s) :=
  (h.allowKey true).giveUpKey.bind fun _ fine => fine.pushOver 1 (by simp)

theorem keeps_entryStep (h : Fine text s) : Keeps text (entryStep s) := by
  have ended : ∀ {s}, Fine text s →
      Keeps text ((s.allowKey true).giveUpKey >>= fun s => .ok (s.pushOver 1 .blockEntry)) :=
    fun fine => (fine.allowKey true).giveUpKey.bind fun _ fine => fine.pushOver 1 (by simp)
  unfold entryStep
  split_ifs
  · exact ended h
  · exact .malformed
  · have opened := h.openBlock s.column
    refine ended ?_
    dsimp only
    split
    · exact opened.push (by simp)
    · exact opened

theorem keeps_mappingStep {t : Token} (whole : ∀ p, t ≠ .broken p) (h : Fine text s) :
    Keeps text (mappingStep t s) := by
  have ended : ∀ {s}, Fine text s →
      Keeps text ((s.allowKey (!s.inFlow)).giveUpKey >>= fun s => .ok (s.pushOver 1 t)) :=
    fun fine => (fine.allowKey _).giveUpKey.bind fun _ fine => fine.pushOver 1 whole
  unfold mappingStep
  split_ifs
  · exact ended h
  · exact .malformed
  · have opened := h.openBlock s.column
    refine ended ?_
    dsimp only
    split
    · exact opened.push (by simp)
    · exact opened

theorem keeps_valueStep (h : Fine text s) : Keeps text (valueStep s) := by
  unfold valueStep
  split
  next => exact keeps_mappingStep (by simp) h
  next k _ =>
    have keyed : Fine text (s.dropKeyStart.pushAt k.token .key) :=
      h.dropKeyStart.pushAt k.token (by simp)
    dsimp only
    split
    · exact (keyed.allowKey false).pushOver 1 (by simp)
    · have opened := keyed.openBlock k.column
      split
      · exact ((opened.pushAt k.token (by simp)).allowKey false).pushOver 1 (by simp)
      · exact (opened.allowKey false).pushOver 1 (by simp)

theorem keeps_nodeStep {read : Cursor → Except Problem (Token × Cursor)}
    (token : ∀ {c}, Within text c → ReadsToken text (read c)) (h : Fine text s) :
    Keeps text (nodeStep read s) :=
  h.noteKeyStart.bind fun _ fine =>
    (token fine.within).bind fun _ behind => fine.take behind.1 behind.2

theorem readsToken_named {make : String → Token} (whole : ∀ name p, make name ≠ .broken p)
    {read : Cursor → Read String} (reads : ∀ {c}, Within text c → Reads text (read c))
    (h : Within text c) : ReadsToken text (named make read c) :=
  (reads h).map fun _ behind => ⟨behind, whole _⟩

theorem keeps_blockStep (folds : Bool) (h : Fine text s) : Keeps text (blockStep folds s) := by
  refine (h.allowKey true).giveUpKey.bind fun s fine => ?_
  refine (reads_blockScalar folds _ fine.within.next).bind fun block behind => ?_
  exact ⟨behind, (fine.push (t := .scalar block.1 false) (by simp)).whole⟩

theorem keeps_plainStep (h : Fine text s) : Keeps text (plainStep s) :=
  h.noteKeyStart.bind fun s fine =>
    ⟨within_plainScalar _ _ fine.within,
      (fine.push (t := .scalar (plainScalar s.inFlow (s.indent + 1) s.cursor).1 true)
        (by simp)).whole⟩

theorem keeps_stepAt (ch : Char) (rest : List Char) (h : Fine text s) :
    Keeps text (stepAt ch rest s) := by
  unfold stepAt
  dsimp only
  refine .ite (keeps_outerStep readsToken_directive h) ?_
  refine .ite (keeps_markStep (by simp) h) ?_
  refine .ite (keeps_markStep (by simp) h) ?_
  refine .ite (keeps_openStep (by simp) h) ?_
  refine .ite (keeps_openStep (by simp) h) ?_
  refine .ite (keeps_closeStep (by simp) h) ?_
  refine .ite (keeps_closeStep (by simp) h) ?_
  refine .ite (keeps_commaStep h) ?_
  refine .ite (keeps_entryStep h) ?_
  refine .ite (keeps_mappingStep (by simp) h) ?_
  refine .ite (keeps_valueStep h) ?_
  refine .ite (keeps_nodeStep (readsToken_named (by simp) reads_anchorName) h) ?_
  refine .ite (keeps_nodeStep (readsToken_named (by simp) reads_anchorName) h) ?_
  refine .ite (keeps_nodeStep readsToken_tag h) ?_
  refine .ite (keeps_blockStep false h) ?_
  refine .ite (keeps_blockStep true h) ?_
  refine .ite (keeps_nodeStep (readsToken_named (by simp) (reads_quotedScalar false)) h) ?_
  refine .ite (keeps_nodeStep (readsToken_named (by simp) (reads_quotedScalar true)) h) ?_
  refine .ite (keeps_plainStep h) ?_
  exact .malformed

theorem settles_step (h : Fine text s) :
    Settles (Beyond text) (fun a => Fine text a.2) (step s) := by
  have found := h.within.skipToToken (s.cursor.rest.length + 1) false
  unfold step
  dsimp only
  have moved := h.of_eq rfl rfl
  refine Settles.bind (P := Fine text) (State.Fine.dropStale ⟨found, h.whole⟩) fun s fine => ?_
  have closed := fine.closeBlocks s.column
  split
  · exact (keeps_endStep closed).map fun _ fine => fine
  · exact (keeps_stepAt _ _ closed).map fun _ fine => fine

/-! ## §6. Tokens. -/

/-- **A token is broken by a refusal only if the text asks for a character that does not exist.** -/
theorem beyond_of_run {fuel : Nat} {f : Fault} (h : Fine text s)
    (broken : Token.broken (.refused f) ∈ run fuel s) : Beyond text f := by
  -- no token of a fine state is broken, so the broken one is that of the step that failed
  induction fuel generalizing s with
  | zero =>
      rcases List.mem_cons.mp broken with same | mem
      · exact absurd same (by simp)
      · exact absurd mem (h.whole _)
  | succ fuel ih =>
      have stepped := settles_step h
      unfold run at broken
      split at broken
      next p failed =>
        rcases List.mem_cons.mp broken with same | mem
        · injection same with same
          rw [failed, ← same] at stepped
          exact stepped
        · exact absurd mem (h.whole _)
      next s' done =>
        rw [done] at stepped
        exact absurd broken (stepped.whole _)
      next s' done =>
        rw [done] at stepped
        exact ih stepped broken

theorem beyond_of_broken {text : List Char} {f : Fault}
    (broken : Token.broken (.refused f) ∈ tokens text) : Beyond text f := by
  have start : Fine text (State.start text) :=
    ⟨List.suffix_refl text, fun _ mem => absurd mem List.not_mem_nil⟩
  unfold tokens at broken
  dsimp only at broken
  rw [List.mem_reverse] at broken
  split at broken
  · have behind_mark : Fine text { State.start text with cursor := (State.start text).cursor.next } :=
      ⟨start.within.next, start.whole⟩
    exact beyond_of_run behind_mark broken
  · exact beyond_of_run start broken

end Lexer

end Cursors

end ApiTools.Yaml
