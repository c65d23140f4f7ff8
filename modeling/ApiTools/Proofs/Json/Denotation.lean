/-
  ApiTools.Proofs.Json.Denotation
  ───────────────────────────────
  **WHAT IS READ IS SPELLED.**

  What the reader takes off a text spells the value that it gives.  The
  readers of values, items and members call each other with less fuel, so one
  induction on the fuel settles the three (`sound_readers`).  With acceptance
  this says what reading does with every text: it gives the value that the
  text holds (`readWhole_eq_ok_iff`), a text that it calls malformed holds
  none (`not_denotes_of_malformed`), and the only texts refused beside them
  have a run of more than 4300 digits or more opening brackets than levels may
  be entered (`overlong_of_readWhole`).  The fuel is never what an answer is due
  to (`readValue_eq_of_fuel`).  Octets give what their text gives
  (`readOctets_eq_ok_iff`, `rejected_of_readOctets`).
-/
import ApiTools.Json.Octets
import ApiTools.Proofs.Json.Acceptance

namespace ApiTools.Json

/-! ## §1. Characters of a string. -/

theorem step_ok_inj {α : Type} {a b : α} {cs ds : List Char}
    (h : (.ok (a, cs) : Step α) = .ok (b, ds)) : a = b ∧ cs = ds := by
  injection h with h
  exact Prod.mk.inj h

theorem exists_of_readUnit? {cs rest : List Char} {n : Nat} (h : readUnit? cs = some (n, rest)) :
    ∃ us, UnitDigits us n ∧ cs = us ++ rest ∧ rest ≠ [] := by
  unfold readUnit? at h
  split at h
  next a b c d e more =>
    simp only [Option.bind_eq_bind, Option.bind_eq_some_iff] at h
    obtain ⟨x, first, y, second, z, third, w, fourth, same⟩ := h
    injection same with same
    obtain ⟨rfl, rfl⟩ := Prod.mk.inj same
    exact ⟨[a, b, c, d], .mk first second third fourth, rfl, List.cons_ne_nil e more⟩
  next => exact absurd h (by simp)

/-- A half of a pair is read with the other one, if the string goes on with it. -/
theorem not_lowFollows_of_readUnicodeEscape {cs rest text more : List Char} {n : Nat}
    {p : Text.Point} {left : Nat} (read : readUnit? cs = some (n, rest))
    (high : isHighSurrogate n = true) (h : readUnicodeEscape left cs = .ok (p, rest))
    (goes_on : rest = text ++ '"' :: more) :
    ¬ LowFollows text := by
  rintro ⟨vs, m, others, rfl, second, low⟩
  have goes_on : rest = '\\' :: 'u' :: (vs ++ (others ++ '"' :: more)) := by
    rw [goes_on, List.cons_append, List.cons_append, List.append_assoc]
  rw [goes_on] at read h
  have after : readUnit? (vs ++ (others ++ '"' :: more)) = some (m, others ++ '"' :: more) := by
    cases others with
    | nil => exact readUnit?_append second '"' more
    | cons d others => exact readUnit?_append second d _
  -- the quote behind the second half leaves room for it
  have long : ¬ (vs ++ (others ++ '"' :: more)).length < 5 := by
    rw [List.length_append, second.length_eq, List.length_append, List.length_cons]
    omega
  -- so the reader would have gone past it, and more of the text would be taken
  rw [readUnicodeEscape_high left read high, if_neg long, after] at h
  dsimp only at h
  rw [if_pos low] at h
  have lengths := congrArg List.length (step_ok_inj h).2
  simp only [List.length_append, List.length_cons] at lengths
  omega

/-- The first half of a pair is read with the second one, or as a unit of its own. -/
theorem cases_of_high {cs rest more : List Char} {n : Nat} {p : Text.Point} {left : Nat}
    (read : readUnit? cs = some (n, '\\' :: 'u' :: more)) (high : isHighSurrogate n = true)
    (h : readUnicodeEscape left cs = .ok (p, rest)) :
    (rest = '\\' :: 'u' :: more ∧ p = unitPoint n)
      ∨ ∃ m, readUnit? more = some (m, rest) ∧ isLowSurrogate m = true
        ∧ p = .char (pairChar n m) := by
  rw [readUnicodeEscape_high left read high] at h
  split at h
  next =>
    obtain ⟨rfl, rfl⟩ := step_ok_inj h
    exact Or.inl ⟨rfl, rfl⟩
  next =>
    split at h
    next => exact absurd h (by simp)
    next m behind second =>
      split at h
      next low =>
        obtain ⟨rfl, rfl⟩ := step_ok_inj h
        exact Or.inr ⟨m, second, low, rfl⟩
      next =>
        obtain ⟨rfl, rfl⟩ := step_ok_inj h
        exact Or.inl ⟨rfl, rfl⟩

/-- An escape by number is that of a unit of its own, or of two halves of a pair. -/
theorem readUnicodeEscape_cases {cs rest : List Char} {p : Text.Point} {left : Nat}
    (h : readUnicodeEscape left cs = .ok (p, rest)) :
    (∃ us n, UnitDigits us n ∧ cs = us ++ rest ∧ p = unitPoint n
        ∧ ∀ text more, rest = text ++ '"' :: more → isHighSurrogate n = true → ¬ LowFollows text)
      ∨ ∃ us vs n m, UnitDigits us n ∧ UnitDigits vs m ∧ isHighSurrogate n = true
        ∧ isLowSurrogate m = true ∧ cs = us ++ '\\' :: 'u' :: (vs ++ rest)
        ∧ p = .char (pairChar n m) := by
  cases read : readUnit? cs with
  | none =>
      unfold readUnicodeEscape at h
      rw [read] at h
      exact absurd h (by simp)
  | some r =>
      obtain ⟨n, after⟩ := r
      obtain ⟨us, number, rfl, _⟩ := exists_of_readUnit? read
      -- a unit of its own leaves what stands after its digits
      have alone : rest = after → p = unitPoint n →
          (∃ us' n', UnitDigits us' n' ∧ us ++ after = us' ++ rest ∧ p = unitPoint n'
            ∧ ∀ text more, rest = text ++ '"' :: more → isHighSurrogate n' = true →
              ¬ LowFollows text) := by
        rintro rfl same
        exact ⟨us, n, number, rfl, same, fun text more goes_on high =>
          not_lowFollows_of_readUnicodeEscape read high h goes_on⟩
      by_cases pair : isHighSurrogate n = true ∧ ∃ more, after = '\\' :: 'u' :: more
      case pos =>
        obtain ⟨high, more, rfl⟩ := pair
        rcases cases_of_high read high h with ⟨same, point⟩ | ⟨m, second, low, point⟩
        · exact Or.inl (alone same point)
        · obtain ⟨vs, number', rfl, _⟩ := exists_of_readUnit? second
          exact Or.inr ⟨us, vs, n, m, number, number', high, low, rfl, point⟩
      case neg =>
        refine Or.inl ?_
        unfold readUnicodeEscape at h
        rw [read] at h
        dsimp only at h
        split at h
        next =>
          obtain ⟨point, same⟩ := step_ok_inj h
          exact alone same.symm point.symm
        next double =>
          have high : isHighSurrogate n = true := by simpa using double
          split at h
          next => exact absurd ⟨high, _, rfl⟩ pair
          next =>
            obtain ⟨point, same⟩ := step_ok_inj h
            exact alone same.symm point.symm

/-- **What is read up to a quote are characters.** -/
theorem exists_characters_of_readString {start fuel : Nat} {acc ps : List Text.Point}
    {cs rest : List Char} (h : readString start acc fuel cs = .ok (ps, rest)) :
    ∃ text qs, Characters text qs ∧ cs = text ++ '"' :: rest ∧ ps = acc.reverse ++ qs := by
  induction fuel generalizing acc cs with
  | zero => exact absurd h (by simp [readString])
  | succ fuel ih =>
      -- one character in front of what is read with less fuel
      have deeper : ∀ {p : Text.Point} {more : List Char},
          readString start (p :: acc) fuel more = .ok (ps, rest) →
          ∃ text qs, Characters text qs ∧ more = text ++ '"' :: rest
            ∧ ps = acc.reverse ++ p :: qs := by
        intro p more read
        obtain ⟨text, qs, characters, same, rfl⟩ := ih read
        refine ⟨text, qs, characters, same, ?_⟩
        rw [List.reverse_cons, List.append_assoc]
        rfl
      rw [readString.eq_def] at h
      dsimp only at h
      split at h
      next => exact absurd h (by simp)
      next =>
        obtain ⟨rfl, rfl⟩ := step_ok_inj h
        exact ⟨[], [], .nil, rfl, by rw [List.append_nil]⟩
      next => exact absurd h (by simp)
      next escape =>
        split at h
        next => exact absurd h (by simp)
        next p more read =>
          obtain ⟨text, qs, characters, rfl, same⟩ := deeper h
          rcases readUnicodeEscape_cases read with
            ⟨us, n, number, split, point, alone⟩
            | ⟨us, vs, n, m, first, second, high, low, split, point⟩
          · rw [split, same, point]
            refine ⟨_, _, .unit number (alone text rest rfl) characters, ?_, rfl⟩
            rw [List.cons_append, List.cons_append, List.append_assoc]
          · rw [split, same, point]
            refine ⟨_, _, .pair first second high low characters, ?_, rfl⟩
            simp only [List.cons_append, List.append_assoc]
      next c more _ _ =>
        split at h
        next d short =>
          obtain ⟨text, qs, characters, rfl, same⟩ := deeper h
          refine ⟨_, _, .short short characters, ?_, same⟩
          rw [List.cons_append, List.cons_append]
        next => exact absurd h (by simp)
      next c more quote _ _ two =>
        split at h
        next => exact absurd h (by simp)
        next fit =>
          obtain ⟨text, qs, characters, rfl, same⟩ := deeper h
          have backslash : c ≠ '\\' := by
            intro same_char
            cases text with
            | nil => exact two _ _ same_char rfl
            | cons d text => exact two _ _ same_char rfl
          exact ⟨_, _, .plain (Nat.not_lt.mp fit) quote backslash characters, rfl, same⟩

/-- A string is refused only for a character that is missing or out of place. -/
theorem exists_expected_of_readString {start fuel : Nat} {acc : List Text.Point} {cs : List Char}
    {e : Failure} (h : readString start acc fuel cs = .error e) :
    ∃ what left, e = .expected what left := by
  have escape : ∀ {left cs}, readUnicodeEscape left cs = .error e →
      ∃ what left, e = .expected what left := by
    intro left cs failed
    unfold readUnicodeEscape at failed
    repeat' split at failed
    all_goals first
      | exact ⟨_, _, (Except.error.inj failed).symm⟩
      | exact absurd failed (by simp)
  have expected : ∀ {what left},
      (.error (.expected what left) : Step (List Text.Point)) = .error e →
      ∃ what left, e = .expected what left := fun same => ⟨_, _, (Except.error.inj same).symm⟩
  induction fuel generalizing acc cs with
  | zero => exact expected h
  | succ fuel ih =>
      rw [readString.eq_def] at h
      dsimp only at h
      split at h
      next => exact expected h
      next => exact absurd h (by simp)
      next => exact expected h
      next =>
        split at h
        next failed =>
          injection h with same
          rw [same] at failed
          exact escape failed
        next => exact ih h
      next =>
        split at h
        next => exact ih h
        next => exact expected h
      next =>
        split at h
        next => exact expected h
        next => exact ih h

/-! ## §2. Numbers. -/

/-- A run that is not empty has been split off, or nothing has. -/
theorem digitRun_cases {cs ds rest : List Char} (h : digitRun cs = (ds, rest)) :
    cs = ds ++ rest ∧ (ds = [] ∨ Digits ds) := by
  rw [digitRun, List.span_eq_takeWhile_dropWhile] at h
  obtain ⟨rfl, rfl⟩ := Prod.mk.inj h
  refine ⟨List.takeWhile_append_dropWhile.symm, ?_⟩
  by_cases empty : cs.takeWhile Char.isDigit = []
  · exact Or.inl empty
  · exact Or.inr ⟨empty, fun d mem => List.mem_takeWhile_imp mem⟩

theorem wholePart_of_wholePart? {cs ds rest : List Char} (h : wholePart? cs = some (ds, rest)) :
    WholePart ds ∧ cs = ds ++ rest := by
  unfold wholePart? at h
  split at h
  next =>
    injection h with h
    obtain ⟨rfl, rfl⟩ := Prod.mk.inj h
    refine ⟨⟨⟨List.cons_ne_nil _ _, ?_⟩, fun _ => rfl⟩, rfl⟩
    intro d mem
    rw [List.mem_singleton.mp mem]
    decide
  next other =>
    split at h
    next => exact absurd h (by simp)
    next filled =>
      injection h with read
      obtain ⟨rfl, empty | run⟩ := digitRun_cases read
      · exact (filled rest (by rw [read, empty])).elim
      · refine ⟨⟨run, fun zero => ?_⟩, rfl⟩
        obtain ⟨d, others, rfl, _⟩ := run.exists_cons
        exact (other (others ++ rest) (by rw [← Option.some.inj zero]; rfl)).elim

theorem exists_fractionPart {cs fs rest : List Char} (h : fractionPart cs = (fs, rest)) :
    ∃ part, FractionPart part fs ∧ cs = part ++ rest := by
  unfold fractionPart at h
  split at h
  next more =>
    split at h
    next =>
      obtain ⟨rfl, rfl⟩ := Prod.mk.inj h
      exact ⟨[], .absent, rfl⟩
    next filled =>
      obtain ⟨rfl, empty | run⟩ := digitRun_cases h
      · exact (filled rest (by rw [h, empty])).elim
      · exact ⟨_, .present run, rfl⟩
  next =>
    obtain ⟨rfl, rfl⟩ := Prod.mk.inj h
    exact ⟨[], .absent, rfl⟩

theorem splitSign_cases {cs body : List Char} {minus : Bool}
    (h : Number.splitSign cs = (minus, body)) :
    (cs = '+' :: body ∧ minus = false) ∨ (cs = '-' :: body ∧ minus = true)
      ∨ (cs = body ∧ minus = false) := by
  unfold Number.splitSign at h
  split at h
  next =>
    obtain ⟨rfl, rfl⟩ := Prod.mk.inj h
    exact Or.inl ⟨rfl, rfl⟩
  next =>
    obtain ⟨rfl, rfl⟩ := Prod.mk.inj h
    exact Or.inr (Or.inl ⟨rfl, rfl⟩)
  next =>
    obtain ⟨rfl, rfl⟩ := Prod.mk.inj h
    exact Or.inr (Or.inr ⟨rfl, rfl⟩)

theorem exists_exponentPart {cs rest : List Char} {e : Option Int}
    (h : exponentPart cs = (e, rest)) : ∃ power, ExponentPart power e ∧ cs = power ++ rest := by
  unfold exponentPart at h
  split at h
  next c more =>
    split at h
    next letter =>
      split at h
      next minus body sign =>
        split at h
        next =>
          obtain ⟨rfl, rfl⟩ := Prod.mk.inj h
          exact ⟨[], .absent, rfl⟩
        next ds after filled read =>
          obtain ⟨rfl, rfl⟩ := Prod.mk.inj h
          obtain ⟨rfl, empty | run⟩ := digitRun_cases read
          · rw [empty] at read
            exact absurd empty filled
          · rcases splitSign_cases sign with ⟨rfl, rfl⟩ | ⟨rfl, rfl⟩ | ⟨rfl, rfl⟩
            · exact ⟨_, .plus letter run, rfl⟩
            · exact ⟨_, .minus letter run, rfl⟩
            · exact ⟨_, .unsigned letter run, rfl⟩
    next =>
      obtain ⟨rfl, rfl⟩ := Prod.mk.inj h
      exact ⟨[], .absent, rfl⟩
  next =>
    obtain ⟨rfl, rfl⟩ := Prod.mk.inj h
    exact ⟨[], .absent, rfl⟩

/-- A run of that many digits stands in a text. -/
def HasRun (n : Nat) (cs : List Char) : Prop :=
  ∃ before ds after, cs = before ++ (ds ++ after) ∧ Digits ds ∧ ds.length = n

theorem HasRun.append_left {n : Nat} {cs : List Char} (h : HasRun n cs) (before : List Char) :
    HasRun n (before ++ cs) := by
  obtain ⟨earlier, ds, after, rfl, run, length⟩ := h
  exact ⟨before ++ earlier, ds, after, by rw [List.append_assoc], run, length⟩

/-- How many brackets that open a level stand in a text. -/
def openings (cs : List Char) : Nat := cs.countP fun c => c == '[' || c == '{'

/-- What may be held against a text: that something is missing or out of place, or a run of too many
digits, or more brackets than levels may be entered. -/
inductive Excused (nesting : Nat) (cs : List Char) : Failure → Prop
  | expected {what : Expectation} {left : Nat} : Excused nesting cs (.expected what left)
  | long {n : Nat} (long : Number.digitLimit < n) (run : HasRun n cs) :
      Excused nesting cs (.tooManyDigits n)
  | deep (more : nesting < openings cs) : Excused nesting cs .tooDeep

theorem Excused.append_left {nesting : Nat} {cs : List Char} {e : Failure}
    (h : Excused nesting cs e) (before : List Char) : Excused nesting (before ++ cs) e := by
  cases h with
  | expected => exact .expected
  | long long run => exact .long long (run.append_left before)
  | deep more =>
      refine .deep (Nat.lt_of_lt_of_le more ?_)
      rw [openings, openings, List.countP_append]
      exact Nat.le_add_left _ _

/-- Skipped blanks hide nothing. -/
theorem Excused.of_skipBlanks {nesting : Nat} {cs : List Char} {e : Failure}
    (h : Excused nesting (skipBlanks cs) e) : Excused nesting cs e := by
  obtain ⟨ws, _, split⟩ := exists_blank_append cs
  rw [split]
  exact h.append_left ws

/-- A bracket in front gives a level more. -/
theorem Excused.bracket {nesting : Nat} {cs : List Char} {e : Failure} {c : Char}
    (opening : c = '[' ∨ c = '{') (h : Excused nesting cs e) :
    Excused (nesting + 1) (c :: cs) e := by
  cases h with
  | expected => exact .expected
  | long long run => exact .long long (run.append_left [c])
  | deep more =>
      refine .deep ?_
      rw [openings, List.countP_cons_of_pos (by simpa using opening)]
      exact Nat.succ_lt_succ more

/-- What a reader is allowed to do with a text: take off a text that spells the value which it
gives, or refuse it for what may be held against it. -/
structure Sound (nesting : Nat) (r : Step Value) (cs : List Char) : Prop where
  spelled : ∀ {v rest}, r = .ok (v, rest) →
    ∃ text, cs = text ++ rest ∧ Spells shortEnough nesting text v
  refused : ∀ {e}, r = .error e → Excused nesting cs e

section Sound

variable {nesting : Nat} {cs text rest : List Char} {v : Value}

theorem Sound.of_spelled (split : cs = text ++ rest) (spelled : Spells shortEnough nesting text v) :
    Sound nesting (.ok (v, rest)) cs where
  spelled := by
    intro w after same
    obtain ⟨rfl, rfl⟩ := step_ok_inj same
    exact ⟨text, split, spelled⟩
  refused := fun same => absurd same (by simp)

theorem Sound.of_excused {e : Failure} (excused : Excused nesting cs e) :
    Sound nesting (.error e) cs where
  spelled := fun same => absurd same (by simp)
  refused := by
    rintro _ ⟨⟩
    exact excused

end Sound

/-- A number is taken apart into its parts, unless there is none. -/
theorem readNumber_cases (cs : List Char) :
    readNumber cs = .error (.expected .value cs.length)
      ∨ ∃ minus ds part fs power e rest, WholePart ds ∧ FractionPart part fs
        ∧ ExponentPart power e ∧ cs = signed minus (ds ++ (part ++ (power ++ rest)))
        ∧ readNumber cs
          = if fs.isEmpty && e.isNone then
              if Number.digitLimit < ds.length then .error (.tooManyDigits ds.length)
              else .ok (.int (if minus then -(numberOf (ds ++ fs) : Int) else numberOf (ds ++ fs)),
                rest)
            else .ok (.float (Double.ofDecimal minus (numberOf (ds ++ fs)) (e.getD 0 - fs.length)),
              rest) := by
  unfold readNumber
  split
  next minus body sign =>
    have taken : cs = signed minus body := by
      split at sign
      next =>
        obtain ⟨rfl, rfl⟩ := Prod.mk.inj sign
        rfl
      next =>
        obtain ⟨rfl, rfl⟩ := Prod.mk.inj sign
        rfl
    cases whole : wholePart? body with
    | none => exact Or.inl rfl
    | some run =>
        obtain ⟨ds, rest⟩ := run
        obtain ⟨part_ds, rfl⟩ := wholePart_of_wholePart? whole
        cases fraction : fractionPart rest with
        | mk fs middle =>
            obtain ⟨part, part_fs, rfl⟩ := exists_fractionPart fraction
            cases exponent : exponentPart middle with
            | mk e after =>
                obtain ⟨power, part_e, rfl⟩ := exists_exponentPart exponent
                refine Or.inr ⟨minus, ds, part, fs, power, e, after, part_ds, part_fs, part_e,
                  taken, ?_⟩
                dsimp only
                rw [fraction]
                dsimp only
                rw [exponent]
                rfl

theorem sound_readNumber (nesting : Nat) (cs : List Char) :
    Sound nesting (readNumber cs) cs := by
  rcases readNumber_cases cs with
    failed | ⟨minus, ds, part, fs, power, e, rest, whole, fraction, exponent, rfl, read⟩
  · rw [failed]
    exact .of_excused .expected
  rw [read]
  by_cases marked : fs ≠ [] ∨ e ≠ none
  case pos =>
    have decimal : ¬ (fs.isEmpty && e.isNone) = true := by
      rw [Bool.and_eq_true, List.isEmpty_iff, Option.isNone_iff_eq_none, not_and_or]
      exact marked
    rw [if_neg decimal]
    refine .of_spelled ?_ (.decimal minus whole fraction exponent marked)
    cases minus <;> simp [signed]
  case neg =>
    rw [not_or, not_not, not_not] at marked
    obtain ⟨rfl, rfl⟩ := marked
    -- without digits behind a point and without a power there is neither point nor letter
    have no_part : part = [] := by
      cases fraction with
      | absent => rfl
      | present run => exact absurd rfl run.ne_nil
    have no_power : power = [] := by
      cases exponent with
      | absent => rfl
    subst no_part no_power
    simp only [List.isEmpty_nil, Option.isNone_none, Bool.and_self, if_true, List.append_nil,
      List.nil_append]
    split
    next long =>
      have run : HasRun ds.length (ds ++ rest) := ⟨[], ds, rest, rfl, whole.toDigits, rfl⟩
      refine .of_excused (.long long ?_)
      cases minus with
      | true => exact run.append_left ['-']
      | false => exact run
    next short =>
      refine .of_spelled ?_ (.whole minus whole (Nat.not_lt.mp short))
      cases minus <;> rfl

/-! ## §3. Values. -/

/-- A text is items with commas between and what follows the list, and the list has their values
behind those that have been read. -/
def HasItems (nesting : Nat) (read : List Value) (text rest : List Char) (v : Value) : Prop :=
  ∃ items : List Item, items ≠ [] ∧ (∀ i ∈ items, i.Padded)
    ∧ (∀ i ∈ items, Spells shortEnough nesting i.text i.value)
    ∧ text = commaJoined (items.map Item.whole) ++ ']' :: rest
    ∧ v = .list (read.reverse ++ items.map Item.value)

theorem HasItems.single {nesting : Nat} {read : List Value} {i : Item} (padded : i.Padded)
    (spelled : Spells shortEnough nesting i.text i.value) (rest : List Char) :
    HasItems nesting read (i.whole ++ ']' :: rest) rest (.list (i.value :: read).reverse) := by
  refine ⟨[i], List.cons_ne_nil _ _, ?_, ?_, ?_, ?_⟩
  · exact List.forall_mem_singleton.mpr padded
  · exact List.forall_mem_singleton.mpr spelled
  · rw [List.map_singleton, commaJoined_singleton]
  · rw [List.reverse_cons]
    rfl

theorem HasItems.cons {nesting : Nat} {read : List Value} {i : Item} {text rest : List Char}
    {v : Value} (padded : i.Padded) (spelled : Spells shortEnough nesting i.text i.value)
    (h : HasItems nesting (i.value :: read) text rest v) :
    HasItems nesting read (i.whole ++ ',' :: text) rest v := by
  obtain ⟨items, ne_nil, all_padded, all_spelled, rfl, rfl⟩ := h
  refine ⟨i :: items, List.cons_ne_nil _ _, ?_, ?_, ?_, ?_⟩
  · exact List.forall_mem_cons.mpr ⟨padded, all_padded⟩
  · exact List.forall_mem_cons.mpr ⟨spelled, all_spelled⟩
  · rw [List.map_cons, commaJoined_cons _ (by simpa using ne_nil), List.append_assoc]
    rfl
  · rw [List.reverse_cons, List.append_assoc]
    rfl

/-- A text is members with commas between and what follows the mapping, and the mapping has their
entries stored over those that have been read. -/
def HasMembers (nesting : Nat) (read : Entries) (text rest : List Char) (v : Value) : Prop :=
  ∃ members : List Member, members ≠ [] ∧ (∀ m ∈ members, m.Padded)
    ∧ (∀ m ∈ members, Spells shortEnough nesting m.text m.value)
    ∧ text = commaJoined (members.map Member.whole) ++ '}' :: rest
    ∧ v = .mapping (p := none)
      ((members.map Member.entry).foldl (fun es e => Entries.insert e.1 e.2 es) read)

theorem HasMembers.single {nesting : Nat} {read : Entries} {m : Member} (padded : m.Padded)
    (spelled : Spells shortEnough nesting m.text m.value) (rest : List Char) :
    HasMembers nesting read (m.whole ++ '}' :: rest) rest
      (.mapping (p := none) (Entries.insert (.ofPoints m.key) m.value read)) := by
  refine ⟨[m], List.cons_ne_nil _ _, ?_, ?_, ?_, rfl⟩
  · exact List.forall_mem_singleton.mpr padded
  · exact List.forall_mem_singleton.mpr spelled
  · rw [List.map_singleton, commaJoined_singleton]

theorem HasMembers.cons {nesting : Nat} {read : Entries} {m : Member} {text rest : List Char}
    {v : Value} (padded : m.Padded) (spelled : Spells shortEnough nesting m.text m.value)
    (h : HasMembers nesting (Entries.insert (.ofPoints m.key) m.value read) text rest v) :
    HasMembers nesting read (m.whole ++ ',' :: text) rest v := by
  obtain ⟨members, ne_nil, all_padded, all_spelled, rfl, rfl⟩ := h
  refine ⟨m :: members, List.cons_ne_nil _ _, ?_, ?_, ?_, rfl⟩
  · exact List.forall_mem_cons.mpr ⟨padded, all_padded⟩
  · exact List.forall_mem_cons.mpr ⟨spelled, all_spelled⟩
  · rw [List.map_cons, commaJoined_cons _ (by simpa using ne_nil), List.append_assoc]
    rfl

/-- What the readers of values, items and members may do with a text in which blanks may have been
skipped in front. -/
structure SoundReaders (fuel : Nat) : Prop where
  value : ∀ nesting cs, Sound nesting (readValue fuel nesting cs) cs
  items : ∀ {nesting acc cs v rest}, readItems fuel nesting acc cs = .ok (v, rest) →
    ∀ {ws}, Blank ws → HasItems nesting acc (ws ++ cs) rest v
  items_refused : ∀ {nesting acc cs e}, readItems fuel nesting acc cs = .error e →
    Excused nesting cs e
  members : ∀ {nesting acc cs v rest}, readMembers fuel nesting acc cs = .ok (v, rest) →
    ∀ {ws}, Blank ws → HasMembers nesting acc (ws ++ cs) rest v
  members_refused : ∀ {nesting acc cs e}, readMembers fuel nesting acc cs = .error e →
    Excused nesting cs e

theorem mem_words_of_readWord? {cs rest : List Char} {v : Value}
    (h : readWord? cs = some (v, rest)) : ∃ text, (text, v) ∈ words ∧ cs = text ++ rest := by
  rw [readWord?, Option.map_eq_some_iff] at h
  obtain ⟨⟨text, w⟩, found, same⟩ := h
  obtain ⟨rfl, rfl⟩ := Prod.mk.inj same
  have starts := List.find?_some found
  obtain ⟨tail, rfl⟩ := List.isPrefixOf_iff_prefix.mp starts
  exact ⟨text, List.mem_of_find?_eq_some found, by rw [List.drop_left]⟩

/-- A bracket that must not be entered is one too many. -/
theorem Sound.of_closed {c : Char} (opening : c = '[' ∨ c = '{') (inside : List Char) :
    Sound 0 (.error .tooDeep) (c :: inside) := by
  refine .of_excused (.deep ?_)
  rw [openings, List.countP_cons_of_pos (by simpa using opening)]
  exact Nat.succ_pos _

/-- A value: it is told by its first character what it is. -/
theorem SoundReaders.value_succ {fuel : Nat} (ih : SoundReaders fuel) (nesting : Nat)
    (cs : List Char) : Sound nesting (readValue (fuel + 1) nesting cs) cs := by
  rw [readValue.eq_def]
  dsimp only
  split
  next quoted =>
    cases read : readString ('"' :: quoted).length [] ('"' :: quoted).length quoted with
    | error e =>
        obtain ⟨what, left, rfl⟩ := exists_expected_of_readString read
        exact .of_excused .expected
    | ok r =>
        obtain ⟨ps, after⟩ := r
        obtain ⟨text, qs, characters, rfl, rfl⟩ := exists_characters_of_readString read
        exact .of_spelled (by simp) (.string characters)
  next inside =>
    -- behind the bracket and blanks the list ends at once, or has items
    split
    next => exact .of_closed (Or.inl rfl) inside
    next nesting =>
      obtain ⟨ws, blank, split⟩ := exists_blank_append inside
      split
      next after closed =>
        refine .of_spelled ?_ (.emptyList blank)
        rw [split, closed]
        simp
      next =>
        constructor
        case spelled =>
          intro v rest h
          obtain ⟨items, ne_nil, padded, spelled, same, rfl⟩ := ih.items h blank
          refine ⟨_, ?_, .list ne_nil padded spelled⟩
          rw [split, same]
          simp
        case refused => exact fun h => (ih.items_refused h).of_skipBlanks.bracket (Or.inl rfl)
  next inside =>
    -- and so has a mapping members
    split
    next => exact .of_closed (Or.inr rfl) inside
    next nesting =>
      obtain ⟨ws, blank, split⟩ := exists_blank_append inside
      split
      next after closed =>
        refine .of_spelled ?_ (.emptyMapping blank)
        rw [split, closed]
        simp
      next =>
        constructor
        case spelled =>
          intro v rest h
          obtain ⟨members, ne_nil, padded, spelled, same, rfl⟩ := ih.members h blank
          refine ⟨_, ?_, .mapping ne_nil padded spelled⟩
          rw [split, same]
          simp
        case refused => exact fun h => (ih.members_refused h).of_skipBlanks.bracket (Or.inr rfl)
  next =>
    split
    next word found =>
      obtain ⟨v, rest⟩ := word
      obtain ⟨text, mem, same⟩ := mem_words_of_readWord? found
      exact .of_spelled same (.word mem)
    next => exact sound_readNumber nesting cs

/-- Items: one of them, and the others after a comma. -/
theorem SoundReaders.items_succ {fuel nesting : Nat} (ih : SoundReaders fuel) {acc : List Value}
    {cs rest ws : List Char} {v : Value} (h : readItems (fuel + 1) nesting acc cs = .ok (v, rest))
    (blank : Blank ws) : HasItems nesting acc (ws ++ cs) rest v := by
  rw [readItems] at h
  split at h
  next => exact absurd h (by simp)
  next first after read =>
    obtain ⟨text, rfl, spelled⟩ := (ih.value nesting cs).spelled read
    obtain ⟨us, blank_us, split⟩ := exists_blank_append after
    have padded : (⟨ws, text, us, first⟩ : Item).Padded := ⟨blank, blank_us⟩
    have whole : ws ++ (text ++ after)
        = (⟨ws, text, us, first⟩ : Item).whole ++ skipBlanks after := by
      conv_lhs => rw [split]
      simp only [Item.whole, List.append_assoc]
    rw [whole]
    split at h
    next closed =>
      obtain ⟨rfl, rfl⟩ := step_ok_inj h
      rw [closed]
      exact .single padded spelled _
    next more next_item =>
      obtain ⟨vs, blank_vs, split'⟩ := exists_blank_append more
      rw [next_item, split']
      exact .cons padded spelled (ih.items h blank_vs)
    next => exact absurd h (by simp)

/-- What is out of place. -/
theorem Excused.of_expected {nesting left : Nat} {cs : List Char} {what : Expectation} {e : Failure}
    (same : (.error (.expected what left) : Step Value) = .error e) : Excused nesting cs e := by
  injection same with same
  subst same
  exact .expected

theorem SoundReaders.items_refused_succ {fuel nesting : Nat} (ih : SoundReaders fuel)
    {acc : List Value} {cs : List Char} {e : Failure}
    (h : readItems (fuel + 1) nesting acc cs = .error e) : Excused nesting cs e := by
  rw [readItems] at h
  split at h
  next failed =>
    injection h with h
    rw [h] at failed
    exact (ih.value nesting cs).refused failed
  next first after read =>
    obtain ⟨text, rfl, _⟩ := (ih.value nesting cs).spelled read
    split at h
    next => exact absurd h (by simp)
    next more next_item =>
      have here : Excused nesting (skipBlanks after) e := by
        rw [next_item]
        exact (ih.items_refused h).of_skipBlanks.append_left [',']
      exact here.of_skipBlanks.append_left text
    next => exact .of_expected h

/-- A name, a colon and the text of a value are a member, with the blanks around them. -/
theorem exists_member_of_parts {ws name after_name after_colon text after : List Char}
    {key : List Text.Point} (blank : Blank ws) (characters : Characters name key)
    (colon : skipBlanks after_name = ':' :: after_colon)
    (value : skipBlanks after_colon = text ++ after) (v : Value) :
    ∃ m : Member, m.Padded ∧ m.text = text ∧ m.value = v ∧ m.key = key
      ∧ ws ++ '"' :: (name ++ '"' :: after_name) = m.whole ++ skipBlanks after := by
  obtain ⟨us, blank_us, split⟩ := exists_blank_append after_name
  obtain ⟨vs, blank_vs, split'⟩ := exists_blank_append after_colon
  obtain ⟨ts, blank_ts, split''⟩ := exists_blank_append after
  refine ⟨⟨⟨vs, text, ts, v⟩, ws, name, us, key⟩,
    ⟨⟨blank_vs, blank_ts⟩, blank, blank_us, characters⟩, rfl, rfl, rfl, ?_⟩
  rw [split, colon, split', value]
  conv_lhs => rw [split'']
  simp [Member.whole, Item.whole]

/-- Members: one of them, and the others after a comma. -/
theorem SoundReaders.members_succ {fuel nesting : Nat} (ih : SoundReaders fuel) {acc : Entries}
    {cs rest ws : List Char} {v : Value} (h : readMembers (fuel + 1) nesting acc cs = .ok (v, rest))
    (blank : Blank ws) : HasMembers nesting acc (ws ++ cs) rest v := by
  rw [readMembers.eq_def] at h
  dsimp only at h
  split at h
  next quoted =>
    split at h
    next => exact absurd h (by simp)
    next key after_name read_name =>
      obtain ⟨name, ps, characters, rfl, rfl⟩ := exists_characters_of_readString read_name
      split at h
      next after_colon colon =>
        split at h
        next => exact absurd h (by simp)
        next first after read =>
          obtain ⟨text, value, spelled⟩ := (ih.value nesting _).spelled read
          obtain ⟨m, padded, rfl, rfl, rfl, whole⟩ :=
            exists_member_of_parts blank characters colon value first
          rw [whole]
          split at h
          next closed =>
            obtain ⟨rfl, rfl⟩ := step_ok_inj h
            rw [closed]
            exact .single padded spelled _
          next more next_member =>
            obtain ⟨qs, blank_qs, split_more⟩ := exists_blank_append more
            rw [next_member, split_more]
            exact .cons padded spelled (ih.members h blank_qs)
          next => exact absurd h (by simp)
      next => exact absurd h (by simp)
  next => exact absurd h (by simp)

theorem SoundReaders.members_refused_succ {fuel nesting : Nat} (ih : SoundReaders fuel)
    {acc : Entries} {cs : List Char} {e : Failure}
    (h : readMembers (fuel + 1) nesting acc cs = .error e) : Excused nesting cs e := by
  rw [readMembers.eq_def] at h
  dsimp only at h
  split at h
  next quoted =>
    split at h
    next failed =>
      injection h with h
      rw [h] at failed
      obtain ⟨what, left, rfl⟩ := exists_expected_of_readString failed
      exact .expected
    next key after_name read_name =>
      obtain ⟨name, ps, _, rfl, _⟩ := exists_characters_of_readString read_name
      -- what is held against the text after the colon is held against the whole text
      have outwards : ∀ {after_colon}, skipBlanks after_name = ':' :: after_colon →
          Excused nesting (skipBlanks after_colon) e →
          Excused nesting ('"' :: (name ++ '"' :: after_name)) e := by
        intro after_colon colon excused
        have here : Excused nesting (skipBlanks after_name) e := by
          rw [colon]
          exact excused.of_skipBlanks.append_left [':']
        exact ((here.of_skipBlanks.append_left ['"']).append_left name).append_left ['"']
      split at h
      next after_colon colon =>
        split at h
        next failed =>
          injection h with h
          rw [h] at failed
          exact outwards colon ((ih.value nesting _).refused failed)
        next first after read =>
          obtain ⟨text, text_eq, _⟩ := (ih.value nesting _).spelled read
          split at h
          next => exact absurd h (by simp)
          next more next_member =>
            have here : Excused nesting (skipBlanks after) e := by
              rw [next_member]
              exact (ih.members_refused h).of_skipBlanks.append_left [',']
            refine outwards colon ?_
            rw [text_eq]
            exact here.of_skipBlanks.append_left text
          next => exact .of_expected h
      next => exact .of_expected h
  next => exact .of_expected h

/-- **The readers are sound**, whatever their fuel. -/
theorem sound_readers (fuel : Nat) : SoundReaders fuel := by
  induction fuel with
  | zero =>
      constructor
      case value =>
        intro nesting cs
        rw [readValue]
        exact .of_excused .expected
      case items =>
        intro nesting acc cs v rest h
        exact absurd h (by simp [readItems])
      case items_refused => exact fun h => .of_expected h
      case members =>
        intro nesting acc cs v rest h
        exact absurd h (by simp [readMembers])
      case members_refused => exact fun h => .of_expected h
  | succ fuel ih =>
      constructor
      case value => exact ih.value_succ
      case items => exact fun h _ blank => ih.items_succ h blank
      case items_refused => exact ih.items_refused_succ
      case members => exact fun h _ blank => ih.members_succ h blank
      case members_refused => exact ih.members_refused_succ

/-! ### Fuel. -/

theorem length_skipBlanks_le (cs : List Char) : (skipBlanks cs).length ≤ cs.length :=
  (List.dropWhile_sublist isBlank).length_le

/-- A value takes something off a text. -/
theorem length_lt_of_readValue {fuel nesting : Nat} {cs rest : List Char} {v : Value}
    (h : readValue fuel nesting cs = .ok (v, rest)) : rest.length < cs.length := by
  obtain ⟨text, rfl, spelled⟩ := ((sound_readers fuel).value nesting cs).spelled h
  obtain ⟨c, others, rfl, _⟩ := spelled.exists_cons
  rw [List.length_append, List.length_cons]
  omega

theorem length_lt_of_readString {start fuel : Nat} {acc ps : List Text.Point} {cs rest : List Char}
    (h : readString start acc fuel cs = .ok (ps, rest)) : rest.length < cs.length := by
  obtain ⟨text, _, _, rfl, _⟩ := exists_characters_of_readString h
  rw [List.length_append, List.length_cons]
  omega

/-- What some fuel gives, all fuel gives that is enough for the length of the text: two of it for
every character that may open a level. -/
structure Steady (fuel : Nat) : Prop where
  value : ∀ fuel' {nesting cs}, 2 * cs.length < fuel → 2 * cs.length < fuel' →
    readValue fuel nesting cs = readValue fuel' nesting cs
  items : ∀ fuel' {nesting acc cs}, 2 * cs.length + 1 < fuel → 2 * cs.length + 1 < fuel' →
    readItems fuel nesting acc cs = readItems fuel' nesting acc cs
  members : ∀ fuel' {nesting acc cs}, 2 * cs.length + 1 < fuel → 2 * cs.length + 1 < fuel' →
    readMembers fuel nesting acc cs = readMembers fuel' nesting acc cs

section Steady

variable {fuel fuel' nesting : Nat} {cs : List Char} (ih : Steady fuel)

include ih

theorem Steady.value_succ (enough : 2 * cs.length < fuel + 1)
    (enough' : 2 * cs.length < fuel' + 1) :
    readValue (fuel + 1) nesting cs = readValue (fuel' + 1) nesting cs := by
  rw [readValue.eq_def, readValue.eq_def]
  dsimp only
  split
  next => rfl
  next inside =>
    have shorter := length_skipBlanks_le inside
    rw [List.length_cons] at enough enough'
    split
    next => rfl
    next =>
      split
      next => rfl
      next => exact ih.items fuel' (by omega) (by omega)
  next inside =>
    have shorter := length_skipBlanks_le inside
    rw [List.length_cons] at enough enough'
    split
    next => rfl
    next =>
      split
      next => rfl
      next => exact ih.members fuel' (by omega) (by omega)
  next => rfl

theorem Steady.items_succ {acc : List Value} (enough : 2 * cs.length + 1 < fuel + 1)
    (enough' : 2 * cs.length + 1 < fuel' + 1) :
    readItems (fuel + 1) nesting acc cs = readItems (fuel' + 1) nesting acc cs := by
  rw [readItems, readItems, ih.value fuel' (by omega) (by omega)]
  split
  next => rfl
  next first after read =>
    have shorter := length_lt_of_readValue read
    split
    next => rfl
    next more next_item =>
      have le := length_skipBlanks_le after
      have le' := length_skipBlanks_le more
      rw [next_item, List.length_cons] at le
      exact ih.items fuel' (by omega) (by omega)
    next => rfl

theorem Steady.members_succ {acc : Entries} (enough : 2 * cs.length + 1 < fuel + 1)
    (enough' : 2 * cs.length + 1 < fuel' + 1) :
    readMembers (fuel + 1) nesting acc cs = readMembers (fuel' + 1) nesting acc cs := by
  rw [readMembers.eq_def, readMembers.eq_def]
  dsimp only
  split
  next quoted =>
    rw [List.length_cons] at enough enough'
    split
    next => rfl
    next name after_name read_name =>
      have shorter_name := length_lt_of_readString read_name
      have le_name := length_skipBlanks_le after_name
      split
      next after_colon colon =>
        have le_colon := length_skipBlanks_le after_colon
        rw [colon, List.length_cons] at le_name
        rw [ih.value fuel' (by omega) (by omega)]
        split
        next => rfl
        next first after read =>
          have shorter := length_lt_of_readValue read
          split
          next => rfl
          next more next_member =>
            have le := length_skipBlanks_le after
            have le' := length_skipBlanks_le more
            rw [next_member, List.length_cons] at le
            exact ih.members fuel' (by omega) (by omega)
          next => rfl
      next => rfl
  next => rfl

end Steady

theorem steady (fuel : Nat) : Steady fuel := by
  induction fuel with
  | zero =>
      constructor
      case value => exact fun _ _ _ enough _ => absurd enough (Nat.not_lt_zero _)
      case items => exact fun _ _ _ _ enough _ => absurd enough (Nat.not_lt_zero _)
      case members => exact fun _ _ _ _ enough _ => absurd enough (Nat.not_lt_zero _)
  | succ fuel ih =>
      have positive : ∀ {n fuel' : Nat}, n < fuel' → ∃ k, fuel' = k + 1 := fun {n fuel'} lt =>
        Nat.exists_eq_succ_of_ne_zero (Nat.ne_zero_of_lt lt)
      constructor
      case value =>
        intro fuel' nesting cs enough enough'
        obtain ⟨k, rfl⟩ := positive enough'
        exact ih.value_succ enough enough'
      case items =>
        intro fuel' nesting acc cs enough enough'
        obtain ⟨k, rfl⟩ := positive enough'
        exact ih.items_succ enough enough'
      case members =>
        intro fuel' nesting acc cs enough enough'
        obtain ⟨k, rfl⟩ := positive enough'
        exact ih.members_succ enough enough'

/-- **More fuel than a text needs changes nothing**: neither the value nor where a complaint points
to. -/
theorem readValue_eq_of_fuel {fuel nesting : Nat} {cs : List Char}
    (enough : fuelFor cs.length ≤ fuel) :
    readValue fuel nesting cs = readValue (fuelFor cs.length) nesting cs :=
  (steady fuel).value _ (by unfold fuelFor at enough; omega) (by unfold fuelFor; omega)

/-! ## §4. Whole texts. -/

section Texts

variable {nesting : Nat} {text : List Char} {v : Value}

theorem denotes_of_readWhole (h : readWhole nesting text = .ok v) :
    Denotes shortEnough nesting text v := by
  unfold readWhole at h
  split at h
  next w all =>
    injection h with h
    subst h
    unfold readAll at all
    split at all
    next => exact absurd all (by simp)
    next u rest read =>
      obtain ⟨inner, text_eq, spelled⟩ := ((sound_readers _).value nesting _).spelled read
      obtain ⟨ws, blank, split⟩ := exists_blank_append text
      obtain ⟨us, blank_us, split_rest⟩ := exists_blank_append rest
      split at all
      next nothing =>
        injection all with all
        subst all
        refine ⟨⟨ws, inner, us, u⟩, ⟨blank, blank_us⟩, spelled, ?_⟩
        rw [Item.whole, split, text_eq, split_rest, nothing, List.append_nil]
      next => exact absurd all (by simp)
  next => exact absurd h (by simp)
  next => exact absurd h (by simp)
  next => exact absurd h (by simp)

/-- **READING GIVES THE VALUE THAT A TEXT HOLDS.** -/
theorem readWhole_eq_ok_iff :
    readWhole nesting text = .ok v ↔ Denotes shortEnough nesting text v :=
  ⟨denotes_of_readWhole, readWhole_eq_ok_of_denotes⟩

/-- **A text that is called malformed holds no value**, with whole numbers of any length and on any
number of levels. -/
theorem not_denotes_of_malformed {m : Malformed} {levels : Nat}
    (h : readWhole nesting text = .error (.malformed m)) : ¬ Denotes anyLength levels text v := by
  intro denotes
  have given := answers_readWhole denotes nesting
  rw [h] at given
  cases given

/-- What may be held against a whole text that is not malformed. -/
inductive Overlong (nesting : Nat) (text : List Char) : Problem → Prop
  | malformed {m : Malformed} : Overlong nesting text (.malformed m)
  | long {n : Nat} (long : Number.digitLimit < n) (run : HasRun n text) :
      Overlong nesting text (.tooManyDigits n)
  | deep (more : nesting < openings text) : Overlong nesting text .tooDeep

theorem excused_of_readAll {e : Failure} (h : readAll nesting text = .error e) :
    Excused nesting text e := by
  unfold readAll at h
  split at h
  next failed =>
    injection h with h
    subst h
    exact (((sound_readers _).value nesting _).refused failed).of_skipBlanks
  next =>
    split at h
    next => exact absurd h (by simp)
    next =>
      injection h with h
      subst h
      exact .expected

/-- **A text that is refused without being malformed** has a run of too many digits, or more
brackets than levels may be entered. -/
theorem overlong_of_readWhole {p : Problem} (h : readWhole nesting text = .error p) :
    Overlong nesting text p := by
  unfold readWhole at h
  split at h
  next => exact absurd h (by simp)
  next all =>
    injection h with h
    subst h
    cases excused_of_readAll all with
    | long long run => exact .long long run
  next all =>
    injection h with h
    subst h
    cases excused_of_readAll all with
    | deep more => exact .deep more
  next =>
    injection h with h
    subst h
    exact .malformed

end Texts

/-! ## §5. Octets. -/

section Octets

variable {nesting : Nat} {octets : List UInt8} {v : Value} {f : Fault}

/-- The octets are a text that holds a value. -/
def Holds (fits : Nat → Prop) (levels : Nat) (octets : List UInt8) (v : Value) : Prop :=
  ∃ cs, Text.decodeDetected octets = .ok cs ∧ Denotes fits levels cs v

/-- **Why octets give no value**: they are no text, or their text holds no value, or a run of digits
in it is longer than the reader takes, or it has more brackets than levels may be entered. -/
inductive Rejected (nesting : Nat) (octets : List UInt8) : Fault → Prop
  | undecodable {u : Text.Undecodable} (coding : Text.decodeDetected octets = .error u) :
      Rejected nesting octets (.undecodable u)
  | malformed {m : Malformed} (none : ∀ levels v, ¬ Holds anyLength levels octets v) :
      Rejected nesting octets (.malformedJson m)
  | tooLong {cs : List Char} {n : Nat} (decoded : Text.decodeDetected octets = .ok cs)
      (long : Number.digitLimit < n) (run : HasRun n cs) :
      Rejected nesting octets (.refused (.tooManyDigits n))
  | tooDeep {cs : List Char} (decoded : Text.decodeDetected octets = .ok cs)
      (more : nesting < openings cs) : Rejected nesting octets .tooDeep

theorem readOctets_eq_ok_iff :
    readOctets nesting octets = .ok v ↔ Holds shortEnough nesting octets v := by
  unfold readOctets Holds
  cases Text.decodeDetected octets with
  | error u => simp
  | ok cs =>
      have read : readWhole nesting cs = .ok v ↔ Denotes shortEnough nesting cs v :=
        readWhole_eq_ok_iff
      dsimp only
      cases outcome : readWhole nesting cs with
      | ok w => simpa [outcome] using read
      | error p => simpa [outcome] using read

theorem rejected_of_readOctets (h : readOctets nesting octets = .error f) :
    Rejected nesting octets f := by
  unfold readOctets at h
  split at h
  next u coding =>
    injection h with h
    subst h
    exact .undecodable coding
  next cs decoded =>
    split at h
    next => exact absurd h (by simp)
    next p failed =>
      injection h with h
      subst h
      cases overlong_of_readWhole failed with
      | malformed =>
          refine .malformed fun levels v holds => ?_
          obtain ⟨ds, decoded', denotes⟩ := holds
          rw [decoded] at decoded'
          injection decoded' with same
          subst same
          exact not_denotes_of_malformed failed denotes
      | long long run => exact .tooLong decoded long run
      | deep more => exact .tooDeep decoded more

end Octets

end ApiTools.Json
