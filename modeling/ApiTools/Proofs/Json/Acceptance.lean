/-
  ApiTools.Proofs.Json.Acceptance
  ───────────────────────────────
  **WHAT IS SPELLED IS READ.**

  The reader takes a text that spells a value off the front of any text that
  cannot prolong it (`Ends`), and gives the value — unless it meets a whole
  number that is too long, or more levels than it may enter (`Gives`).  The
  lemmas follow the grammar: the
  characters of a string, the parts of a number, items and members, values.
  Fuel suffices since every step takes a character of the text that is
  spelled.

  Main results: `gives_readValue` for a value with text after it, and
  `readWhole_of_denotes` for a whole text.
-/
import ApiTools.Proofs.Json.Grammar

namespace ApiTools.Json

/-! ## §1. Runs. -/

theorem span_append {p : Char → Bool} {cs rest : List Char} (all : ∀ c ∈ cs, p c = true)
    (stop : ∀ c ∈ rest.head?, p c = false) : (cs ++ rest).span p = (cs, rest) := by
  have stays : rest.takeWhile p = [] ∧ rest.dropWhile p = rest := by
    cases rest with
    | nil => exact ⟨rfl, rfl⟩
    | cons c rest =>
        have out := stop c rfl
        exact ⟨List.takeWhile_cons_of_neg (by rw [out]; exact Bool.false_ne_true),
          List.dropWhile_cons_of_neg (by rw [out]; exact Bool.false_ne_true)⟩
  rw [List.span_eq_takeWhile_dropWhile, List.takeWhile_append_of_pos all,
    List.dropWhile_append_of_pos all, stays.1, stays.2, List.append_nil]

theorem skipBlanks_append {ws rest : List Char} (blank : Blank ws) :
    skipBlanks (ws ++ rest) = skipBlanks rest := List.dropWhile_append_of_pos blank

theorem skipBlanks_of_not_blank {c : Char} (rest : List Char) (h : isBlank c = false) :
    skipBlanks (c :: rest) = c :: rest :=
  List.dropWhile_cons_of_neg (by rw [h]; exact Bool.false_ne_true)

/-! ## §2. Characters of a string. -/

theorem readUnit?_append {us : List Char} {n : Nat} (h : UnitDigits us n) (c : Char)
    (rest : List Char) : readUnit? (us ++ c :: rest) = some (n, c :: rest) := by
  cases h with
  | mk first second third fourth =>
      simp only [List.cons_append, List.nil_append, readUnit?, first, second, third, fourth,
        Option.bind_eq_bind, Option.bind_some]

theorem UnitDigits.length_eq {us : List Char} {n : Nat} (h : UnitDigits us n) : us.length = 4 := by
  cases h with
  | mk first second third fourth => rfl

/-- After the first half of a pair, the second one is looked for. -/
theorem readUnicodeEscape_high {cs more : List Char} {n : Nat} (left : Nat)
    (read : readUnit? cs = some (n, '\\' :: 'u' :: more)) (high : isHighSurrogate n = true) :
    readUnicodeEscape left cs
      = if more.length < 5 then .ok (unitPoint n, '\\' :: 'u' :: more)
        else
          match readUnit? more with
          | none => .error (.expected .unicodeEscape (more.length + 1))
          | some (m, after) =>
            if isLowSurrogate m then .ok (.char (pairChar n m), after)
            else .ok (unitPoint n, '\\' :: 'u' :: more) := by
  unfold readUnicodeEscape
  rw [read]
  simp only [high]
  rfl

/-- A unit that is not the first half of a pair stands for a point of its own. -/
theorem readUnicodeEscape_unit {us cs : List Char} {ps : List Text.Point} {n : Nat} (left : Nat)
    (number : UnitDigits us n) (alone : isHighSurrogate n = true → ¬ LowFollows cs)
    (others : Characters cs ps) (rest : List Char) :
    readUnicodeEscape left (us ++ (cs ++ '"' :: rest)) = .ok (unitPoint n, cs ++ '"' :: rest) := by
  have read : readUnit? (us ++ (cs ++ '"' :: rest)) = some (n, cs ++ '"' :: rest) := by
    cases cs with
    | nil => exact readUnit?_append number '"' rest
    | cons c cs => exact readUnit?_append number c _
  by_cases high : isHighSurrogate n = true
  case neg =>
    unfold readUnicodeEscape
    rw [read]
    rw [Bool.not_eq_true] at high
    simp only [high]
    rfl
  case pos =>
    -- whatever follows is no second half
    have escaped : ∀ (ds : List Char) {vs : List Char} {m : Nat}, UnitDigits vs m →
        cs ++ '"' :: rest = '\\' :: 'u' :: (vs ++ ds) → ds ≠ [] → isLowSurrogate m = false →
        readUnicodeEscape left (us ++ (cs ++ '"' :: rest))
          = .ok (unitPoint n, cs ++ '"' :: rest) := by
      intro ds vs m number' same some_more low
      obtain ⟨d, ds, rfl⟩ := List.exists_cons_of_ne_nil some_more
      rw [same] at read ⊢
      rw [readUnicodeEscape_high left read high, readUnit?_append number']
      simp only [low, Bool.false_eq_true, if_false, ite_self]
    have unescaped : (∀ more, cs ++ '"' :: rest ≠ '\\' :: 'u' :: more) →
        readUnicodeEscape left (us ++ (cs ++ '"' :: rest))
          = .ok (unitPoint n, cs ++ '"' :: rest) := by
      intro other
      unfold readUnicodeEscape
      rw [read]
      simp only [high, Bool.not_true, Bool.false_eq_true, if_false]
    cases others with
    | nil => exact unescaped fun more same => absurd (List.cons.inj same).1 (by decide)
    | plain fit quote backslash others =>
        exact unescaped fun more same => absurd (List.cons.inj same).1 backslash
    | short escape others =>
        refine unescaped fun more same => ?_
        rw [(List.cons.inj (List.cons.inj same).2).1] at escape
        exact absurd escape (by simp [shortEscape?])
    | @unit vs cs ds m number' alone' others =>
        refine escaped (cs ++ '"' :: rest) number' (by simp) (by simp) ?_
        rw [← Bool.not_eq_true]
        exact fun low => alone high ⟨vs, m, cs, rfl, number', low⟩
    | @pair vs ws cs ds m k first second high' low' others =>
        refine escaped ('\\' :: 'u' :: (ws ++ (cs ++ '"' :: rest))) first (by simp) (by simp) ?_
        rw [← Bool.not_eq_true]
        exact fun low => alone high ⟨vs, m, _, rfl, first, low⟩

/-- Two halves of a pair stand for one character. -/
theorem readUnicodeEscape_pair {us vs rest : List Char} {n m : Nat} (left : Nat)
    (first : UnitDigits us n) (second : UnitDigits vs m) (high : isHighSurrogate n = true)
    (low : isLowSurrogate m = true) (c : Char) :
    readUnicodeEscape left (us ++ '\\' :: 'u' :: (vs ++ c :: rest))
      = .ok (.char (pairChar n m), c :: rest) := by
  have long : ¬ (vs ++ c :: rest).length < 5 := by
    rw [List.length_append, second.length_eq, List.length_cons]
    omega
  rw [readUnicodeEscape_high left (readUnit?_append first _ _) high, if_neg long,
    readUnit?_append second]
  exact if_pos low

/-! Each kind of character is one step of the reader. -/

section Steps

variable {c : Char} {acc : List Text.Point} (start fuel : Nat) (more : List Char)

theorem readString_plain (fit : 0x20 ≤ c.toNat) (quote : c ≠ '"') (backslash : c ≠ '\\') :
    readString start acc (fuel + 1) (c :: more) = readString start (.char c :: acc) fuel more := by
  rw [readString.eq_def]
  dsimp only
  split
  next same => exact absurd same (by simp)
  next same => exact absurd (List.cons.inj same).1 quote
  next same => exact absurd (List.cons.inj same).1 backslash
  next same => exact absurd (List.cons.inj same).1 backslash
  next same => exact absurd (List.cons.inj same).1 backslash
  next same =>
    obtain ⟨rfl, rfl⟩ := List.cons.inj same
    exact if_neg (Nat.not_lt.mpr fit)

theorem readString_short {d : Char} (escape : shortEscape? c = some d) :
    readString start acc (fuel + 1) ('\\' :: c :: more)
      = readString start (.char d :: acc) fuel more := by
  have other : c ≠ 'u' := by
    rintro rfl
    exact absurd escape (by simp [shortEscape?])
  rw [readString.eq_def]
  dsimp only
  split
  next same => exact absurd same (by simp)
  next same => exact absurd (List.cons.inj same).1 (by decide)
  next same => exact absurd (List.cons.inj same).2 (by simp)
  next same => exact absurd (List.cons.inj (List.cons.inj same).2).1 other
  next same =>
    obtain ⟨rfl, rfl⟩ := List.cons.inj (List.cons.inj same).2
    rw [escape]
  next unescaped same =>
    obtain ⟨rfl, rfl⟩ := List.cons.inj same
    exact absurd rfl (unescaped c _ rfl)

theorem readString_unicode {cs : List Char} {p : Text.Point}
    (read : ∀ left, readUnicodeEscape left cs = .ok (p, more)) :
    readString start acc (fuel + 1) ('\\' :: 'u' :: cs) = readString start (p :: acc) fuel more := by
  rw [readString, read]

end Steps

/-- **Characters in front of a quote are read.** -/
theorem readString_of_characters {cs : List Char} {ps : List Text.Point} (h : Characters cs ps)
    (start : Nat) (acc : List Text.Point) {fuel : Nat} (enough : cs.length < fuel)
    (rest : List Char) :
    readString start acc fuel (cs ++ '"' :: rest) = .ok (acc.reverse ++ ps, rest) := by
  have pushed : ∀ (p : Text.Point) (acc ps : List Text.Point),
      (p :: acc).reverse ++ ps = acc.reverse ++ p :: ps :=
    fun p acc ps => by rw [List.reverse_cons, List.append_assoc, List.singleton_append]
  induction h generalizing acc fuel with
  | nil =>
      obtain ⟨fuel, rfl⟩ := Nat.exists_eq_succ_of_ne_zero (Nat.ne_zero_of_lt enough)
      rw [List.nil_append, List.append_nil]
      rfl
  | @plain c cs ps fit quote backslash others ih =>
      obtain ⟨fuel, rfl⟩ := Nat.exists_eq_succ_of_ne_zero (Nat.ne_zero_of_lt enough)
      rw [List.cons_append, readString_plain _ _ _ fit quote backslash,
        ih (.char c :: acc) (Nat.lt_of_succ_lt_succ enough), pushed]
  | @short c d cs ps escape others ih =>
      obtain ⟨fuel, rfl⟩ := Nat.exists_eq_succ_of_ne_zero (Nat.ne_zero_of_lt enough)
      simp only [List.length_cons] at enough
      rw [List.cons_append, List.cons_append, readString_short _ _ _ escape,
        ih (.char d :: acc) (by omega), pushed]
  | @unit us cs ps n number alone others ih =>
      obtain ⟨fuel, rfl⟩ := Nat.exists_eq_succ_of_ne_zero (Nat.ne_zero_of_lt enough)
      simp only [List.length_cons, List.length_append] at enough
      rw [List.cons_append, List.cons_append, List.append_assoc,
        readString_unicode _ _ _ fun left => readUnicodeEscape_unit left number alone others rest,
        ih (unitPoint n :: acc) (by omega), pushed]
  | @pair us vs cs ps n m first second high low others ih =>
      obtain ⟨fuel, rfl⟩ := Nat.exists_eq_succ_of_ne_zero (Nat.ne_zero_of_lt enough)
      simp only [List.length_cons, List.length_append] at enough
      have read : ∀ left, readUnicodeEscape left (us ++ '\\' :: 'u' :: (vs ++ (cs ++ '"' :: rest)))
          = .ok (.char (pairChar n m), cs ++ '"' :: rest) := by
        intro left
        cases cs with
        | nil => exact readUnicodeEscape_pair left first second high low '"'
        | cons c cs => exact readUnicodeEscape_pair left first second high low c
      rw [List.cons_append, List.cons_append, List.append_assoc, List.cons_append,
        List.cons_append, List.append_assoc, readString_unicode _ _ _ read,
        ih (.char (pairChar n m) :: acc) (by omega), pushed]

/-! ## §3. Numbers. -/

/-- What follows a number without prolonging it. -/
def Ends (rest : List Char) : Prop :=
  ∀ c ∈ rest.head?, c.isDigit = false ∧ c ≠ '.' ∧ ¬ IsExponentLetter c

theorem Ends.noDigit {rest : List Char} (h : Ends rest) : ∀ c ∈ rest.head?, c.isDigit = false :=
  fun c first => (h c first).1

theorem digitRun_append {ds rest : List Char} (run : Digits ds)
    (stop : ∀ c ∈ rest.head?, c.isDigit = false) : digitRun (ds ++ rest) = (ds, rest) :=
  span_append run.digit stop

theorem Digits.exists_cons {ds : List Char} (run : Digits ds) :
    ∃ d others, ds = d :: others ∧ d.isDigit = true := by
  obtain ⟨d, others, rfl⟩ := List.exists_cons_of_ne_nil run.ne_nil
  exact ⟨d, others, rfl, run.digit d List.mem_cons_self⟩

/-- No sign is a digit. -/
theorem splitSign_of_digit {d : Char} (rest : List Char) (h : d.isDigit = true) :
    Number.splitSign (d :: rest) = (false, d :: rest) := by
  unfold Number.splitSign
  split
  next same =>
    rw [(List.cons.inj same).1] at h
    exact absurd h (by decide)
  next same =>
    rw [(List.cons.inj same).1] at h
    exact absurd h (by decide)
  next => rfl

/-- A fraction or an exponent does not start with a digit, and neither does what follows them. -/
theorem noDigit_of_parts {part fs power rest : List Char} {e : Option Int}
    (fraction : FractionPart part fs) (exponent : ExponentPart power e) (ends : Ends rest) :
    ∀ c ∈ (part ++ (power ++ rest)).head?, c.isDigit = false := by
  have letter : ∀ {c : Char}, IsExponentLetter c → c.isDigit = false := by
    rintro c (rfl | rfl) <;> decide
  cases fraction with
  | present run =>
      rintro c first
      rw [← Option.some.inj first]
      decide
  | absent =>
      cases exponent with
      | absent => exact ends.noDigit
      | unsigned isLetter run | plus isLetter run | minus isLetter run =>
          rintro c first
          rw [← Option.some.inj first]
          exact letter isLetter

theorem wholePart?_append {ds rest : List Char} (part : WholePart ds)
    (stop : ∀ c ∈ rest.head?, c.isDigit = false) : wholePart? (ds ++ rest) = some (ds, rest) := by
  obtain ⟨d, others, rfl, digit⟩ := part.toDigits.exists_cons
  by_cases zero : d = '0'
  case pos =>
    rw [part.zero_alone (by rw [zero]; rfl)]
    rfl
  case neg =>
    have run := digitRun_append part.toDigits stop
    unfold wholePart?
    split
    next same => exact absurd (List.cons.inj same).1 zero
    next =>
      rw [run]

theorem fractionPart_append {part fs power rest : List Char} {e : Option Int}
    (fraction : FractionPart part fs) (exponent : ExponentPart power e) (ends : Ends rest) :
    fractionPart (part ++ (power ++ rest)) = (fs, power ++ rest) := by
  have stop := noDigit_of_parts .absent exponent ends
  cases fraction with
  | present run =>
      obtain ⟨d, others, rfl, _⟩ := run.exists_cons
      have read := digitRun_append run stop
      rw [List.nil_append] at read
      have step : fractionPart ('.' :: (d :: others ++ (power ++ rest)))
          = (d :: others, power ++ rest) := by
        simp only [fractionPart, read]
      exact step
  | absent =>
      have other : ∀ more, power ++ rest ≠ '.' :: more := by
        intro more same
        cases exponent with
        | absent =>
            rw [List.nil_append] at same
            exact (ends '.' (by rw [same]; rfl)).2.1 rfl
        | unsigned letter run | plus letter run | minus letter run =>
            rw [(List.cons.inj same).1] at letter
            exact absurd letter (by unfold IsExponentLetter; decide)
      rw [List.nil_append]
      unfold fractionPart
      split
      next same => exact absurd same (other _)
      next => rfl

theorem splitSign_plus (rest : List Char) : Number.splitSign ('+' :: rest) = (false, rest) := rfl

theorem splitSign_minus (rest : List Char) : Number.splitSign ('-' :: rest) = (true, rest) := rfl

/-- A letter, a sign and a run of digits make an exponent. -/
theorem exponentPart_cons {c : Char} {text ds rest : List Char} {minus : Bool}
    (letter : IsExponentLetter c) (sign : Number.splitSign text = (minus, ds ++ rest))
    (run : Digits ds) (ends : Ends rest) :
    exponentPart (c :: text)
      = (some (if minus then -(numberOf ds : Int) else numberOf ds), rest) := by
  have read := digitRun_append run ends.noDigit
  obtain ⟨d, others, rfl, _⟩ := run.exists_cons
  unfold exponentPart
  dsimp only
  rw [if_pos (show c = 'e' ∨ c = 'E' from letter), sign]
  dsimp only
  rw [read]
  rfl

theorem exponentPart_append {power rest : List Char} {e : Option Int}
    (exponent : ExponentPart power e) (ends : Ends rest) :
    exponentPart (power ++ rest) = (e, rest) := by
  cases exponent with
  | absent =>
      rw [List.nil_append]
      unfold exponentPart
      cases rest with
      | nil => rfl
      | cons c rest => exact if_neg (ends c rfl).2.2
  | unsigned letter run =>
      obtain ⟨d, others, rfl, digit⟩ := run.exists_cons
      exact exponentPart_cons letter (splitSign_of_digit _ digit) run ends
  | plus letter run => exact exponentPart_cons letter (splitSign_plus _) run ends
  | minus letter run => exact exponentPart_cons letter (splitSign_minus _) run ends

/-- What reading the text of a value gives, if other text follows: the value, or the complaint that
a whole number in it is too long, or, where that may be, that it nests too deeply. -/
inductive Gives (fits : Nat → Prop) (deep : Prop) (v : Value) (rest : List Char) :
    Step Value → Prop
  | value : Gives fits deep v rest (.ok (v, rest))
  | long {n : Nat} (fit : fits n) (long : Number.digitLimit < n) :
      Gives fits deep v rest (.error (.tooManyDigits n))
  | deep (bounded : deep) : Gives fits deep v rest (.error .tooDeep)

/-- What reads on where a value ends gives what it gives there, if it fails where the value does. -/
theorem Gives.andThen {fits : Nat → Prop} {deep : Prop} {v w : Value} {after rest : List Char}
    {r s : Step Value} (h : Gives fits deep v after r)
    (failed : ∀ e, r = .error e → s = .error e)
    (done : r = .ok (v, after) → Gives fits deep w rest s) : Gives fits deep w rest s := by
  cases h with
  | value => exact done rfl
  | long fit long =>
      rw [failed _ rfl]
      exact .long fit long
  | deep bounded =>
      rw [failed _ rfl]
      exact .deep bounded

/-- A number is put together from its parts. -/
theorem readNumber_of_parts (minus : Bool) {ds fs rest middle after : List Char} {e : Option Int}
    (part : WholePart ds) (stop : ∀ c ∈ rest.head?, c.isDigit = false)
    (fraction : fractionPart rest = (fs, middle)) (exponent : exponentPart middle = (e, after)) :
    readNumber (signed minus (ds ++ rest))
      = if fs.isEmpty && e.isNone then
          if Number.digitLimit < ds.length then .error (.tooManyDigits ds.length)
          else .ok (.int (if minus then -(numberOf (ds ++ fs) : Int) else numberOf (ds ++ fs)), after)
        else .ok (.float (Double.ofDecimal minus (numberOf (ds ++ fs)) (e.getD 0 - fs.length)),
          after) := by
  unfold readNumber
  split
  next sign_minus body sign =>
    have taken : sign_minus = minus ∧ body = ds ++ rest := by
      cases minus with
      | true =>
          obtain ⟨same, same'⟩ := Prod.mk.inj sign
          exact ⟨same.symm, same'.symm⟩
      | false =>
          obtain ⟨d, others, rfl, digit⟩ := part.toDigits.exists_cons
          split at sign
          next same =>
            rw [(List.cons.inj same).1] at digit
            exact absurd digit (by decide)
          next =>
            obtain ⟨same, same'⟩ := Prod.mk.inj sign
            exact ⟨same.symm, same'.symm⟩
    obtain ⟨rfl, rfl⟩ := taken
    rw [wholePart?_append part stop]
    dsimp only
    rw [fraction]
    dsimp only
    rw [exponent]
    rfl

theorem gives_readNumber_whole {fits : Nat → Prop} {deep : Prop} {ds rest : List Char}
    (minus : Bool) (part : WholePart ds) (length : fits ds.length) (ends : Ends rest) :
    Gives fits deep (.int (if minus then -(numberOf ds : Int) else numberOf ds)) rest
      (readNumber (signed minus (ds ++ rest))) := by
  rw [readNumber_of_parts minus part ends.noDigit (fractionPart_append .absent .absent ends)
    (exponentPart_append .absent ends), List.append_nil]
  simp only [List.isEmpty_nil, Option.isNone_none, Bool.and_self, if_true]
  by_cases long : Number.digitLimit < ds.length
  case pos =>
    rw [if_pos long]
    exact .long length long
  case neg =>
    rw [if_neg long]
    exact .value

theorem readNumber_decimal {ds part fs power rest : List Char} {e : Option Int} (minus : Bool)
    (whole : WholePart ds) (fraction : FractionPart part fs) (exponent : ExponentPart power e)
    (marked : fs ≠ [] ∨ e ≠ none) (ends : Ends rest) :
    readNumber (signed minus (ds ++ (part ++ (power ++ rest))))
      = .ok (.float (Double.ofDecimal minus (numberOf (ds ++ fs)) (e.getD 0 - fs.length)), rest) := by
  rw [readNumber_of_parts minus whole (noDigit_of_parts fraction exponent ends)
    (fractionPart_append fraction exponent ends) (exponentPart_append exponent ends)]
  refine if_neg ?_
  rw [Bool.and_eq_true, List.isEmpty_iff, Option.isNone_iff_eq_none, not_and_or]
  exact marked

/-! ## §4. Words. -/

theorem readWord?_append {cs : List Char} {v : Value} (mem : (cs, v) ∈ words) (rest : List Char) :
    readWord? (cs ++ rest) = some (v, rest) := by
  simp only [words, List.mem_cons, Prod.mk.injEq, List.not_mem_nil, or_false] at mem
  rcases mem with ⟨rfl, rfl⟩ | ⟨rfl, rfl⟩ | ⟨rfl, rfl⟩ | ⟨rfl, rfl⟩ | ⟨rfl, rfl⟩ | ⟨rfl, rfl⟩
  all_goals rfl

/-- No number starts like a word. -/
theorem readWord?_signed (minus : Bool) {ds : List Char} (run : Digits ds) (rest : List Char) :
    readWord? (signed minus (ds ++ rest)) = none := by
  obtain ⟨d, others, rfl, digit⟩ := run.exists_cons
  have other : ∀ c : Char, c.isDigit = false → (c == d) = false := by
    intro c h
    rw [beq_eq_false_iff_ne]
    rintro rfl
    rw [h] at digit
    exact Bool.false_ne_true digit
  cases minus with
  | true => simp [readWord?, words, signed, List.isPrefixOf, other]
  | false => simp [readWord?, words, signed, List.isPrefixOf, other]

/-! ## §5. Values. -/

section Values

variable {fits : Nat → Prop} {levels : Nat} {text : List Char} {v : Value}

theorem digit_head (minus : Bool) {ds : List Char} (run : Digits ds) (rest : List Char) :
    ∃ c cs, signed minus (ds ++ rest) = c :: cs ∧ (c = '-' ∨ c.isDigit = true) := by
  obtain ⟨d, others, rfl, digit⟩ := run.exists_cons
  cases minus with
  | true => exact ⟨'-', _, rfl, Or.inl rfl⟩
  | false => exact ⟨d, _, rfl, Or.inr digit⟩

/-- A character that a value can start with. -/
structure Starts (c : Char) : Prop where
  not_blank : isBlank c = false
  not_bracket : c ≠ ']'
  not_brace : c ≠ '}'
  ascii : c.toNat < 128

theorem starts_of_sign_or_digit {c : Char} (h : c = '-' ∨ c.isDigit = true) : Starts c := by
  rcases h with rfl | digit
  · exact ⟨by decide, by decide, by decide, by decide⟩
  · have other : ∀ d : Char, d.isDigit = false → c ≠ d := by
      rintro d h rfl
      rw [h] at digit
      exact Bool.false_ne_true digit
    refine ⟨?_, other _ (by decide), other _ (by decide), ?_⟩
    · simp only [isBlank, Bool.or_eq_false_iff, beq_eq_false_iff_ne]
      exact ⟨⟨⟨other _ (by decide), other _ (by decide)⟩, other _ (by decide)⟩,
        other _ (by decide)⟩
    · have nine : '9'.toNat = 57 := rfl
      rw [Char.isDigit_iff_toNat] at digit
      omega

/-- The text of a value is not empty, and starts neither with a blank nor with a closing bracket. -/
theorem Spells.exists_cons (h : Spells fits levels text v) : ∃ c cs, text = c :: cs ∧ Starts c := by
  have bracket : Starts '[' := ⟨by decide, by decide, by decide, by decide⟩
  have brace : Starts '{' := ⟨by decide, by decide, by decide, by decide⟩
  cases h with
  | word mem =>
      simp only [words, List.mem_cons, Prod.mk.injEq, List.not_mem_nil, or_false] at mem
      rcases mem with ⟨rfl, _⟩ | ⟨rfl, _⟩ | ⟨rfl, _⟩ | ⟨rfl, _⟩ | ⟨rfl, _⟩ | ⟨rfl, _⟩
      all_goals exact ⟨_, _, rfl, by decide, by decide, by decide, by decide⟩
  | whole minus part length =>
      obtain ⟨c, cs, same, head⟩ := digit_head minus part.toDigits []
      rw [List.append_nil] at same
      exact ⟨c, cs, same, starts_of_sign_or_digit head⟩
  | decimal minus whole fraction exponent marked =>
      obtain ⟨c, cs, same, head⟩ := digit_head minus whole.toDigits _
      exact ⟨c, cs, same, starts_of_sign_or_digit head⟩
  | string characters => exact ⟨_, _, rfl, by decide, by decide, by decide, by decide⟩
  | emptyList blank => exact ⟨_, _, rfl, bracket⟩
  | list ne_nil padded spelled => exact ⟨_, _, rfl, bracket⟩
  | emptyMapping blank => exact ⟨_, _, rfl, brace⟩
  | mapping ne_nil padded spelled => exact ⟨_, _, rfl, brace⟩

/-- A value that is no string, list or mapping is a word or a number. -/
theorem readValue_atom {c : Char} {cs : List Char} (fuel nesting : Nat) (quote : c ≠ '"')
    (bracket : c ≠ '[') (brace : c ≠ '{') :
    readValue (fuel + 1) nesting (c :: cs)
      = match readWord? (c :: cs) with
        | some word => .ok word
        | none => readNumber (c :: cs) := by
  rw [readValue.eq_def]
  dsimp only
  split
  next same => exact absurd (List.cons.inj same).1 quote
  next same => exact absurd (List.cons.inj same).1 bracket
  next same => exact absurd (List.cons.inj same).1 brace
  next => rfl

theorem readValue_signed (fuel nesting : Nat) (minus : Bool) {ds : List Char} (run : Digits ds)
    (rest : List Char) :
    readValue (fuel + 1) nesting (signed minus (ds ++ rest))
      = readNumber (signed minus (ds ++ rest)) := by
  have noWord := readWord?_signed minus run rest
  obtain ⟨c, cs, same, head⟩ := digit_head minus run rest
  rw [same] at noWord ⊢
  have other : ∀ d : Char, d ≠ '-' → d.isDigit = false → c ≠ d := by
    rintro d h h' rfl
    rcases head with minus | digit
    · exact h minus
    · rw [h'] at digit
      exact Bool.false_ne_true digit
  rw [readValue_atom fuel nesting (other _ (by decide) (by decide)) (other _ (by decide) (by decide))
    (other _ (by decide) (by decide)), noWord]

theorem readValue_word (fuel nesting : Nat) {cs : List Char} (mem : (cs, v) ∈ words)
    (rest : List Char) : readValue (fuel + 1) nesting (cs ++ rest) = .ok (v, rest) := by
  have read := readWord?_append mem rest
  have atom : ∃ c others, cs = c :: others ∧ c ≠ '"' ∧ c ≠ '[' ∧ c ≠ '{' := by
    simp only [words, List.mem_cons, Prod.mk.injEq, List.not_mem_nil, or_false] at mem
    rcases mem with ⟨rfl, _⟩ | ⟨rfl, _⟩ | ⟨rfl, _⟩ | ⟨rfl, _⟩ | ⟨rfl, _⟩ | ⟨rfl, _⟩
    all_goals exact ⟨_, _, rfl, by decide, by decide, by decide⟩
  obtain ⟨c, others, rfl, quote, bracket, brace⟩ := atom
  rw [List.cons_append] at read ⊢
  rw [readValue_atom fuel nesting quote bracket brace, read]

/-- Blanks, and then something that ends a value. -/
theorem ends_of_blank {ws rest : List Char} (blank : Blank ws) (ends : Ends rest) :
    Ends (ws ++ rest) := by
  cases ws with
  | nil => exact ends
  | cons c ws =>
      have isBlank := blank c List.mem_cons_self
      rintro d first
      rw [← Option.some.inj first]
      simp only [Json.isBlank, Bool.or_eq_true, beq_iff_eq] at isBlank
      unfold IsExponentLetter
      rcases isBlank with ((rfl | rfl) | rfl) | rfl <;> decide

theorem ends_cons {c : Char} (h : c = ',' ∨ c = ']' ∨ c = '}') (rest : List Char) :
    Ends (c :: rest) := by
  rintro d first
  rw [← Option.some.inj first]
  unfold IsExponentLetter
  rcases h with rfl | rfl | rfl <;> decide

/-! ## §6. Items and members. -/

/-- The reader takes a text off the front of what cannot prolong it, with fuel for its characters,
if it may enter as many levels. -/
def Readable (fits : Nat → Prop) (levels : Nat) (text : List Char) (v : Value) : Prop :=
  ∀ fuel nesting rest, text.length ≤ fuel → Ends rest →
    Gives fits (nesting < levels) v rest (readValue fuel nesting (text ++ rest))

theorem skipBlanks_whole {i : Item} (padded : i.Padded) {c : Char} {cs : List Char}
    (text : i.text = c :: cs) (starts : Starts c) (more : List Char) :
    skipBlanks (i.whole ++ more) = i.text ++ (i.after ++ more) := by
  rw [Item.whole, List.append_assoc, List.append_assoc, skipBlanks_append padded.before, text]
  exact skipBlanks_of_not_blank _ starts.not_blank

/-- **Items with commas between are read.** -/
theorem gives_readItems {items : List Item} (ne_nil : items ≠ []) (padded : ∀ i ∈ items, i.Padded)
    (starts : ∀ i ∈ items, ∃ c cs, i.text = c :: cs ∧ Starts c)
    (read : ∀ i ∈ items, Readable fits levels i.text i.value) (acc : List Value) {fuel : Nat}
    (nesting : Nat) (enough : (commaJoined (items.map Item.whole)).length < fuel)
    (rest : List Char) :
    Gives fits (nesting < levels) (.list (acc.reverse ++ items.map Item.value)) rest
      (readItems fuel nesting acc
        (skipBlanks (commaJoined (items.map Item.whole) ++ ']' :: rest))) := by
  induction items generalizing acc fuel with
  | nil => exact absurd rfl ne_nil
  | cons i items ih =>
      obtain ⟨fuel, rfl⟩ := Nat.exists_eq_succ_of_ne_zero (Nat.ne_zero_of_lt enough)
      rw [List.forall_mem_cons] at padded starts read
      obtain ⟨c, cs, text, start⟩ := starts.1
      cases items with
      | nil =>
          -- the last item, with the end of the list behind it
          simp only [List.map_cons, List.map_nil, commaJoined_singleton, Item.whole,
            List.length_append] at enough
          rw [List.map_singleton, List.map_singleton, commaJoined_singleton,
            skipBlanks_whole padded.1 text start]
          have ends : Ends (']' :: rest) := ends_cons (by simp) rest
          refine (read.1 fuel nesting _ (by omega) (ends_of_blank padded.1.after ends)).andThen
            (fun e failed => by rw [readItems, failed]) fun done => ?_
          rw [readItems, done]
          dsimp only
          rw [skipBlanks_append padded.1.after, skipBlanks_of_not_blank rest (by decide),
            List.reverse_cons]
          exact .value
      | cons next items =>
          -- behind the comma the others are read, with one less of the fuel
          simp only [List.map_cons, commaJoined_cons_cons, List.length_append, List.length_cons,
            Item.whole] at enough
          rw [List.map_cons (f := Item.whole), List.map_cons (f := Item.whole),
            commaJoined_cons_cons, List.append_assoc, skipBlanks_whole padded.1 text start,
            List.cons_append]
          have ends := ends_cons (Or.inl rfl)
            (commaJoined (next.whole :: items.map Item.whole) ++ ']' :: rest)
          refine (read.1 fuel nesting _ (by omega) (ends_of_blank padded.1.after ends)).andThen
            (fun e failed => by rw [readItems, failed]) fun done => ?_
          have enough' : (commaJoined ((next :: items).map Item.whole)).length < fuel := by
            simp only [List.map_cons, Item.whole]
            omega
          have later := ih (List.cons_ne_nil next items) padded.2 starts.2 read.2 (i.value :: acc)
            enough'
          rw [List.reverse_cons, List.append_assoc] at later
          rw [readItems, done]
          dsimp only
          rw [skipBlanks_append padded.1.after, skipBlanks_of_not_blank _ (by decide)]
          exact later

/-- The name of a member is read, up to its value. -/
theorem readMembers_whole {m : Member} (padded : m.Padded) {c : Char} {cs : List Char}
    (text : m.text = c :: cs) (starts : Starts c) (acc : Entries) (fuel nesting : Nat)
    (more : List Char) :
    readMembers (fuel + 1) nesting acc (skipBlanks (m.whole ++ more))
      = match readValue fuel nesting (m.text ++ (m.after ++ more)) with
        | .error e => .error e
        | .ok (v, rest) =>
          match skipBlanks rest with
          | '}' :: after => .ok (.mapping (p := none) (Entries.insert (.ofPoints m.key) v acc), after)
          | ',' :: more =>
            readMembers fuel nesting (Entries.insert (.ofPoints m.key) v acc) (skipBlanks more)
          | rest => .error (.expected .comma rest.length) := by
  have whole : m.whole ++ more
      = m.front ++ '"' :: (m.name ++ '"' :: (m.back ++ ':' :: (m.toItem.whole ++ more))) := by
    simp only [Member.whole, List.append_assoc, List.cons_append]
  have enough : m.name.length
      < ('"' :: (m.name ++ '"' :: (m.back ++ ':' :: (m.toItem.whole ++ more)))).length := by
    simp only [List.length_cons, List.length_append]
    omega
  rw [whole, skipBlanks_append padded.front, skipBlanks_of_not_blank _ (by decide), readMembers,
    readString_of_characters padded.name _ [] enough, List.reverse_nil, List.nil_append]
  have colon : isBlank ':' = false := by decide
  simp only [skipBlanks_append padded.back, skipBlanks_of_not_blank _ colon]
  have value := skipBlanks_whole padded.toPadded text starts more
  generalize skipBlanks (m.toItem.whole ++ more) = spelled at value ⊢
  subst value
  rfl

/-- **Members with commas between are read**, and stored one after the other. -/
theorem gives_readMembers {members : List Member} (ne_nil : members ≠ [])
    (padded : ∀ m ∈ members, m.Padded)
    (starts : ∀ m ∈ members, ∃ c cs, m.text = c :: cs ∧ Starts c)
    (read : ∀ m ∈ members, Readable fits levels m.text m.value) (acc : Entries) {fuel : Nat}
    (nesting : Nat) (enough : (commaJoined (members.map Member.whole)).length < fuel)
    (rest : List Char) :
    Gives fits (nesting < levels)
      (.mapping (p := none)
        ((members.map Member.entry).foldl (fun es e => Entries.insert e.1 e.2 es) acc)) rest
      (readMembers fuel nesting acc
        (skipBlanks (commaJoined (members.map Member.whole) ++ '}' :: rest))) := by
  induction members generalizing acc fuel with
  | nil => exact absurd rfl ne_nil
  | cons m members ih =>
      obtain ⟨fuel, rfl⟩ := Nat.exists_eq_succ_of_ne_zero (Nat.ne_zero_of_lt enough)
      rw [List.forall_mem_cons] at padded starts read
      obtain ⟨c, cs, text, start⟩ := starts.1
      cases members with
      | nil =>
          simp only [List.map_cons, List.map_nil, commaJoined_singleton, Member.whole, Item.whole,
            List.length_append, List.length_cons] at enough
          rw [List.map_singleton, List.map_singleton, commaJoined_singleton,
            readMembers_whole padded.1 text start acc fuel nesting]
          have ends : Ends ('}' :: rest) := ends_cons (by simp) rest
          refine (read.1 fuel nesting _ (by omega) (ends_of_blank padded.1.after ends)).andThen
            (fun e failed => by rw [failed]) fun done => ?_
          rw [done]
          dsimp only
          rw [skipBlanks_append padded.1.after, skipBlanks_of_not_blank rest (by decide)]
          exact .value
      | cons next members =>
          simp only [List.map_cons, commaJoined_cons_cons, List.length_append, List.length_cons,
            Member.whole, Item.whole] at enough
          rw [List.map_cons (f := Member.whole), List.map_cons (f := Member.whole),
            commaJoined_cons_cons, List.append_assoc,
            readMembers_whole padded.1 text start acc fuel nesting, List.cons_append]
          have ends := ends_cons (Or.inl rfl)
            (commaJoined (next.whole :: members.map Member.whole) ++ '}' :: rest)
          refine (read.1 fuel nesting _ (by omega) (ends_of_blank padded.1.after ends)).andThen
            (fun e failed => by rw [failed]) fun done => ?_
          have enough' : (commaJoined ((next :: members).map Member.whole)).length < fuel := by
            simp only [List.map_cons, Member.whole, Item.whole]
            omega
          have later := ih (List.cons_ne_nil next members) padded.2 starts.2 read.2
            (Entries.insert (.ofPoints m.key) m.value acc) enough'
          rw [done]
          dsimp only
          rw [skipBlanks_append padded.1.after, skipBlanks_of_not_blank _ (by decide)]
          exact later

/-- Items do not start with the end of a list. -/
theorem skipBlanks_items_ne {items : List Item} (ne_nil : items ≠ [])
    (padded : ∀ i ∈ items, i.Padded) (starts : ∀ i ∈ items, ∃ c cs, i.text = c :: cs ∧ Starts c)
    (rest more : List Char) :
    skipBlanks (commaJoined (items.map Item.whole) ++ rest) ≠ ']' :: more := by
  obtain ⟨i, others, rfl⟩ := List.exists_cons_of_ne_nil ne_nil
  obtain ⟨c, cs, text, start⟩ := starts i List.mem_cons_self
  obtain ⟨tail, joined⟩ : ∃ tail,
      commaJoined ((i :: others).map Item.whole) ++ rest = i.whole ++ tail := by
    cases others with
    | nil => exact ⟨_, by rw [List.map_singleton, commaJoined_singleton]⟩
    | cons next others =>
        exact ⟨_, by rw [List.map_cons, List.map_cons, commaJoined_cons_cons, List.append_assoc]⟩
  rw [joined, skipBlanks_whole (padded i List.mem_cons_self) text start, text]
  exact fun same => start.not_bracket (List.cons.inj same).1

theorem skipBlanks_members_ne {members : List Member} (ne_nil : members ≠ [])
    (padded : ∀ m ∈ members, m.Padded) (rest more : List Char) :
    skipBlanks (commaJoined (members.map Member.whole) ++ rest) ≠ '}' :: more := by
  obtain ⟨m, others, rfl⟩ := List.exists_cons_of_ne_nil ne_nil
  obtain ⟨tail, joined⟩ : ∃ tail,
      commaJoined ((m :: others).map Member.whole) ++ rest = m.front ++ '"' :: tail := by
    cases others with
    | nil =>
        rw [List.map_singleton, commaJoined_singleton, Member.whole, List.append_assoc]
        exact ⟨_, rfl⟩
    | cons next others =>
        rw [List.map_cons, List.map_cons, commaJoined_cons_cons, Member.whole,
          List.append_assoc, List.append_assoc]
        exact ⟨_, rfl⟩
  rw [joined, skipBlanks_append (padded m List.mem_cons_self).front,
    skipBlanks_of_not_blank _ (by decide)]
  exact fun same => absurd (List.cons.inj same).1 (by decide)

/-- The opening character of a list leads to its items. -/
theorem readValue_list {cs : List Char} (fuel nesting : Nat)
    (h : ∀ rest, skipBlanks cs ≠ ']' :: rest) :
    readValue (fuel + 1) (nesting + 1) ('[' :: cs)
      = readItems fuel nesting [] (skipBlanks cs) := by
  rw [readValue]
  split
  next same => exact absurd same (h _)
  next => rfl

theorem readValue_mapping {cs : List Char} (fuel nesting : Nat)
    (h : ∀ rest, skipBlanks cs ≠ '}' :: rest) :
    readValue (fuel + 1) (nesting + 1) ('{' :: cs)
      = readMembers fuel nesting [] (skipBlanks cs) := by
  rw [readValue]
  split
  next same => exact absurd same (h _)
  next => rfl

/-- No value has an empty text, so that there is fuel for a step. -/
theorem Readable.of_step (h : Spells fits levels text v)
    (step : ∀ fuel nesting rest, text.length ≤ fuel + 1 → Ends rest →
      Gives fits (nesting < levels) v rest (readValue (fuel + 1) nesting (text ++ rest))) :
    Readable fits levels text v := by
  intro fuel nesting rest enough
  obtain ⟨c, cs, same, _⟩ := h.exists_cons
  have some_fuel : fuel ≠ 0 := by
    rw [same, List.length_cons] at enough
    omega
  obtain ⟨fuel, rfl⟩ := Nat.exists_eq_succ_of_ne_zero some_fuel
  exact step fuel nesting rest enough

/-- No bracket is entered without a level for it. -/
theorem readValue_deep {c : Char} (fuel : Nat) (bracket : c = '[' ∨ c = '{') (cs : List Char) :
    readValue (fuel + 1) 0 (c :: cs) = .error .tooDeep := by
  rcases bracket with rfl | rfl
  · rw [readValue]
  · rw [readValue]

/-- One level more is entered and allowed. -/
theorem Gives.succ {nesting : Nat} {rest : List Char} {r : Step Value}
    (h : Gives fits (nesting < levels) v rest r) : Gives fits (nesting + 1 < levels + 1) v rest r := by
  rwa [Nat.add_lt_add_iff_right]

/-- **Brackets are read** if what is between them is, one level deeper. -/
theorem Gives.of_bracket {c : Char} (bracket : c = '[' ∨ c = '{') {fuel nesting : Nat}
    {cs rest : List Char}
    (inside : ∀ nesting,
      Gives fits (nesting < levels) v rest (readValue (fuel + 1) (nesting + 1) (c :: cs))) :
    Gives fits (nesting < levels + 1) v rest (readValue (fuel + 1) nesting (c :: cs)) := by
  cases nesting with
  | zero =>
      rw [readValue_deep fuel bracket]
      exact .deep (Nat.succ_pos levels)
  | succ nesting => exact (inside nesting).succ

/-- **THE TEXT OF A VALUE IS READ.** -/
theorem gives_readValue (h : Spells fits levels text v) : Readable fits levels text v := by
  refine .of_step h ?_
  induction h with
  | word mem =>
      intro fuel nesting rest _ _
      rw [readValue_word fuel nesting mem rest]
      exact .value
  | @whole levels ds minus part length =>
      intro fuel nesting rest _ ends
      have joined : signed minus ds ++ rest = signed minus (ds ++ rest) := by cases minus <;> rfl
      rw [joined, readValue_signed fuel nesting minus part.toDigits rest]
      exact gives_readNumber_whole minus part length ends
  | @decimal levels ds part fs power e minus whole fraction exponent marked =>
      intro fuel nesting rest _ ends
      have joined : signed minus (ds ++ (part ++ power)) ++ rest
          = signed minus (ds ++ (part ++ (power ++ rest))) := by
        cases minus <;> simp [signed]
      rw [joined, readValue_signed fuel nesting minus whole.toDigits,
        readNumber_decimal minus whole fraction exponent marked ends]
      exact .value
  | @string levels cs ps characters =>
      intro fuel nesting rest _ _
      have longer : cs.length < ('"' :: (cs ++ '"' :: rest)).length := by
        simp only [List.length_cons, List.length_append]
        omega
      rw [List.cons_append, List.append_assoc, List.singleton_append, readValue,
        readString_of_characters characters _ [] longer, List.reverse_nil, List.nil_append]
      exact .value
  | @emptyList levels ws blank =>
      intro fuel nesting rest _ _
      rw [List.cons_append, List.append_assoc, List.singleton_append]
      refine .of_bracket (Or.inl rfl) fun nesting => ?_
      rw [readValue, skipBlanks_append blank, skipBlanks_of_not_blank rest (by decide)]
      exact .value
  | @list levels items ne_nil padded spelled ih =>
      -- the items are read on one level less, so the bracket is what could be too much
      intro fuel nesting rest enough _
      simp only [List.length_cons, List.length_append, List.length_nil] at enough
      have starts := fun i mem => (spelled i mem).exists_cons
      have read := fun i mem => Readable.of_step (spelled i mem) (ih i mem)
      rw [List.cons_append, List.append_assoc, List.singleton_append]
      refine .of_bracket (Or.inl rfl) fun nesting => ?_
      rw [readValue_list fuel nesting (skipBlanks_items_ne ne_nil padded starts _)]
      exact gives_readItems ne_nil padded starts read [] nesting (by omega) rest
  | @emptyMapping levels ws blank =>
      intro fuel nesting rest _ _
      rw [List.cons_append, List.append_assoc, List.singleton_append]
      refine .of_bracket (Or.inr rfl) fun nesting => ?_
      rw [readValue, skipBlanks_append blank, skipBlanks_of_not_blank rest (by decide)]
      exact .value
  | @mapping levels members ne_nil padded spelled ih =>
      intro fuel nesting rest enough _
      simp only [List.length_cons, List.length_append, List.length_nil] at enough
      have starts := fun m mem => (spelled m mem).exists_cons
      have read := fun m mem => Readable.of_step (spelled m mem) (ih m mem)
      rw [List.cons_append, List.append_assoc, List.singleton_append]
      refine .of_bracket (Or.inr rfl) fun nesting => ?_
      rw [readValue_mapping fuel nesting (skipBlanks_members_ne ne_nil padded _)]
      exact gives_readMembers ne_nil padded starts read [] nesting (by omega) rest

/-! ## §7. Whole texts. -/

theorem skipBlanks_of_blank {ws : List Char} (blank : Blank ws) : skipBlanks ws = [] :=
  List.dropWhile_eq_nil_iff.mpr blank

/-- What reading a whole text that holds a value gives. -/
inductive Answers (fits : Nat → Prop) (deep : Prop) (v : Value) : Except Problem Value → Prop
  | value : Answers fits deep v (.ok v)
  | long {n : Nat} (fit : fits n) (long : Number.digitLimit < n) :
      Answers fits deep v (.error (.tooManyDigits n))
  | deep (bounded : deep) : Answers fits deep v (.error .tooDeep)

/-- **A text that holds a value is read**, unless a whole number in it is too long or it has more
levels than may be entered. -/
theorem answers_readWhole (h : Denotes fits levels text v) (nesting : Nat) :
    Answers fits (nesting < levels) v (readWhole nesting text) := by
  obtain ⟨i, padded, spelled, rfl⟩ := h
  obtain ⟨c, cs, start_text, start⟩ := spelled.exists_cons
  have first : skipBlanks i.whole = i.text ++ i.after := by
    have taken := skipBlanks_whole padded start_text start []
    rwa [List.append_nil, List.append_nil] at taken
  have enough : i.text.length ≤ fuelFor i.whole.length := by
    simp only [fuelFor, Item.whole, List.length_append]
    omega
  have ends : Ends i.after := by
    have nothing : Ends [] := fun c first => nomatch first
    have := ends_of_blank padded.after nothing
    rwa [List.append_nil] at this
  have given := gives_readValue spelled _ nesting i.after enough ends
  unfold readWhole readAll
  rw [first]
  generalize readValue (fuelFor i.whole.length) nesting (i.text ++ i.after) = r at given ⊢
  cases given with
  | value =>
      dsimp only
      rw [skipBlanks_of_blank padded.after]
      exact .value
  | long fit long => exact .long fit long
  | deep bounded => exact .deep bounded

/-- A text that holds a value with short whole numbers, on levels that may be entered, is read. -/
theorem readWhole_eq_ok_of_denotes {nesting : Nat} (h : Denotes shortEnough nesting text v) :
    readWhole nesting text = .ok v := by
  cases answers : readWhole nesting text with
  | ok w =>
      have given := answers_readWhole h nesting
      rw [answers] at given
      cases given
      rfl
  | error p =>
      have given := answers_readWhole h nesting
      rw [answers] at given
      cases given with
      | long fit long => exact absurd fit (Nat.not_le.mpr long)
      | deep bounded => exact absurd bounded (Nat.lt_irrefl nesting)

/-- A whole number that is too long is refused, with its length. -/
theorem readWhole_of_long {ds : List Char} (part : WholePart ds)
    (long : Number.digitLimit < ds.length) (nesting : Nat) :
    readWhole nesting ds = .error (.tooManyDigits ds.length) := by
  have nothing : Ends [] := fun c first => nomatch first
  have failed : ∀ fuel, readValue (fuel + 1) nesting ds = .error (.tooManyDigits ds.length) := by
    intro fuel
    have read := readValue_signed fuel nesting false part.toDigits []
    rw [readNumber_of_parts false part nothing.noDigit (fractionPart_append .absent .absent nothing)
      (exponentPart_append .absent nothing)] at read
    simp only [List.isEmpty_nil, Option.isNone_none, Bool.and_self, if_true, if_pos long] at read
    rwa [signed, if_neg Bool.false_ne_true, List.append_nil] at read
  have first : skipBlanks ds = ds := by
    obtain ⟨d, others, rfl, digit⟩ := part.toDigits.exists_cons
    refine skipBlanks_of_not_blank others ?_
    rw [← Bool.not_eq_true]
    intro blank
    simp only [isBlank, Bool.or_eq_true, beq_iff_eq] at blank
    rcases blank with ((rfl | rfl) | rfl) | rfl <;> exact absurd digit (by decide)
  unfold readWhole readAll
  rw [first, fuelFor, failed]

end Values

end ApiTools.Json
