/-
  ApiTools.Proofs.Json.Writing
  ────────────────────────────
  **WHAT IS WRITTEN IS READ BACK.**

  A value is exact if JSON carries it without loss: no number with a fraction
  occurs in it, and the keys of its mappings are names, each of them once
  (`Value.Exact`).  The text that is written for an exact value spells it
  (`spells_of_writeAt`), in every style that puts nothing but blanks beside
  commas and colons (`Style.Standard`); so reading the text gives the value
  again, wherever its levels may be entered (`read_of_write`).
-/
import ApiTools.Json.Writer
import ApiTools.Proofs.Json.Denotation
import ApiTools.Proofs.Value.Entries

namespace ApiTools

/-! ## §1. Exact values. -/

namespace Value

/-- The values that JSON carries without loss. -/
inductive Exact : Value → Prop
  | null : Exact .null
  | bool (b : Bool) : Exact (.bool b)
  | int (i : Int) : Exact (.int i)
  | str (s : String) : Exact (.str s)
  | list {xs : List Value} (items : ∀ x ∈ xs, Exact x) : Exact (.list xs)
  | mapping {fields : List (String × Value)} (distinct : (fields.map (·.1)).Nodup)
      (values : ∀ f ∈ fields, Exact f.2) :
      Exact (.mapping (p := none) (fields.map fun f => (.str f.1, f.2)))

/-- A mapping with distinct names is exact if its values are. -/
theorem Exact.object {fields : List (String × Value)} (distinct : (fields.map (·.1)).Nodup)
    (values : ∀ f ∈ fields, Exact f.2) : Exact (Value.object fields) :=
  .mapping distinct values

theorem Exact.empty : Exact (.mapping (p := none) []) :=
  have noFields : Exact (Value.object []) := .object List.nodup_nil fun _ mem => nomatch mem
  noFields

end Value

namespace Entries

/-- What is stored under a new key comes last. -/
theorem insert_of_new {key v : Value} {es : Entries} (new : ∀ e ∈ es, key.sameKey e.1 = false) :
    insert key v es = es ++ [(key, v)] := by
  induction es with
  | nil => rfl
  | cons e es ih =>
      rw [List.forall_mem_cons] at new
      rw [insert, if_neg (Bool.eq_false_iff.mp new.1), ih new.2]
      rfl

/-- Entries under distinct names stay as they are when they are stored one after the other. -/
theorem ofList_of_distinct {fields : List (String × Value)}
    (distinct : (fields.map (·.1)).Nodup) :
    ofList (fields.map fun f => (Value.str f.1, f.2))
      = fields.map fun f => (Value.str f.1, f.2) := by
  have run : ∀ (fields : List (String × Value)) (acc : Entries), (fields.map (·.1)).Nodup →
      (∀ f ∈ fields, ∀ e ∈ acc, (Value.str f.1).sameKey e.1 = false) →
      (fields.map fun f => (Value.str f.1, f.2)).foldl (fun m e => insert e.1 e.2 m) acc
        = acc ++ fields.map fun f => (Value.str f.1, f.2) := by
    intro fields
    induction fields with
    | nil => exact fun acc _ _ => (List.append_nil acc).symm
    | cons f fields ih =>
        intro acc distinct new
        rw [List.map_cons, List.nodup_cons] at distinct
        rw [List.forall_mem_cons] at new
        rw [List.map_cons, List.foldl_cons, insert_of_new new.1, ih _ distinct.2 ?_,
          List.append_assoc]
        · rfl
        · intro g hg
          refine List.forall_mem_append.mpr ⟨new.2 g hg, List.forall_mem_singleton.mpr ?_⟩
          rw [← Bool.not_eq_true, Value.sameKey_str_iff]
          intro same
          have name : f.1 = g.1 := Value.str.inj same
          exact distinct.1 (by rw [name]; exact List.mem_map_of_mem hg)
  exact run fields [] distinct fun _ _ _ mem => absurd mem List.not_mem_nil

end Entries

namespace Json

/-! ## §2. Characters of a string. -/

theorem hexValue?_digitChar {k : Nat} (h : k < 16) : hexValue? k.digitChar = some k := by
  have all : ∀ k < 16, hexValue? (Nat.digitChar k) = some k := by decide
  exact all k h

theorem unitDigits_of_digits {n x y z w : Nat} (hx : x < 16) (hy : y < 16) (hz : z < 16)
    (hw : w < 16) (value : n = ((x * 16 + y) * 16 + z) * 16 + w) :
    UnitDigits [x.digitChar, y.digitChar, z.digitChar, w.digitChar] n := by
  rw [value]
  exact .mk (hexValue?_digitChar hx) (hexValue?_digitChar hy) (hexValue?_digitChar hz)
    (hexValue?_digitChar hw)

/-- Four hexadecimal digits with zeros in front number the unit that they are made of. -/
theorem unitDigits_hexPadded {n : Nat} (h : n < 0x10000) : UnitDigits (Text.hexPadded 4 n) n := by
  have base : 1 < 16 := by omega
  by_cases h₁ : n < 16
  case pos =>
    rw [Text.hexPadded, Nat.toDigits_of_lt_base h₁]
    exact unitDigits_of_digits (x := 0) (y := 0) (z := 0) (by omega) (by omega) (by omega) h₁
      (by omega)
  case neg =>
    have low : n % 16 < 16 := Nat.mod_lt n (by omega)
    rw [Text.hexPadded, Nat.toDigits_of_base_le base (Nat.not_lt.mp h₁)]
    by_cases h₂ : n / 16 < 16
    case pos =>
      rw [Nat.toDigits_of_lt_base h₂]
      exact unitDigits_of_digits (x := 0) (y := 0) (by omega) (by omega) h₂ low (by omega)
    case neg =>
      have low₂ : n / 16 % 16 < 16 := Nat.mod_lt _ (by omega)
      rw [Nat.toDigits_of_base_le base (Nat.not_lt.mp h₂)]
      by_cases h₃ : n / 16 / 16 < 16
      case pos =>
        rw [Nat.toDigits_of_lt_base h₃]
        exact unitDigits_of_digits (x := 0) (by omega) h₃ low₂ low (by omega)
      case neg =>
        have low₃ : n / 16 / 16 % 16 < 16 := Nat.mod_lt _ (by omega)
        have h₄ : n / 16 / 16 / 16 < 16 := by omega
        rw [Nat.toDigits_of_base_le base (Nat.not_lt.mp h₃), Nat.toDigits_of_lt_base h₄]
        exact unitDigits_of_digits h₄ low₃ low₂ low (by omega)

theorem not_surrogate (c : Char) :
    isHighSurrogate c.toNat = false ∧ isLowSurrogate c.toNat = false := by
  have valid : c.toNat < 0xD800 ∨ 0xDFFF < c.toNat ∧ c.toNat < 0x110000 := c.valid
  simp only [isHighSurrogate, isLowSurrogate, Bool.and_eq_false_iff, decide_eq_false_iff_not]
  omega

theorem unitPoint_toNat (c : Char) : unitPoint c.toNat = .char c := by
  obtain ⟨high, low⟩ := not_surrogate c
  rw [unitPoint, high, low, Bool.or_self, if_neg Bool.false_ne_true, Char.ofNat_toNat]

/-- A character above the first plane is a pair of surrogates. -/
theorem pair_of_le_toNat {c : Char} (h : 0x10000 ≤ c.toNat) :
    isHighSurrogate (0xD800 + (c.toNat - 0x10000) / 0x400) = true
      ∧ isLowSurrogate (0xDC00 + (c.toNat - 0x10000) % 0x400) = true
      ∧ pairChar (0xD800 + (c.toNat - 0x10000) / 0x400) (0xDC00 + (c.toNat - 0x10000) % 0x400)
        = c := by
  have valid : c.toNat < 0xD800 ∨ 0xDFFF < c.toNat ∧ c.toNat < 0x110000 := c.valid
  refine ⟨?_, ?_, ?_⟩
  · simp only [isHighSurrogate, Bool.and_eq_true, decide_eq_true_iff]
    omega
  · simp only [isLowSurrogate, Bool.and_eq_true, decide_eq_true_iff]
    omega
  · have number : 0x10000 + (0xD800 + (c.toNat - 0x10000) / 0x400 - 0xD800) * 0x400
        + (0xDC00 + (c.toNat - 0x10000) % 0x400 - 0xDC00) = c.toNat := by omega
    rw [pairChar, number, Char.ofNat_toNat]

/-- The escape of a character by its number spells it. -/
theorem characters_charEscape (c : Char) {cs : List Char} {ps : List Text.Point}
    (others : Characters cs ps) : Characters (charEscape c ++ cs) (.char c :: ps) := by
  by_cases small : c.toNat < 0x10000
  case pos =>
    have escape : charEscape c = unitEscape c.toNat := by
      unfold charEscape
      exact if_pos small
    have spelled := Characters.unit (unitDigits_hexPadded small)
      (fun high => absurd high (by rw [(not_surrogate c).1]; exact Bool.false_ne_true)) others
    rw [unitPoint_toNat] at spelled
    rw [escape]
    exact spelled
  case neg =>
    have escape : charEscape c = unitEscape (0xD800 + (c.toNat - 0x10000) / 0x400)
        ++ unitEscape (0xDC00 + (c.toNat - 0x10000) % 0x400) := by
      unfold charEscape
      exact if_neg small
    obtain ⟨high, low, pair⟩ := pair_of_le_toNat (Nat.not_lt.mp small)
    have valid : c.toNat < 0xD800 ∨ 0xDFFF < c.toNat ∧ c.toNat < 0x110000 := c.valid
    have first : 0xD800 + (c.toNat - 0x10000) / 0x400 < 0x10000 := by omega
    have second : 0xDC00 + (c.toNat - 0x10000) % 0x400 < 0x10000 := by omega
    have spelled := Characters.pair (unitDigits_hexPadded first) (unitDigits_hexPadded second)
      high low others
    rw [pair] at spelled
    rw [escape, List.append_assoc, unitEscape, unitEscape, List.cons_append, List.cons_append,
      List.cons_append, List.cons_append]
    exact spelled

/-- **A character inside a string spells itself**, escaped or not. -/
theorem characters_stringChar (ascii : Bool) (c : Char) {cs : List Char} {ps : List Text.Point}
    (others : Characters cs ps) : Characters (stringChar ascii c ++ cs) (.char c :: ps) := by
  have short : ∀ {letter : Char}, shortEscape? letter = some c →
      Characters ('\\' :: letter :: cs) (.char c :: ps) := fun escape => .short escape others
  unfold stringChar
  split
  next quoted =>
    rw [Bool.or_eq_true, beq_iff_eq, beq_iff_eq] at quoted
    rcases quoted with rfl | rfl
    · exact short rfl
    · exact short rfl
  next plain =>
    rw [Bool.or_eq_true, beq_iff_eq, beq_iff_eq, not_or] at plain
    split
    next same => exact short (by rw [beq_iff_eq.mp same]; rfl)
    next =>
    split
    next same => exact short (by rw [beq_iff_eq.mp same]; rfl)
    next =>
    split
    next same => exact short (by rw [beq_iff_eq.mp same]; rfl)
    next =>
    split
    next same => exact short (by rw [beq_iff_eq.mp same]; rfl)
    next =>
    split
    next same => exact short (by rw [beq_iff_eq.mp same]; rfl)
    next =>
    split
    next => exact characters_charEscape c others
    next printable =>
      rw [Bool.or_eq_true, not_or, decide_eq_true_iff] at printable
      exact .plain (Nat.not_lt.mp printable.1) plain.1 plain.2 others

theorem characters_flatMap (ascii : Bool) (cs : List Char) :
    Characters (cs.flatMap (stringChar ascii)) (cs.map .char) := by
  induction cs with
  | nil => exact .nil
  | cons c cs ih =>
      rw [List.flatMap_cons, List.map_cons]
      exact characters_stringChar ascii c ih

/-- Characters alone make up a text that is not torn. -/
theorem ofPoints_chars (s : String) : Value.ofPoints (s.toList.map .char) = .str s := by
  have whole : (s.toList.map Text.Point.char).any Text.Point.isHalf = false := by
    rw [List.any_map, List.any_eq_false]
    exact fun c _ => Bool.false_ne_true
  have shown : (s.toList.map Text.Point.char).map Text.Point.shown = s.toList := by
    rw [List.map_map]
    exact List.map_id _
  rw [Value.ofPoints, dif_neg (Bool.eq_false_iff.mp whole), shown, String.ofList_toList]

theorem toList_string (ascii : Bool) (s : String) :
    (string ascii s).toList = '"' :: (s.toList.flatMap (stringChar ascii) ++ ['"']) :=
  String.toList_ofList

/-! ## §3. Whole numbers. -/

theorem numberOf_toDigits (n : Nat) : numberOf (Nat.toDigits 10 n) = n := by
  have value := Nat.ofDigitChars_toDigits (n := n) (by omega : 1 < 10) (by omega)
  rw [Nat.ofDigitChars_eq_foldl] at value
  rw [numberOf, Number.ofDigits, List.foldl_map]
  simpa only [Nat.mul_comm] using value

theorem wholePart_toDigits (n : Nat) : WholePart (Nat.toDigits 10 n) := by
  refine ⟨⟨Nat.toDigits_ne_nil, fun d mem => Nat.isDigit_of_mem_toDigits (by omega) (by omega) mem⟩,
    ?_⟩
  induction n using Nat.strongRecOn with
  | ind n ih =>
      intro zero
      by_cases small : n < 10
      case pos =>
        rw [Nat.toDigits_of_lt_base small] at zero ⊢
        rw [Option.some.inj zero]
      case neg =>
        rw [Nat.toDigits_of_base_le (by omega) (Nat.not_lt.mp small),
          List.head?_append, Option.or_of_isSome (by simp [Nat.toDigits_ne_nil])] at zero
        -- the digits in front are those of a number that is not zero
        have front := ih (n / 10) (by omega) zero
        have value := numberOf_toDigits (n / 10)
        rw [front] at value
        have : numberOf ['0'] = 0 := rfl
        omega

theorem toList_toString (i : Int) :
    (toString i).toList = signed (decide (i < 0)) (Nat.toDigits 10 i.natAbs) := by
  rw [Int.toString_eq_repr, Int.repr_eq_if]
  by_cases negative : i < 0
  case pos =>
    have digits : (-i).toNat = i.natAbs := by omega
    rw [if_neg (by omega), digits, String.toList_append, Nat.repr_eq_ofList_toDigits,
      String.toList_ofList, String.toList_ofList, signed, decide_eq_true negative]
    rfl
  case neg =>
    have digits : i.toNat = i.natAbs := by omega
    rw [if_pos (by omega), digits, Nat.repr_eq_ofList_toDigits, String.toList_ofList, signed,
      decide_eq_false negative]
    rfl

/-! ## §4. Styles. -/

/-- A style that puts nothing but blanks beside its commas and colons. -/
structure Style.Standard (style : Style) : Prop where
  item : ∃ ws, Blank ws ∧ style.itemSeparator.toList = ',' :: ws
  key : ∃ ws, Blank ws ∧ style.keySeparator.toList = ':' :: ws

theorem standard_compact (nesting : Nat) : (compact nesting).Standard where
  item := ⟨[], Blank.nil, (rfl : ",".toList = [','])⟩
  key := ⟨[], Blank.nil, (rfl : ":".toList = [':'])⟩

theorem standard_pretty (nesting : Nat) : (pretty nesting).Standard where
  item := ⟨[], Blank.nil, (rfl : ",".toList = [','])⟩
  key := ⟨[' '], List.forall_mem_singleton.mpr (by decide), (rfl : ": ".toList = [':', ' '])⟩

theorem blank_lineBreak (style : Style) (level : Nat) : Blank (lineBreak style level).toList := by
  unfold lineBreak
  split
  next => exact Blank.nil
  next =>
    rw [String.toList_ofList]
    refine List.forall_mem_cons.mpr ⟨by decide, fun c mem => ?_⟩
    rw [List.eq_of_mem_replicate mem]
    decide

theorem toList_bracketed_nil (style : Style) (level : Nat) (opening closing : String) :
    (bracketed style level opening closing []).toList = opening.toList ++ closing.toList :=
  String.toList_append

/-- What stands between brackets: a line break, parts with a comma, blanks and a line break between,
and another line break. -/
theorem toList_bracketed {style : Style} {gap : List Char}
    (item : style.itemSeparator.toList = ',' :: gap) (level : Nat) {opening closing : String}
    {o c : Char} (opens : opening.toList = [o]) (closes : closing.toList = [c])
    {parts : List String} (ne_nil : parts ≠ []) :
    (bracketed style level opening closing parts).toList
      = o :: ((lineBreak style (level + 1)).toList
        ++ ((',' :: (gap ++ (lineBreak style (level + 1)).toList)).intercalate
            (parts.map String.toList) ++ (lineBreak style level).toList) ++ [c]) := by
  rw [bracketed, if_neg (by simpa using ne_nil)]
  simp only [String.toList_append, String.toList_intercalate, item, opens, closes,
    List.append_assoc, List.cons_append, List.nil_append]

/-- Parts with a comma and blanks between, and blanks in front and behind: the blanks go to the
parts beside them, so that only the commas are left between. -/
theorem exists_commaJoined {α β γ : Type} (whole : α → List Char) (worth : α → γ)
    (text : β → List Char) (worthOf : β → γ) {Good : α → Prop} {gap last : List Char}
    (blank_gap : Blank gap) (blank_last : Blank last) {parts : List β} (ne_nil : parts ≠ [])
    (fill : ∀ p ∈ parts, ∀ before after, Blank before → Blank after →
      ∃ a, Good a ∧ worth a = worthOf p ∧ whole a = before ++ (text p ++ after))
    {before : List Char} (blank : Blank before) :
    ∃ as : List α, as ≠ [] ∧ (∀ a ∈ as, Good a) ∧ as.map worth = parts.map worthOf
      ∧ before ++ ((',' :: gap).intercalate (parts.map text) ++ last)
        = commaJoined (as.map whole) := by
  induction parts generalizing before with
  | nil => exact absurd rfl ne_nil
  | cons p parts ih =>
      rw [List.forall_mem_cons] at fill
      cases parts with
      | nil =>
          obtain ⟨a, good, same_worth, same⟩ := fill.1 before last blank blank_last
          refine ⟨[a], List.cons_ne_nil a [], List.forall_mem_singleton.mpr good, ?_, ?_⟩
          · rw [List.map_singleton, List.map_singleton, same_worth]
          · rw [List.map_singleton, List.map_singleton, commaJoined_singleton, same,
              List.intercalate_singleton]
      | cons next parts =>
          obtain ⟨a, good, same_worth, same⟩ := fill.1 before [] blank Blank.nil
          obtain ⟨as, some_more, goods, worths, others⟩ :=
            ih (List.cons_ne_nil next parts) fill.2 blank_gap
          refine ⟨a :: as, List.cons_ne_nil a as, List.forall_mem_cons.mpr ⟨good, goods⟩, ?_, ?_⟩
          · rw [List.map_cons, worths, same_worth]
            rfl
          · show before ++ ((',' :: gap).intercalate (text p :: (next :: parts).map text) ++ last)
              = commaJoined (whole a :: as.map whole)
            rw [commaJoined_cons _ (by simpa using some_more), ← others, same, List.append_nil,
              List.intercalate_cons_of_ne_nil (by simp)]
            simp only [List.append_assoc, List.cons_append]

/-! ## §5. Values. -/

section Values

variable {style : Style} {levels level : Nat} {v : Value} {s : String}

theorem spells_of_whole {i : Int} (h : whole i = .ok s) :
    Spells shortEnough levels s.toList (.int i) := by
  unfold whole at h
  split at h
  next fit =>
    injection h with h
    subst h
    have length : shortEnough (Nat.toDigits 10 i.natAbs).length := fit
    have spelled : Spells shortEnough levels _ _ :=
      .whole (decide (i < 0)) (wholePart_toDigits i.natAbs) length
    have value : (if decide (i < 0) = true then -(numberOf (Nat.toDigits 10 i.natAbs) : Int)
        else numberOf (Nat.toDigits 10 i.natAbs)) = i := by
      rw [numberOf_toDigits]
      split
      next negative =>
        rw [decide_eq_true_iff] at negative
        omega
      next negative =>
        rw [decide_eq_true_iff] at negative
        omega
    rw [value] at spelled
    rw [toList_toString]
    exact spelled
  next => exact absurd h (by simp)

/-- What is written on a level is written without it. -/
theorem of_onLevel {written : Except WriteProblem String} (h : onLevel style level written = .ok s) :
    written = .ok s := by
  unfold onLevel at h
  split at h
  next => exact h
  next => exact absurd h (by simp)

/-- The items of a list are written one by one. -/
theorem exists_of_writeItems {xs : List Value} {parts : List String}
    (h : writeItems style level xs = .ok parts) :
    ∃ ps : List (String × Value), ps.map (·.1) = parts ∧ ps.map (·.2) = xs
      ∧ ∀ p ∈ ps, writeAt style level p.2 = .ok p.1 := by
  induction xs generalizing parts with
  | nil =>
      rw [writeItems] at h
      injection h with h
      exact ⟨[], h, rfl, fun p mem => absurd mem List.not_mem_nil⟩
  | cons x xs ih =>
      rw [writeItems, bind_eq_ok] at h
      obtain ⟨part, first, later⟩ := h
      obtain ⟨rest, others, joined⟩ := bind_eq_ok.mp later
      obtain ⟨ps, rfl, rfl, written⟩ := ih others
      exact ⟨(part, x) :: ps, Except.ok.inj joined, rfl, List.forall_mem_cons.mpr ⟨first, written⟩⟩

/-- A member as it is written, by the text of its value. -/
def memberText (style : Style) (p : String × (String × Value)) : String :=
  string style.ascii p.2.1 ++ style.keySeparator ++ p.1

/-- The members of a mapping with names as keys are written one by one. -/
theorem exists_of_writeMembers {fields : List (String × Value)} {parts : List String}
    (h : writeMembers style level (fields.map fun f => (.str f.1, f.2)) = .ok parts) :
    ∃ ps : List (String × (String × Value)), ps.map (memberText style) = parts
      ∧ ps.map (·.2) = fields ∧ ∀ p ∈ ps, writeAt style level p.2.2 = .ok p.1 := by
  induction fields generalizing parts with
  | nil =>
      rw [List.map_nil, writeMembers] at h
      injection h with h
      exact ⟨[], h, rfl, fun p mem => absurd mem List.not_mem_nil⟩
  | cons f fields ih =>
      rw [List.map_cons, writeMembers, keyText, ok_bind, bind_eq_ok] at h
      obtain ⟨part, first, later⟩ := h
      obtain ⟨rest, others, joined⟩ := bind_eq_ok.mp later
      obtain ⟨ps, rfl, rfl, written⟩ := ih others
      exact ⟨(part, f) :: ps, Except.ok.inj joined, rfl, List.forall_mem_cons.mpr ⟨first, written⟩⟩

/-- A written member with blanks around is a member. -/
theorem exists_member (standard : style.Standard) (p : String × (String × Value))
    (spelled : Spells shortEnough levels p.1.toList p.2.2) {before after : List Char}
    (blank : Blank before) (blank' : Blank after) :
    ∃ m : Member, (m.Padded ∧ Spells shortEnough levels m.text m.value) ∧ m.entry = (.str p.2.1, p.2.2)
      ∧ m.whole = before ++ ((memberText style p).toList ++ after) := by
  obtain ⟨gap, blank_gap, key⟩ := standard.key
  refine ⟨⟨⟨gap, p.1.toList, after, p.2.2⟩, before, p.2.1.toList.flatMap (stringChar style.ascii),
    [], p.2.1.toList.map .char⟩,
    ⟨⟨⟨blank_gap, blank'⟩, blank, Blank.nil, characters_flatMap _ _⟩, spelled⟩, ?_, ?_⟩
  · rw [Member.entry, ofPoints_chars]
  simp only [Member.whole, Item.whole, memberText, String.toList_append, toList_string, key,
    List.append_assoc, List.cons_append, List.nil_append]

/-- **Texts of values between brackets spell their list.** -/
theorem spells_bracketed_list (standard : style.Standard) (level : Nat)
    (ps : List (String × Value))
    (spelled : ∀ p ∈ ps, Spells shortEnough levels p.1.toList p.2) :
    Spells shortEnough (levels + 1) (bracketed style level "[" "]" (ps.map (·.1))).toList
      (.list (ps.map (·.2))) := by
  obtain ⟨gap, blank_gap, item⟩ := standard.item
  by_cases empty : ps = []
  case pos =>
    rw [empty, List.map_nil, toList_bracketed_nil]
    exact .emptyList Blank.nil
  case neg =>
    -- every part is the text of an item, whatever blanks it gets
    have fill : ∀ p ∈ ps, ∀ before after, Blank before → Blank after →
        ∃ i : Item, (i.Padded ∧ Spells shortEnough levels i.text i.value) ∧ i.value = p.2
          ∧ i.whole = before ++ (p.1.toList ++ after) :=
      fun p mem before after blank blank' =>
        ⟨⟨before, p.1.toList, after, p.2⟩, ⟨⟨blank, blank'⟩, spelled p mem⟩, rfl, rfl⟩
    obtain ⟨items, ne_nil, good, values, joined⟩ :=
      exists_commaJoined Item.whole Item.value (fun p => p.1.toList) (·.2)
        (blank_append blank_gap (blank_lineBreak style (level + 1))) (blank_lineBreak style level)
        empty fill (blank_lineBreak style (level + 1))
    have whole := Spells.list ne_nil (fun i mem => (good i mem).1) fun i mem => (good i mem).2
    rw [← joined, values] at whole
    rw [toList_bracketed item level rfl rfl (by simpa using empty), List.map_map]
    exact whole

/-- **Members between braces spell their mapping**, if their names are distinct. -/
theorem spells_bracketed_mapping (standard : style.Standard) (level : Nat)
    (ps : List (String × (String × Value))) (distinct : ((ps.map (·.2)).map (·.1)).Nodup)
    (spelled : ∀ p ∈ ps, Spells shortEnough levels p.1.toList p.2.2) :
    Spells shortEnough (levels + 1)
      (bracketed style level "\x7b" "\x7d" (ps.map (memberText style))).toList
      (.mapping (p := none) ((ps.map (·.2)).map fun f => (.str f.1, f.2))) := by
  obtain ⟨gap, blank_gap, item⟩ := standard.item
  by_cases empty : ps = []
  case pos =>
    rw [empty, List.map_nil, toList_bracketed_nil]
    exact .emptyMapping Blank.nil
  case neg =>
    have fill : ∀ p ∈ ps, ∀ before after, Blank before → Blank after →
        ∃ m : Member, (m.Padded ∧ Spells shortEnough levels m.text m.value)
          ∧ m.entry = (.str p.2.1, p.2.2)
          ∧ m.whole = before ++ ((memberText style p).toList ++ after) :=
      fun p mem before after blank blank' =>
        exists_member standard p (spelled p mem) blank blank'
    obtain ⟨members, ne_nil, good, entries, joined⟩ :=
      exists_commaJoined Member.whole Member.entry (fun p => (memberText style p).toList)
        (fun p => (Value.str p.2.1, p.2.2))
        (blank_append blank_gap (blank_lineBreak style (level + 1))) (blank_lineBreak style level)
        empty fill (blank_lineBreak style (level + 1))
    have whole := Spells.mapping ne_nil (fun m mem => (good m mem).1) fun m mem => (good m mem).2
    have stored := Entries.ofList_of_distinct distinct
    rw [List.map_map] at stored ⊢
    rw [← joined, entries] at whole
    rw [toList_bracketed item level rfl rfl (by simpa using empty), List.map_map, ← stored]
    exact whole

/-- **THE TEXT THAT IS WRITTEN FOR AN EXACT VALUE SPELLS IT**, on as many levels as it nests. -/
theorem spells_of_writeAt (standard : style.Standard) (exact : v.Exact) :
    ∀ level s, writeAt style level v = .ok s → Spells shortEnough v.depth s.toList v := by
  induction exact with
  | null =>
      intro level s h
      rw [writeAt] at h
      injection h with h
      subst h
      exact .word (by simp [words])
  | bool b =>
      intro level s h
      rw [writeAt] at h
      injection h with h
      subst h
      cases b with
      | true => exact .word (by simp [words])
      | false => exact .word (by simp [words])
  | int i =>
      intro level s h
      rw [writeAt] at h
      exact spells_of_whole h
  | str t =>
      intro level s h
      rw [writeAt] at h
      injection h with h
      subst h
      rw [toList_string, ← ofPoints_chars]
      exact .string (characters_flatMap style.ascii t.toList)
  | list items ih =>
      intro level s h
      rw [writeAt] at h
      obtain ⟨parts, written, rfl⟩ := map_eq_ok.mp (of_onLevel h)
      obtain ⟨ps, rfl, rfl, each⟩ := exists_of_writeItems written
      -- each part spells on the levels that it nests, so also on those of the deepest of them
      rw [Value.depth]
      refine spells_bracketed_list standard level ps fun p mem => ?_
      have part : p.2 ∈ ps.map (·.2) := List.mem_map_of_mem mem
      exact (ih p.2 part _ _ (each p mem)).mono (fun _ fit => fit)
        (Value.depth_le_depthOfItems part)
  | mapping distinct values ih =>
      intro level s h
      rw [writeAt] at h
      obtain ⟨parts, written, rfl⟩ := map_eq_ok.mp (of_onLevel h)
      obtain ⟨ps, rfl, rfl, each⟩ := exists_of_writeMembers written
      rw [Value.depth]
      refine spells_bracketed_mapping standard level ps distinct fun p mem => ?_
      have part : p.2 ∈ ps.map (·.2) := List.mem_map_of_mem mem
      exact (ih p.2 part _ _ (each p mem)).mono (fun _ fit => fit)
        (Value.depth_le_depthOfEntries (List.mem_map_of_mem (f := fun f => (Value.str f.1, f.2)) part))

/-- What is written for an exact value holds it. -/
theorem denotes_of_write (standard : style.Standard) (exact : v.Exact)
    (h : write style v = .ok s) : Denotes shortEnough v.depth s.toList v :=
  ⟨⟨[], s.toList, [], v⟩, ⟨Blank.nil, Blank.nil⟩, spells_of_writeAt standard exact 0 s h,
    (List.append_nil _).symm⟩

/-! ## §6. Reading back. -/

/-- **WHAT IS WRITTEN IS READ BACK**, if as many levels may be entered. -/
theorem readWhole_of_write (standard : style.Standard) (exact : v.Exact)
    (h : write style v = .ok s) {nesting : Nat} (deep : v.depth ≤ nesting) :
    readWhole nesting s.toList = .ok v := by
  obtain ⟨i, padded, spelled, text⟩ := denotes_of_write standard exact h
  exact readWhole_eq_ok_of_denotes ⟨i, padded, spelled.mono (fun _ fit => fit) deep, text⟩

/-- The text of an exact value does not start with a byte order mark. -/
theorem noMark_of_write (standard : style.Standard) (exact : v.Exact)
    (h : write style v = .ok s) : s.toList.head? ≠ some (Char.ofNat 0xFEFF) := by
  obtain ⟨c, cs, text, start⟩ := (spells_of_writeAt standard exact 0 s h).exists_cons
  rw [text, List.head?_cons, ne_eq, Option.some.injEq]
  rintro rfl
  exact absurd start.ascii (by decide)

theorem read_of_write (standard : style.Standard) (exact : v.Exact) (h : write style v = .ok s)
    {nesting : Nat} (deep : v.depth ≤ nesting) : read nesting s = .ok v := by
  unfold read
  dsimp only
  rw [if_neg (noMark_of_write standard exact h)]
  exact readWhole_of_write standard exact h deep

end Values

end Json

end ApiTools
