/-
  ApiTools.Proofs.Text.Utf8
  ─────────────────────────
  **TEXTS SURVIVE UTF-8.**

  A character is written as one to four octets by the size of its number, and
  each of the four forms is read back (`readUtf8_one` … `readUtf8_four`).  The
  forms that reading rules out, those longer than needed and the surrogates,
  are never written.  A text is therefore read back whole
  (`decode_encodeUtf8`), and if it starts plainly also by a reader that has to
  find out the encoding (`decodeDetected_encodeUtf8`).
-/
import ApiTools.Text.Encoding
import Mathlib.Data.List.Basic
import Mathlib.Data.List.TakeWhile

namespace ApiTools.Text

/-! ## §1. Octets and numbers. -/

theorem toNat_octet {k : Nat} (h : k < 256) : (UInt8.ofNat k).toNat = k := by
  show k % 256 = k
  omega

theorem octet_lt_iff {k : Nat} (h : k < 256) (b : UInt8) : UInt8.ofNat k < b ↔ k < b.toNat := by
  rw [UInt8.lt_iff_toNat_lt, toNat_octet h]

theorem octet_le_iff {k : Nat} (h : k < 256) (b : UInt8) : UInt8.ofNat k ≤ b ↔ k ≤ b.toNat := by
  rw [UInt8.le_iff_toNat_le, toNat_octet h]

theorem le_octet_iff {k : Nat} (h : k < 256) (b : UInt8) : b ≤ UInt8.ofNat k ↔ b.toNat ≤ k := by
  rw [UInt8.le_iff_toNat_le, toNat_octet h]

theorem octet_eq_iff {k : Nat} (h : k < 256) (b : UInt8) : UInt8.ofNat k = b ↔ k = b.toNat := by
  rw [← UInt8.toNat_inj, toNat_octet h]

/-- Six bits make an octet that continues a sequence. -/
theorem isContinuation_octet {k : Nat} (h : k < 64) :
    isContinuation (UInt8.ofNat (0x80 + k)) = true := by
  have small : 0x80 + k < 256 := by omega
  unfold isContinuation
  rw [Bool.and_eq_true, decide_eq_true_eq, decide_eq_true_eq, le_octet_iff small,
    octet_le_iff small]
  constructor
  · show 0x80 ≤ 0x80 + k
    omega
  · show 0x80 + k ≤ 0xBF
    omega

/-- The numbers of characters: no surrogates, and none behind the last. -/
def IsCode (n : Nat) : Prop := n < 0xD800 ∨ (0xE000 ≤ n ∧ n < 0x110000)

theorem isCode_toNat (c : Char) : IsCode c.toNat := by
  have valid := c.valid
  unfold UInt32.isValidChar Nat.isValidChar at valid
  unfold IsCode
  have n_eq : c.toNat = c.val.toNat := rfl
  omega

theorem charOf_toNat (c : Char) : charOf c.toNat = c := by
  have code := isCode_toNat c
  unfold IsCode at code
  unfold charOf
  rw [if_neg (by omega), Char.ofNat_toNat]

/-! ## §2. The four forms. -/

section Forms

variable {n : Nat} (surrogates : Bool) (rest : List UInt8)

theorem readUtf8_one (h : n < 0x80) : readUtf8 surrogates (UInt8.ofNat n :: rest) = .char n 1 := by
  have small : n < 256 := by omega
  have first : UInt8.ofNat n < 0x80 := (octet_lt_iff small _).mpr h
  unfold readUtf8
  simp only [List.headD_cons, if_pos first, toNat_octet small]

/-- A second octet in the right range fits. -/
theorem secondFits_octet {a b : Nat} (ha : a < 256) (hb : b < 64)
    (shortest : a = 0xE0 → 0x20 ≤ b) (no_surrogate : a = 0xED → b < 0x20)
    (no_longer : a = 0xF0 → 0x10 ≤ b) (last : a = 0xF4 → b < 0x10) :
    secondFits surrogates (UInt8.ofNat a) (UInt8.ofNat (0x80 + b)) = true := by
  have small : 0x80 + b < 256 := by omega
  unfold secondFits
  simp only [isContinuation_octet hb, Bool.and_eq_true, Bool.not_eq_true', Bool.and_eq_false_iff,
    beq_eq_false_iff_ne, ne_eq, decide_eq_false_iff_not, octet_eq_iff ha, octet_lt_iff small,
    le_octet_iff small, UInt8.reduceToNat, true_and]
  refine ⟨⟨⟨?_, ?_⟩, ?_⟩, ?_⟩
  · omega
  · left
    omega
  · omega
  · omega

/-- The number of octets that a first octet announces, itself among them. -/
def announced (first : UInt8) : Nat :=
  if first < 0x80 then 1 else if first < 0xE0 then 2 else if first < 0xF0 then 3 else 4

/-- How many octets behind the first belong to its sequence. -/
def following (first : UInt8) : List UInt8 → Nat
  | [] => 0
  | second :: others =>
    if secondFits (surrogates && others.head?.any isContinuation) first second then
      1 + (others.takeWhile isContinuation).length
    else 0

/-- If all octets that a first one announces follow, they are read as one character. -/
theorem readUtf8_of_following {first : UInt8} (lead : 0xC2 ≤ first ∧ first < 0xF5)
    (whole : following surrogates first (rest.take (announced first - 1)) = announced first - 1) :
    readUtf8 surrogates (first :: rest)
      = .char (sequenceCode (announced first) (first :: rest)) (announced first) := by
  have not_ascii : ¬ first < 0x80 := by
    intro ascii
    have low := lead.1
    rw [UInt8.lt_iff_toNat_lt] at ascii
    rw [UInt8.le_iff_toNat_le] at low
    simp only [UInt8.reduceToNat] at low ascii
    omega
  have is_lead : ¬ (first < 0xC2 || 0xF5 ≤ first) = true := by
    rw [Bool.or_eq_true, decide_eq_true_eq, decide_eq_true_eq, not_or]
    exact ⟨UInt8.not_lt.mpr lead.1, UInt8.not_le.mpr lead.2⟩
  show (if first < 0x80 then Reading.char first.toNat 1
    else if first < 0xC2 || 0xF5 ≤ first then _
    else if following surrogates first (rest.take (announced first - 1)) = announced first - 1 then
      Reading.char (sequenceCode (announced first) (first :: rest)) (announced first)
    else _) = _
  rw [if_neg not_ascii, if_neg is_lead, if_pos whole]

/-- What a first octet that is at least `0xC2` announces. -/
theorem announced_octet {a : Nat} (lo : 0xC2 ≤ a) (hi : a < 256) :
    announced (UInt8.ofNat a) = if a < 0xE0 then 2 else if a < 0xF0 then 3 else 4 := by
  unfold announced
  simp only [octet_lt_iff hi, UInt8.reduceToNat]
  rw [if_neg (by omega)]

/-- An octet that continues a sequence carries six bits. -/
theorem bits_octet {k : Nat} (h : k < 64) : (UInt8.ofNat (0x80 + k)).toNat % 64 = k := by
  rw [toNat_octet (by omega)]
  omega

/-- A first octet, a second that fits and octets that continue are read as one character. -/
theorem readUtf8_sequence (a b : Nat) (ks : List Nat) (size : Nat) (lo : 0xC2 ≤ a) (hi : a < 0xF5)
    (size_eq : (if a < 0xE0 then 2 else if a < 0xF0 then 3 else 4) = size)
    (length : ks.length + 2 = size) (hb : b < 64) (hks : ∀ k ∈ ks, k < 64)
    (fits : ∀ s, secondFits s (UInt8.ofNat a) (UInt8.ofNat (0x80 + b)) = true) :
    readUtf8 surrogates (UInt8.ofNat a :: UInt8.ofNat (0x80 + b)
        :: (ks.map (fun k => UInt8.ofNat (0x80 + k)) ++ rest))
      = .char (ks.foldl (fun n k => n * 64 + k) (a % Nat.pow 2 (7 - size) * 64 + b)) size := by
  have small : a < 256 := by omega
  have lead : 0xC2 ≤ UInt8.ofNat a ∧ UInt8.ofNat a < 0xF5 := by
    rw [le_octet_iff small, octet_lt_iff small]
    exact ⟨lo, hi⟩
  have announced_eq : announced (UInt8.ofNat a) = size := by
    rw [announced_octet lo small, size_eq]
  -- the octets that belong to the sequence
  have taken : (UInt8.ofNat (0x80 + b) :: (ks.map (fun k => UInt8.ofNat (0x80 + k)) ++ rest)).take
      (size - 1) = UInt8.ofNat (0x80 + b) :: ks.map fun k => UInt8.ofNat (0x80 + k) := by
    have split : size - 1 = (ks.map fun k => UInt8.ofNat (0x80 + k)).length + 1 := by
      rw [List.length_map]
      omega
    rw [split, List.take_succ_cons, List.take_left]
  have continue_all : (ks.map fun k => UInt8.ofNat (0x80 + k)).takeWhile isContinuation
      = ks.map fun k => UInt8.ofNat (0x80 + k) := by
    apply List.takeWhile_eq_self_iff.mpr
    intro octet mem
    obtain ⟨k, hk, rfl⟩ := List.mem_map.mp mem
    exact isContinuation_octet (hks k hk)
  rw [readUtf8_of_following surrogates _ lead, announced_eq]
  · congr 1
    unfold sequenceCode
    rw [List.headD_cons, List.tail_cons, taken, List.foldl_cons, List.foldl_map,
      toNat_octet small, bits_octet hb]
    apply List.foldl_ext
    intro n k hk
    show n * 64 + _ % 64 = n * 64 + k
    rw [bits_octet (hks k hk)]
  · rw [announced_eq, taken, following, if_pos (fits _), continue_all, List.length_map]
    omega

theorem readUtf8_two (lo : 0x80 ≤ n) (hi : n < 0x800) :
    readUtf8 surrogates (UInt8.ofNat (0xC0 + n / 64) :: UInt8.ofNat (0x80 + n % 64) :: rest)
      = .char n 2 := by
  have fits : ∀ s, secondFits s (UInt8.ofNat (0xC0 + n / 64)) (UInt8.ofNat (0x80 + n % 64))
      = true := by
    intro s
    apply secondFits_octet s <;> omega
  have read := readUtf8_sequence surrogates rest (0xC0 + n / 64) (n % 64) [] 2 (by omega)
    (by omega) (if_pos (by omega)) rfl (by omega) (by simp) fits
  have code : (0xC0 + n / 64) % Nat.pow 2 5 * 64 + n % 64 = n := by
    show (0xC0 + n / 64) % 32 * 64 + n % 64 = n
    omega
  rw [List.foldl_nil, code] at read
  exact read

theorem readUtf8_three (lo : 0x800 ≤ n) (hi : n < 0x10000) (code : IsCode n) :
    readUtf8 surrogates (UInt8.ofNat (0xE0 + n / 4096) :: UInt8.ofNat (0x80 + n / 64 % 64)
        :: UInt8.ofNat (0x80 + n % 64) :: rest)
      = .char n 3 := by
  unfold IsCode at code
  have fits : ∀ s, secondFits s (UInt8.ofNat (0xE0 + n / 4096)) (UInt8.ofNat (0x80 + n / 64 % 64))
      = true := by
    intro s
    apply secondFits_octet s <;> omega
  have bits : ∀ k ∈ [n % 64], k < 64 := by
    intro k mem
    rw [List.mem_singleton.mp mem]
    omega
  have read := readUtf8_sequence surrogates rest (0xE0 + n / 4096) (n / 64 % 64) [n % 64] 3
    (by omega) (by omega) (by rw [if_neg (by omega), if_pos (by omega)]) rfl (by omega) bits fits
  have number : ((0xE0 + n / 4096) % Nat.pow 2 4 * 64 + n / 64 % 64) * 64 + n % 64 = n := by
    show ((0xE0 + n / 4096) % 16 * 64 + n / 64 % 64) * 64 + n % 64 = n
    omega
  rw [List.foldl_cons, List.foldl_nil, number] at read
  exact read

theorem readUtf8_four (lo : 0x10000 ≤ n) (code : IsCode n) :
    readUtf8 surrogates (UInt8.ofNat (0xF0 + n / 262144) :: UInt8.ofNat (0x80 + n / 4096 % 64)
        :: UInt8.ofNat (0x80 + n / 64 % 64) :: UInt8.ofNat (0x80 + n % 64) :: rest)
      = .char n 4 := by
  unfold IsCode at code
  have fits : ∀ s, secondFits s (UInt8.ofNat (0xF0 + n / 262144))
      (UInt8.ofNat (0x80 + n / 4096 % 64)) = true := by
    intro s
    apply secondFits_octet s <;> omega
  have bits : ∀ k ∈ [n / 64 % 64, n % 64], k < 64 := by
    intro k mem
    simp only [List.mem_cons, List.not_mem_nil, or_false] at mem
    omega
  have read := readUtf8_sequence surrogates rest (0xF0 + n / 262144) (n / 4096 % 64)
    [n / 64 % 64, n % 64] 4 (by omega) (by omega) (by rw [if_neg (by omega), if_neg (by omega)]) rfl
    (by omega) bits fits
  have number : (((0xF0 + n / 262144) % Nat.pow 2 3 * 64 + n / 4096 % 64) * 64 + n / 64 % 64) * 64
      + n % 64 = n := by
    show (((0xF0 + n / 262144) % 8 * 64 + n / 4096 % 64) * 64 + n / 64 % 64) * 64 + n % 64 = n
    omega
  rw [List.foldl_cons, List.foldl_cons, List.foldl_nil, number] at read
  exact read

end Forms

/-! ## §3. Characters and texts. -/

theorem encodeCharUtf8_ne_nil (c : Char) : encodeCharUtf8 c ≠ [] := by
  unfold encodeCharUtf8
  dsimp only
  split_ifs
  all_goals exact List.cons_ne_nil _ _

/-- A character is read back from its octets, whatever follows. -/
theorem readUtf8_encodeCharUtf8 (surrogates : Bool) (c : Char) (rest : List UInt8) :
    readUtf8 surrogates (encodeCharUtf8 c ++ rest)
      = .char c.toNat (encodeCharUtf8 c).length := by
  have code := isCode_toNat c
  unfold encodeCharUtf8
  dsimp only
  by_cases one : c.toNat < 0x80
  · rw [if_pos one]
    exact readUtf8_one surrogates rest one
  · by_cases two : c.toNat < 0x800
    · rw [if_neg one, if_pos two]
      exact readUtf8_two surrogates rest (by omega) two
    · by_cases three : c.toNat < 0x10000
      · rw [if_neg one, if_neg two, if_pos three]
        exact readUtf8_three surrogates rest (by omega) three code
      · rw [if_neg one, if_neg two, if_neg three]
        exact readUtf8_four surrogates rest (by omega) code

theorem decodeFrom_encodeUtf8 {position fuel : Nat} {acc cs : List Char} (surrogates : Bool)
    (enough : (encodeUtf8 cs).length < fuel) :
    decodeFrom .utf8 surrogates position acc fuel (encodeUtf8 cs) = .ok (acc.reverse ++ cs) := by
  induction cs generalizing position fuel acc with
  | nil =>
      cases fuel with
      | zero => exact absurd enough (Nat.not_lt_zero _)
      | succ fuel =>
          rw [List.append_nil]
          rfl
  | cons c cs ih =>
      have octets : encodeUtf8 (c :: cs) = encodeCharUtf8 c ++ encodeUtf8 cs := rfl
      have some_octet : 0 < (encodeCharUtf8 c).length :=
        List.length_pos_iff.mpr (encodeCharUtf8_ne_nil c)
      have not_empty : ¬ (encodeCharUtf8 c ++ encodeUtf8 cs).isEmpty = true := by
        simp [encodeCharUtf8_ne_nil c]
      rw [octets, List.length_append] at enough
      cases fuel with
      | zero => exact absurd enough (Nat.not_lt_zero _)
      | succ fuel =>
          rw [octets, decodeFrom, if_neg not_empty]
          rw [Encoding.readChar, readUtf8_encodeCharUtf8]
          show decodeFrom .utf8 surrogates (position + (encodeCharUtf8 c).length)
            (charOf c.toNat :: acc) fuel
            ((encodeCharUtf8 c ++ encodeUtf8 cs).drop (encodeCharUtf8 c).length) = _
          -- every character takes an octet or more, so what is left of the fuel is enough
          rw [charOf_toNat, List.drop_left, ih (by omega), List.reverse_cons, List.append_assoc]
          rfl

/-- **A text is read back from its octets.** -/
theorem decode_encodeUtf8 (surrogates : Bool) (cs : List Char) :
    decode .utf8 surrogates 0 (encodeUtf8 cs) = .ok cs :=
  decodeFrom_encodeUtf8 surrogates (Nat.lt_succ_self _)

/-! ## §4. Detection. -/

/-- The characters of ASCII but the one with the number zero. -/
def IsPlain (c : Char) : Prop := 0 < c.toNat ∧ c.toNat < 0x80

instance (c : Char) : Decidable (IsPlain c) := inferInstanceAs (Decidable (_ ∧ _))

theorem exists_octet_of_isPlain {c : Char} (h : IsPlain c) :
    ∃ x : UInt8, encodeCharUtf8 c = [x] ∧ 0 < x.toNat ∧ x.toNat < 0x80 := by
  have small : c.toNat < 256 := Nat.lt_trans h.2 (by omega)
  refine ⟨UInt8.ofNat c.toNat, ?_, ?_⟩
  · unfold encodeCharUtf8
    exact if_pos h.2
  · rw [toNat_octet small]
    exact h

theorem mark?_of_plain {x : UInt8} (rest : List UInt8) (h : 0 < x.toNat ∧ x.toNat < 0x80) :
    mark? (x :: rest) = none := by
  have other : ∀ k : Nat, k < 256 → (k = 0 ∨ 0x80 ≤ k) → x ≠ UInt8.ofNat k := by
    rintro k small out rfl
    rw [toNat_octet small] at h
    omega
  unfold mark?
  split
  next same => exact absurd (List.cons.inj same).1 (other 0x00 (by omega) (by omega))
  next same => exact absurd (List.cons.inj same).1 (other 0xFF (by omega) (by omega))
  next same => exact absurd (List.cons.inj same).1 (other 0xFE (by omega) (by omega))
  next same => exact absurd (List.cons.inj same).1 (other 0xFF (by omega) (by omega))
  next same => exact absurd (List.cons.inj same).1 (other 0xEF (by omega) (by omega))
  next => rfl

theorem unmarked_of_ne_zero {x y : UInt8} (rest : List UInt8) (hx : x ≠ 0) (hy : y ≠ 0) :
    unmarked (x :: y :: rest) = .utf8 := by
  match rest with
  | [] => rw [unmarked, if_neg hx, if_neg hy]
  | [_] => rfl
  | _ :: _ :: _ => rw [unmarked, if_neg hx, if_neg hy]

/-- Octets that start like plain text are UTF-8. -/
theorem detect_of_plain {x y : UInt8} (rest : List UInt8) (hx : 0 < x.toNat ∧ x.toNat < 0x80)
    (hy : 0 < y.toNat) : detect (x :: y :: rest) = (.utf8, 0) := by
  have ne_zero : ∀ {b : UInt8}, 0 < b.toNat → b ≠ 0 := by
    rintro b above rfl
    exact absurd above (by decide)
  rw [detect, mark?_of_plain _ hx, unmarked_of_ne_zero rest (ne_zero hx.1) (ne_zero hy)]
  rfl

/-- **A text that starts with two plain characters is read back**, without being told its
encoding. -/
theorem decodeDetected_encodeUtf8 {a b : Char} {cs : List Char} (ha : IsPlain a)
    (hb : IsPlain b) : decodeDetected (encodeUtf8 (a :: b :: cs)) = .ok (a :: b :: cs) := by
  have detected : detect (encodeUtf8 (a :: b :: cs)) = (.utf8, 0) := by
    obtain ⟨x, first, hx⟩ := exists_octet_of_isPlain ha
    obtain ⟨y, second, hy⟩ := exists_octet_of_isPlain hb
    rw [encodeUtf8, List.flatMap_cons, List.flatMap_cons, first, second]
    exact detect_of_plain _ hx hy.1
  unfold decodeDetected
  rw [detected]
  exact decode_encodeUtf8 true _

end ApiTools.Text
