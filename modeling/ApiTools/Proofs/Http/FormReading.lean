/-
  ApiTools.Proofs.Http.FormReading
  ────────────────────────────────
  **QUERY STRINGS ARE READ BACK.**

  `decode` reads a query string as it was defined to be read: it is split at
  every `&` and each part at its first `=`; in names and values a plus sign is
  a space, percent escapes are octets, and the octets are UTF-8.  None of this
  knows how query strings are written.

  A name or value is read back from its encoding (`decodeText_encodeText`), in
  which neither separator occurs (`separators_not_mem_encodeText`), so pairs
  are read back as they were (`decode_encode`), whatever characters are in
  them.
-/
import ApiTools.Http.Form
import ApiTools.Http.Message
import ApiTools.Proofs.Text.Utf8

namespace ApiTools.Http.Form

open Text

/-! ## §1. Reading. -/

/-- A plus sign stands for a space. -/
def spaceOfPlus (c : Char) : Char := if c = '+' then ' ' else c

/-- Reads a name or value; `none` if its octets are no UTF-8. -/
def decodeText (cs : List Char) : Option String :=
  match Text.decode .utf8 false 0 (Message.unescape (cs.map spaceOfPlus)) with
  | .ok text => some (String.ofList text)
  | .error _ => none

/-- Reads a pair; `none` if no `=` is in it. -/
def decodePair (cs : List Char) : Option (String × String) :=
  match Url.before (· == '=') cs with
  | (name, '=' :: value) => do
    let name ← decodeText name
    let value ← decodeText value
    return (name, value)
  | _ => none

/-- Reads the pairs of a query string. -/
def decode (query : String) : Option (List (String × String)) :=
  (query.toList.splitOn '&').mapM decodePair

/-! ## §2. Octets. -/

/-- What is known of the sixteen hexadecimal digits. -/
theorem hexDigit_fin : ∀ n : Fin 16,
    Address.isHexDigit (hexDigit n) = true ∧ Number.digitOf (hexDigit n) = some n.val
      ∧ hexDigit n ≠ '+' ∧ hexDigit n ≠ '&' ∧ hexDigit n ≠ '=' := by
  decide

theorem hexDigit_of_lt {n : Nat} (h : n < 16) :
    Address.isHexDigit (hexDigit n) = true ∧ Number.digitOf (hexDigit n) = some n
      ∧ hexDigit n ≠ '+' ∧ hexDigit n ≠ '&' ∧ hexDigit n ≠ '=' :=
  hexDigit_fin ⟨n, h⟩

/-- No other sign than the percent sign starts an escape. -/
theorem unescape_cons_of_ne {c : Char} (h : c ≠ '%') (rest : List Char) :
    Message.unescape (c :: rest) = encodeCharUtf8 c ++ Message.unescape rest := by
  rw [Message.unescape]
  intro a b more heq
  exact absurd heq h

/-- An octet is read back from its escape. -/
theorem unescape_percentEncoded (b : UInt8) (rest : List Char) :
    Message.unescape (percentEncoded b ++ rest) = b :: Message.unescape rest := by
  have size : b.toNat < 256 := b.toNat_lt
  obtain ⟨high_hex, high_digit, _⟩ := hexDigit_of_lt (n := b.toNat / 16) (by omega)
  obtain ⟨low_hex, low_digit, _⟩ := hexDigit_of_lt (n := b.toNat % 16) (by omega)
  have whole : b.toNat / 16 * 16 + b.toNat % 16 = b.toNat := by omega
  show Message.unescape ('%' :: hexDigit (b.toNat / 16) :: hexDigit (b.toNat % 16) :: rest) = _
  rw [Message.unescape, high_hex, low_hex, high_digit, low_digit]
  simp only [Bool.and_self, if_true, whole, UInt8.ofNat_toNat]

theorem mem_percentEncoded {b : UInt8} {c : Char} (h : c ∈ percentEncoded b) :
    c ≠ '+' ∧ c ≠ '&' ∧ c ≠ '=' := by
  have size : b.toNat < 256 := b.toNat_lt
  obtain ⟨_, _, high⟩ := hexDigit_of_lt (n := b.toNat / 16) (by omega)
  obtain ⟨_, _, low⟩ := hexDigit_of_lt (n := b.toNat % 16) (by omega)
  unfold percentEncoded at h
  simp only [List.mem_cons, List.not_mem_nil, or_false] at h
  rcases h with rfl | rfl | rfl
  · decide
  · exact high
  · exact low

theorem map_spaceOfPlus_percentEncoded (b : UInt8) :
    (percentEncoded b).map spaceOfPlus = percentEncoded b := by
  have same : ∀ c ∈ percentEncoded b, spaceOfPlus c = c := by
    intro c mem
    exact if_neg (mem_percentEncoded mem).1
  rw [List.map_congr_left same, List.map_id']

/-! ## §3. Names and values. -/

theorem isUnreserved_marks : isUnreserved '+' = false ∧ isUnreserved '%' = false
    ∧ isUnreserved '&' = false ∧ isUnreserved '=' = false := by
  decide

theorem ne_of_isUnreserved {c d : Char} (h : isUnreserved c = true) (hd : isUnreserved d = false) :
    c ≠ d := by
  rintro rfl
  rw [h] at hd
  exact Bool.false_ne_true hd.symm

/-- One character, of which an escape may have made several. -/
theorem unescape_encodeChar (c : Char) (rest : List Char) :
    Message.unescape ((encodeChar c).map spaceOfPlus ++ rest)
      = encodeCharUtf8 c ++ Message.unescape rest := by
  unfold encodeChar
  by_cases unreserved : isUnreserved c = true
  · have plus : c ≠ '+' := ne_of_isUnreserved unreserved isUnreserved_marks.1
    have percent : c ≠ '%' := ne_of_isUnreserved unreserved isUnreserved_marks.2.1
    rw [if_pos unreserved, List.map_singleton, spaceOfPlus, if_neg plus]
    exact unescape_cons_of_ne percent rest
  · by_cases space : c = ' '
    · rw [if_neg unreserved, if_pos space, space]
      exact unescape_cons_of_ne (by decide) rest
    · rw [if_neg unreserved, if_neg space]
      -- the escapes hold no plus sign, and give one octet each
      induction encodeCharUtf8 c with
      | nil => rfl
      | cons b bs ih =>
          rw [List.flatMap_cons, List.map_append, map_spaceOfPlus_percentEncoded,
            List.append_assoc, unescape_percentEncoded, ih]
          rfl

theorem unescape_encodeText (cs : List Char) :
    Message.unescape ((encodeText cs).map spaceOfPlus) = encodeUtf8 cs := by
  induction cs with
  | nil => rfl
  | cons c cs ih =>
      have first : encodeText (c :: cs) = encodeChar c ++ encodeText cs := rfl
      rw [first, List.map_append, unescape_encodeChar, ih]
      rfl

/-- **A name or value is read back.** -/
theorem decodeText_encodeText (s : String) : decodeText (encodeText s.toList) = some s := by
  unfold decodeText
  rw [unescape_encodeText, decode_encodeUtf8]
  show some (String.ofList s.toList) = some s
  rw [String.ofList_toList]

/-- Separators do not occur in names and values. -/
theorem separators_not_mem_encodeText (cs : List Char) :
    '&' ∉ encodeText cs ∧ '=' ∉ encodeText cs := by
  have plain : ∀ d ∈ encodeText cs, d ≠ '&' ∧ d ≠ '=' := by
    intro d mem
    obtain ⟨c, _, mem⟩ := List.mem_flatMap.mp mem
    unfold encodeChar at mem
    split at mem
    next unreserved =>
      rw [List.mem_singleton.mp mem]
      exact ⟨ne_of_isUnreserved unreserved isUnreserved_marks.2.2.1,
        ne_of_isUnreserved unreserved isUnreserved_marks.2.2.2⟩
    next =>
      split at mem
      next =>
        rw [List.mem_singleton.mp mem]
        decide
      next =>
        obtain ⟨b, _, mem⟩ := List.mem_flatMap.mp mem
        exact (mem_percentEncoded mem).2
  exact ⟨fun mem => (plain _ mem).1 rfl, fun mem => (plain _ mem).2 rfl⟩

/-! ## §4. Pairs. -/

/-- A text is split in front of the first character of a class. -/
theorem before_append {stop : Char → Bool} {front : List Char} {d : Char}
    (h : ∀ c ∈ front, stop c = false) (hd : stop d = true) (rest : List Char) :
    Url.before stop (front ++ d :: rest) = (front, d :: rest) := by
  have passes : ∀ c ∈ front, (!stop c) = true := by
    intro c mem
    rw [h c mem]
    rfl
  unfold Url.before
  rw [List.takeWhile_append_of_pos passes, List.dropWhile_append_of_pos passes]
  simp [hd]

theorem decodePair_encodePair (p : String × String) : decodePair (encodePair p) = some p := by
  have name : ∀ c ∈ encodeText p.1.toList, (c == '=') = false := by
    intro c mem
    rw [beq_eq_false_iff_ne]
    rintro rfl
    exact (separators_not_mem_encodeText _).2 mem
  have split : Url.before (· == '=') (encodePair p)
      = (encodeText p.1.toList, '=' :: encodeText p.2.toList) :=
    before_append name rfl _
  unfold decodePair
  rw [split]
  show (decodeText _ >>= fun name => decodeText _ >>= fun value => some (name, value)) = _
  rw [decodeText_encodeText, decodeText_encodeText]
  rfl

theorem encodePairs_eq_intercalate (ps : List (String × String)) :
    encodePairs ps = ['&'].intercalate (ps.map encodePair) := by
  induction ps with
  | nil => rfl
  | cons p ps ih =>
      cases ps with
      | nil => simp [encodePairs]
      | cons q qs =>
          have more : q :: qs = [] → False := by simp
          rw [encodePairs, ih]
          · simp [List.intercalate]
          · exact more

theorem mapM_decodePair (ps : List (String × String)) :
    (ps.map encodePair).mapM decodePair = some ps := by
  induction ps with
  | nil => rfl
  | cons p ps ih =>
      rw [List.map_cons, List.mapM_cons, decodePair_encodePair, ih]
      rfl

/-- **Pairs are read back from their query string**, all of them and in order. -/
theorem decode_encode {ps : List (String × String)} (h : ps ≠ []) : decode (encode ps) = some ps := by
  unfold decode encode
  rw [String.toList_ofList, encodePairs_eq_intercalate, List.splitOn_intercalate, mapM_decodePair]
  · -- splitting undoes joining, as no pair has the separator in it
    intro cs mem
    obtain ⟨p, _, rfl⟩ := List.mem_map.mp mem
    unfold encodePair
    rw [List.mem_append, List.mem_cons, not_or, not_or]
    exact ⟨(separators_not_mem_encodeText _).1, by decide, (separators_not_mem_encodeText _).1⟩
  · rw [ne_eq, List.map_eq_nil_iff]
    exact h

/-- There is no query string exactly if there is no pair. -/
theorem encode_eq_empty_iff {ps : List (String × String)} : encode ps = "" ↔ ps = [] := by
  constructor
  · intro empty
    by_contra some_pair
    have read := decode_encode some_pair
    -- an empty query string is one part without an equals sign
    have nothing : decode "" = none := by decide
    rw [empty, nothing] at read
    exact absurd read (by simp)
  · rintro rfl
    rfl

end ApiTools.Http.Form
