/-
  ApiTools.Proofs.Schema.Plain
  ────────────────────────────
  **SCHEMAS MADE OF PLAIN VALUES ARE PLAIN.**

  Conversion puts nothing into schemas but texts and null, so a schema is as
  plain as what it was made of: converted schemas (`Schema.plain_convert`),
  the schema of a parameter in each of the three ways it can be stated
  (`Schema.plain_of_ofParameter`), and the schema of a body
  (`Compile.plain_of_bodySchema`).
-/
import ApiTools.Proofs.Schema.Conversion
import ApiTools.Proofs.Value.Plain
import ApiTools.Tool.Compile

namespace ApiTools

open Value (Plain plain_list_iff plain_mapping_iff)

namespace Schema

/-! ## §1. One schema. -/

variable {p : Option Nat} {es : Entries} {v w : Value}

theorem plain_append_null {vs : List Value} {last : Value} (h : Plain (.list vs))
    (plain_last : Plain last) : Plain (.list (vs ++ [last])) := by
  rw [plain_list_iff] at h ⊢
  intro x mem
  rcases List.mem_append.mp mem with old | new
  · exact h x old
  · rw [List.mem_singleton.mp new]
    exact plain_last

theorem plain_admitNullType (h : Plain (.mapping (p := p) es)) :
    Plain (.mapping (p := p) (admitNullType es)) := by
  unfold admitNullType
  split
  next ts stated =>
    split
    next => exact h
    next =>
      exact Entries.plain_put _ h (plain_append_null (Entries.plain_get? h stated) (.str "null"))
  next => exact h
  next => exact h
  next t _ _ stated =>
    refine Entries.plain_put _ h (plain_list_iff.mpr ?_)
    intro x mem
    rcases List.mem_cons.mp mem with rfl | mem
    · exact Entries.plain_get? h stated
    · rw [List.mem_singleton.mp mem]
      exact .str "null"

theorem plain_admitNullEnum (h : Plain (.mapping (p := p) es)) :
    Plain (.mapping (p := p) (admitNullEnum es)) := by
  unfold admitNullEnum
  split
  next vs stated =>
    split
    next => exact h
    next => exact Entries.plain_put _ h (plain_append_null (Entries.plain_get? h stated) .null)
  next => exact h

theorem plain_finish (h : Plain (.mapping (p := p) es)) :
    Plain (.mapping (p := p) (finish es)) := by
  unfold finish dropUnsupported
  apply Entries.plain_filter
  split
  next => exact plain_admitNullEnum (plain_admitNullType h)
  next => exact h

/-! ## §2. Schemas inside schemas. -/

/-- **Conversion keeps values plain**, at every position. -/
theorem plain_convertAt (position : Position) (h : Plain v) : Plain (convertAt position v) := by
  induction v using Value.inductionOnParts generalizing position with
  | step v ih =>
      cases v with
      | @mapping p es =>
          have converted : Plain (convert (.mapping (p := p) es)) := by
            rw [convert]
            apply plain_finish
            rw [convertEntries_eq_map]
            exact h.mapEntries fun e mem => ih e.2 (Value.mem_parts mem) _
          have named : Plain (.mapping (p := none) (convertNamed es)) := by
            rw [convertNamed_eq_map]
            exact h.mapEntries fun e mem => ih e.2 (Value.mem_parts mem) .one
          cases position with
          | one => exact converted
          | oneOrMany => exact converted
          | named => exact named
          | _ => exact h
      | list vs =>
          have items : Plain (.list (convertItems vs)) := by
            rw [convertItems_eq_map]
            exact h.mapItems fun w mem => ih w mem .one
          cases position with
          | oneOrMany => exact items
          | many => exact items
          | _ => exact h
      | _ => cases position <;> exact h

theorem plain_convert (h : Plain v) : Plain (convert v) := plain_convertAt .one h

/-- **Settling keeps values plain**, since the mappings that it changes are converted. -/
theorem plain_settleAt {schemas : List Nat} (position : Position) (h : Plain v) :
    Plain (settleAt schemas position v) := by
  induction v using Value.inductionOnParts generalizing position with
  | step v ih =>
      cases v with
      | @mapping p es =>
          have inside : Plain (.mapping (p := p) (settleIn schemas es)) := by
            rw [settleIn_eq_map]
            exact h.mapEntries fun e mem => ih e.2 (Value.mem_parts mem) _
          have values : ∀ position,
              Plain (.mapping (p := p) (settleValues schemas position es)) := by
            intro position
            rw [settleValues_eq_map]
            exact h.mapEntries fun e mem => ih e.2 (Value.mem_parts mem) position
          cases position <;> simp only [settleAt]
          case one => exact inside
          case oneOrMany => exact inside
          case named => exact values .one
          all_goals
            split
            · exact plain_convert inside
            · exact values .data
      | list vs =>
          have items : ∀ position, Plain (.list (settleItems schemas position vs)) := by
            intro position
            rw [settleItems_eq_map]
            exact h.mapItems fun w mem => ih w mem position
          cases position <;> simp only [settleAt] <;> exact items _
      | tuple vs => exact absurd h nofun
      | _ => simpa only [settleAt] using h

theorem plain_convertShared (h : Plain v) : Plain (convertShared v) :=
  plain_convert (plain_settleAt .one h)

theorem plain_of_ofOpenApi {schema : Value} (h : Plain schema)
    (converted : ofOpenApi schema = .ok v) : Plain v := by
  unfold ofOpenApi at converted
  have whole : Plain (convertShared (schema.orElse (.mapping (p := none) []))) :=
    plain_convertShared (h.orElse .empty)
  split at converted
  next es made =>
    rw [made] at whole
    injection converted with converted
    rw [← converted]
    exact Entries.plain_put _ whole (.str draft)
  next => exact absurd converted (by simp)

/-! ## §3. The schema of a parameter. -/

section Parameter

variable {parameter : Value} (h : Plain parameter)

include h

theorem plain_of_inlineFields {names : List String} {fields : Entries}
    (read : inlineFields parameter names = .ok fields) : Plain (.mapping (p := none) fields) := by
  induction names generalizing fields with
  | nil =>
      injection read with read
      rw [← read]
      exact .empty
  | cons name names ih =>
      unfold inlineFields at read
      obtain ⟨v, field, read⟩ := bind_eq_ok.mp read
      obtain ⟨others, rest, read⟩ := bind_eq_ok.mp read
      injection read with read
      have plain_others := plain_mapping_iff.mp (ih rest)
      rw [← read, plain_mapping_iff]
      split
      next => exact plain_others
      next =>
        exact List.forall_mem_cons.mpr
          ⟨⟨.str name, Value.plain_of_field h field⟩, plain_others⟩

theorem plain_of_inlineSchema (made : inlineSchema parameter = .ok v) : Plain v := by
  unfold inlineSchema at made
  obtain ⟨fields, read, made⟩ := bind_eq_ok.mp made
  have plain_fields := plain_of_inlineFields h read
  have plain_typed : Plain (.mapping (p := none) (if Entries.contains "type" fields then fields
      else Entries.put "type" (.str "string") fields)) := by
    split
    next => exact plain_fields
    next => exact Entries.plain_put _ plain_fields (.str "string")
  dsimp only at made
  split at made
  next =>
    injection made with made
    rw [← made]
    exact plain_typed
  next format stated =>
    injection made with made
    rw [← made]
    exact Entries.plain_put _ (Entries.plain_filter plain_typed _)
      (Entries.plain_get? plain_typed stated)

omit h in
theorem plain_of_findJson (entries : Plain (.mapping (p := p) es))
    (found : findJson es = .ok (some v)) : Plain v := by
  induction es with
  | nil => exact absurd found (by simp [findJson])
  | cons e es ih =>
      obtain ⟨contentType, spec⟩ := e
      rw [plain_mapping_iff, List.forall_mem_cons] at entries
      unfold findJson at found
      obtain ⟨json, _, found⟩ := bind_eq_ok.mp found
      split at found
      next =>
        injection found with found
        injection found with found
        rw [← found]
        exact entries.1.2
      next => exact ih (plain_mapping_iff.mpr entries.2) found

omit h in
theorem plain_of_contentSchema {content : Value} (plain : Plain content)
    (stated : contentSchema content = .ok v) : Plain v := by
  unfold contentSchema at stated
  obtain ⟨es, pairs, stated⟩ := bind_eq_ok.mp stated
  obtain ⟨chosen, found, stated⟩ := bind_eq_ok.mp stated
  obtain ⟨schema?, field, stated⟩ := bind_eq_ok.mp stated
  injection stated with stated
  have plain_entries := Value.plain_of_pairs (p := none) plain pairs
  have plain_spec : Plain (chosen.getD ((es.map (·.2)).headD .null)) := by
    cases chosen with
    | some spec => exact plain_of_findJson plain_entries found
    | none =>
        cases es with
        | nil => exact .null
        | cons e es => exact (plain_mapping_iff.mp plain_entries e List.mem_cons_self).2
  rw [← stated]
  cases schema? with
  | some schema => exact Value.plain_of_field? plain_spec field
  | none => exact .empty

theorem plain_of_statedSchema (stated : statedSchema parameter = .ok v) : Plain v := by
  unfold statedSchema at stated
  obtain ⟨has_schema, _, stated⟩ := bind_eq_ok.mp stated
  split at stated
  next => exact Value.plain_of_part h stated
  next =>
    obtain ⟨has_content, _, stated⟩ := bind_eq_ok.mp stated
    split at stated
    next =>
      obtain ⟨content, part, stated⟩ := bind_eq_ok.mp stated
      exact plain_of_contentSchema (Value.plain_of_part h part) stated
    next => exact plain_of_inlineSchema h stated

/-- **The schema of a plain parameter is plain.** -/
theorem plain_of_ofParameter (made : ofParameter parameter = .ok v) : Plain v := by
  unfold ofParameter at made
  obtain ⟨schema, stated, made⟩ := bind_eq_ok.mp made
  obtain ⟨converted, conversion, made⟩ := bind_eq_ok.mp made
  obtain ⟨description, field, made⟩ := bind_eq_ok.mp made
  have plain := plain_of_ofOpenApi (plain_of_statedSchema h stated) conversion
  have plain_entries : Plain (.mapping (p := none) converted.entries) := by
    cases plain with
    | mapping keys values => exact .mapping keys values
    | _ => exact .empty
  split at made
  next =>
    injection made with made
    rw [← made]
    exact Entries.plain_put _ plain_entries (Value.plain_of_field h field)
  next =>
    injection made with made
    rw [← made]
    exact plain

end Parameter

end Schema

/-! ## §4. The schema of a body. -/

/-- **The schema of a plain body is plain.** -/
theorem Compile.plain_of_bodySchema {requestBody schema : Value} (h : Plain requestBody)
    (made : bodySchema requestBody = .ok (some schema)) : Plain schema := by
  unfold bodySchema at made
  split at made
  next => exact absurd made (by simp)
  next =>
    obtain ⟨content, field, made⟩ := bind_eq_ok.mp made
    obtain ⟨has_json, _, made⟩ := bind_eq_ok.mp made
    split at made
    next =>
      obtain ⟨json, part, made⟩ := bind_eq_ok.mp made
      obtain ⟨stated, schema_field, made⟩ := bind_eq_ok.mp made
      obtain ⟨converted, conversion, made⟩ := bind_eq_ok.mp made
      injection made with made
      injection made with made
      rw [← made]
      have plain_content : Plain (content.orElse (.mapping (p := none) [])) :=
        (Value.plain_of_field h field).orElse .empty
      exact Schema.plain_of_ofOpenApi
        (Value.plain_of_field (Value.plain_of_part plain_content part) schema_field) conversion
    next => exact absurd made (by simp)

end ApiTools
