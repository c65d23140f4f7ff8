/-
  ApiTools.Proofs.Yaml.Keyed
  ──────────────────────────
  **YAML TEXTS DENOTE WELL-KEYED VALUES.**

  While the value of a node is made, problems are collected and not acted on,
  so the value may be anything until it is known that there are none.  If
  there are none (`Made.Clean`), then every key is fit for a key, and storing
  the entries one after the other gives a mapping that has every key once:
  `make_sound` follows the nodes, and `wellKeyed_of_read` the text.
-/
import ApiTools.Proofs.Value.Keyed
import ApiTools.Yaml.Reader

namespace ApiTools.Yaml

open Value (WellKeyed)

/-! ## §1. Problems. -/

namespace Made

/-- There is no problem on any level. -/
def Clean (ps : List (Option Problem)) : Prop := ∀ p ∈ ps, p = none

theorem clean_of_firstProblem? {ps : List (Option Problem)} (h : firstProblem? ps = none) :
    Clean ps := by
  induction ps with
  | nil => exact fun _ mem => absurd mem List.not_mem_nil
  | cons p ps ih =>
      cases p with
      | none => exact List.forall_mem_cons.mpr ⟨rfl, ih h⟩
      | some p => exact absurd h (Option.some_ne_none p)

theorem clean_both {ps qs : List (Option Problem)} (h : Clean (both ps qs)) :
    Clean ps ∧ Clean qs := by
  fun_induction both ps qs with
  | case1 qs => exact ⟨fun _ mem => absurd mem List.not_mem_nil, h⟩
  | case2 ps => exact ⟨h, fun _ mem => absurd mem List.not_mem_nil⟩
  | case3 p ps q qs ih =>
      obtain ⟨first, others⟩ := List.forall_mem_cons.mp h
      obtain ⟨hp, hq⟩ := ih others
      cases p with
      | some p => exact absurd first (by simp)
      | none => exact ⟨List.forall_mem_cons.mpr ⟨rfl, hp⟩, List.forall_mem_cons.mpr ⟨first, hq⟩⟩

theorem clean_foldl_both {pss : List (List (Option Problem))} {ps : List (Option Problem)}
    (h : Clean (pss.foldl both ps)) : Clean ps ∧ ∀ qs ∈ pss, Clean qs := by
  induction pss generalizing ps with
  | nil => exact ⟨h, fun _ mem => absurd mem List.not_mem_nil⟩
  | cons qs pss ih =>
      obtain ⟨first, others⟩ := ih h
      obtain ⟨hp, hq⟩ := clean_both first
      exact ⟨hp, List.forall_mem_cons.mpr ⟨hq, others⟩⟩

theorem clean_all {ms : List Made} (h : Clean (all ms)) : ∀ m ∈ ms, Clean m.problems :=
  fun _ mem => (clean_foldl_both h).2 _ (List.mem_map_of_mem mem)

theorem clean_deeper {ps : List (Option Problem)} (h : Clean (deeper ps)) : Clean ps := by
  unfold deeper at h
  split at h
  next none_at_all =>
    rw [List.isEmpty_iff.mp none_at_all]
    exact fun _ mem => absurd mem List.not_mem_nil
  next => exact (List.forall_mem_cons.mp h).2

/-- If there is no problem the value is well keyed. -/
def Sound (m : Made) : Prop := Clean m.problems → WellKeyed m.value

theorem sound_failed (p : Problem) : Sound (failed p) :=
  fun h => absurd (h (some p) List.mem_cons_self) (by simp)

theorem sound_failedLater (v : Value) : Sound (failedLater v) :=
  fun h => absurd (h (some .malformed) (List.mem_cons_of_mem _ List.mem_cons_self)) (by simp)

end Made

open Made (Clean Sound)

/-! ## §2. Scalars. -/

theorem isAtom_of_timestamp {dialect : Dialect} {text : String} {v : Value}
    (h : Scalar.timestamp dialect text = .ok v) : v.isAtom = true := by
  unfold Scalar.timestamp at h
  split at h
  next t _ =>
    split at h
    next made =>
      injection h with h
      subst h
      unfold Timestamp.value at made
      split at made
      next =>
        obtain ⟨d, -, rfl⟩ := map_eq_ok.mp made
        rfl
      next =>
        obtain ⟨d, -, rfl⟩ := map_eq_ok.mp made
        rfl
    next => exact absurd h (by simp)
  next =>
    split at h
    next => exact absurd h (by simp)
    next => exact absurd h (by simp)

theorem isAtom_of_binary {text : String} {v : Value} (h : Scalar.binary text = .ok v) :
    v.isAtom = true := by
  unfold Scalar.binary at h
  dsimp only at h
  split at h
  next => exact absurd h (by simp)
  next =>
    split at h
    next =>
      injection h with h
      rw [← h]
      rfl
    next => exact absurd h (by simp)

/-- A scalar denotes a value that is not made of others. -/
theorem isAtom_of_value {dialect : Dialect} {tag : Tag} {text : String} {v : Value}
    (h : Scalar.value dialect tag text = .ok v) : v.isAtom = true := by
  cases tag with
  | null =>
      injection h with h
      rw [← h]
      rfl
  | str =>
      injection h with h
      rw [← h]
      rfl
  | bool =>
      obtain ⟨b, -, rfl⟩ := map_eq_ok.mp h
      rfl
  | int =>
      obtain ⟨i, -, rfl⟩ := map_eq_ok.mp h
      rfl
  | float =>
      obtain ⟨x, -, rfl⟩ := map_eq_ok.mp h
      rfl
  | timestamp => exact isAtom_of_timestamp h
  | binary => exact isAtom_of_binary h
  | _ => exact absurd h (by simp [Scalar.value])

theorem sound_scalar (dialect : Dialect) (tag : Tag) (text : String) :
    Sound (Made.ofExcept (Scalar.value dialect tag text)) := by
  cases read : Scalar.value dialect tag text with
  | error p => exact Made.sound_failed p
  | ok v => exact fun _ => .atom (isAtom_of_value read)

/-! ## §3. Collections. -/

variable {dialect : Dialect} {tag : Tag}

theorem clean_entryProblems {k v : Made} (h : Clean (entryProblems k v)) :
    k.value.hashable = true ∧ Clean k.problems ∧ Clean v.problems := by
  unfold entryProblems at h
  split at h
  next fit => exact ⟨fit, Made.clean_both h⟩
  next =>
    split at h
    next =>
      have unfit := (Made.clean_both h).2 _ List.mem_cons_self
      exact absurd unfit (by simp)
    next =>
      have unfit := (Made.clean_both (Made.clean_both h).1).2 _ List.mem_cons_self
      exact absurd unfit (by simp)

/-- What is made of entries: keys that are fit, and well-keyed values. -/
theorem wellKeyed_madeEntries {p : Option Nat} {taken own : List (Made × Made)}
    (h : ∀ e ∈ taken ++ own, Sound e.1 ∧ Sound e.2)
    (clean : Clean (madeEntries dialect taken own).2) :
    WellKeyed (.mapping (p := p) (madeEntries dialect taken own).1) := by
  have fits : ∀ e ∈ (taken ++ own).map fun e => (keyOf dialect e.1, e.2),
      e.1.value.hashable = true ∧ Clean e.1.problems ∧ Clean e.2.problems := by
    intro e mem
    exact clean_entryProblems
      ((Made.clean_foldl_both (Made.clean_both clean).1).2 _ (List.mem_map_of_mem mem))
  refine Value.hereditary_wellKeyed.ofList fun d mem => ?_
  obtain ⟨e, he, rfl⟩ := List.mem_map.mp mem
  obtain ⟨fit, _, clean_value⟩ := fits e he
  obtain ⟨e', he', rfl⟩ := List.mem_map.mp he
  exact ⟨fit, (h e' he').2 clean_value⟩

theorem sound_madeMapping {p : Option Nat} {taken own : List (Made × Made)}
    (h : ∀ e ∈ taken ++ own, Sound e.1 ∧ Sound e.2) :
    Sound (madeMapping dialect p tag taken own) := by
  have entries := @wellKeyed_madeEntries dialect p taken own h
  unfold madeMapping
  dsimp only
  split
  next => exact fun clean => entries (Made.clean_deeper clean)
  next =>
    intro clean
    have keyed := (Value.wellKeyed_mapping_iff.mp (entries (Made.clean_deeper clean))).1
    refine .set fun x mem => ?_
    obtain ⟨e, he, rfl⟩ := List.mem_map.mp mem
    exact keyed.hashable e he
  next => exact Made.sound_failedLater _
  next => exact Made.sound_failedLater _
  next => exact Made.sound_failedLater _
  next => exact Made.sound_failed _

theorem sound_madePair {taken own : List (Made × Made)}
    (h : ∀ e ∈ taken ++ own, Sound e.1 ∧ Sound e.2) : Sound (madePair taken own) := by
  unfold madePair
  split
  next k v only =>
    intro clean
    obtain ⟨hk, hv⟩ := Made.clean_both clean
    rw [only] at h
    obtain ⟨key, value⟩ := h (k, v) List.mem_cons_self
    refine .tuple fun x mem => ?_
    rcases List.mem_cons.mp mem with rfl | mem
    · exact key hk
    · rw [List.mem_singleton.mp mem]
      exact value hv
  next => exact Made.sound_failed _

theorem sound_madeSequence {items pairs : List Made} (hi : ∀ m ∈ items, Sound m)
    (hp : ∀ m ∈ pairs, Sound m) : Sound (madeSequence tag items pairs) := by
  have whole : ∀ {ms : List Made}, (∀ m ∈ ms, Sound m) →
      Sound ⟨.list (ms.map (·.value)), Made.deeper (Made.all ms)⟩ := by
    intro ms h clean
    refine .list fun x mem => ?_
    obtain ⟨m, hm, rfl⟩ := List.mem_map.mp mem
    exact h m hm (Made.clean_all (Made.clean_deeper clean) m hm)
  unfold madeSequence
  split
  next => exact whole hi
  next => exact whole hp
  next => exact whole hp
  next => exact Made.sound_failedLater _
  next => exact Made.sound_failedLater _
  next => exact Made.sound_failed _

/-! ## §4. Nodes. -/

theorem sound_standIn? {es : List (Merged × Merged)} {m : Made}
    (h : standIn? dialect tag es = some m) : Sound m := by
  fun_induction standIn? dialect tag es with
  | case1 => exact absurd h (by simp)
  | case2 =>
      injection h with h
      rw [← h]
      exact sound_scalar _ _ _
  | case3 _ _ _ _ _ ih => exact ih h
  | case4 _ _ _ ih => exact ih h

mutual

theorem make_sound (dialect : Dialect) : ∀ n : Merged, Sound (make dialect n)
  | .scalar tag text => by
      unfold make
      split
      next => exact Made.sound_failedLater _
      next => exact Made.sound_failedLater _
      next => exact Made.sound_failedLater _
      next => exact Made.sound_failedLater _
      next => exact Made.sound_failedLater _
      next => exact sound_scalar dialect tag text
  | .sequence tag items => by
      rw [make]
      exact sound_madeSequence (makeItems_sound dialect items) (makePairs_sound dialect items)
  | .mapping tag taken own => by
      have entries := List.forall_mem_append.mpr
        ⟨makeMembers_sound dialect taken, makeMembers_sound dialect own⟩
      unfold make
      split
      next => exact sound_madeMapping entries
      next stands => exact sound_standIn? stands
      next => exact sound_madeMapping entries
  | .unmergeable => by
      rw [make]
      exact Made.sound_failedLater _
  | .loop => by
      rw [make]
      exact Made.sound_failed _

theorem makeItems_sound (dialect : Dialect) : ∀ ns : List Merged,
    ∀ m ∈ makeItems dialect ns, Sound m
  | [] => by
      rw [makeItems]
      exact fun _ mem => absurd mem List.not_mem_nil
  | n :: ns => by
      rw [makeItems]
      exact List.forall_mem_cons.mpr ⟨make_sound dialect n, makeItems_sound dialect ns⟩

theorem makePairs_sound (dialect : Dialect) : ∀ ns : List Merged,
    ∀ m ∈ makePairs dialect ns, Sound m
  | [] => by
      rw [makePairs]
      exact fun _ mem => absurd mem List.not_mem_nil
  | n :: ns => by
      have others := makePairs_sound dialect ns
      cases n with
      | mapping tag taken own =>
          rw [makePairs]
          exact List.forall_mem_cons.mpr ⟨sound_madePair (List.forall_mem_append.mpr
            ⟨makeMembers_sound dialect taken, makeMembers_sound dialect own⟩), others⟩
      | _ =>
          rw [makePairs]
          · exact List.forall_mem_cons.mpr ⟨Made.sound_failed _, others⟩
          · simp

theorem makeMembers_sound (dialect : Dialect) : ∀ es : List (Merged × Merged),
    ∀ e ∈ makeMembers dialect es, Sound e.1 ∧ Sound e.2
  | [] => by
      rw [makeMembers]
      exact fun _ mem => absurd mem List.not_mem_nil
  | (k, v) :: es => by
      rw [makeMembers]
      exact List.forall_mem_cons.mpr
        ⟨⟨make_sound dialect k, make_sound dialect v⟩, makeMembers_sound dialect es⟩

end

/-- **YAML texts denote well-keyed values.** -/
theorem wellKeyed_of_read {dialect : Dialect} {text : String} {v : Value}
    (h : read dialect text = .ok v) : WellKeyed v := by
  unfold read at h
  dsimp only at h
  split at h
  next => exact absurd h (by simp)
  next =>
    split at h
    next => exact absurd h (by simp)
    next =>
      injection h with h
      rw [← h]
      exact .atom rfl
    next n _ =>
      unfold Node.value at h
      dsimp only at h
      split at h
      next => exact absurd h (by simp)
      next clean =>
        injection h with h
        rw [← h]
        exact make_sound dialect _ (Made.clean_of_firstProblem? clean)

end ApiTools.Yaml
