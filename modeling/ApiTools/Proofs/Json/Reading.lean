/-
  ApiTools.Proofs.Json.Reading
  ────────────────────────────
  **WHAT JSON TEXTS DENOTE.**

  The value of a text that is read as JSON is put together from words, numbers
  and texts, so it has every hereditary property (`Json.hereditary_of_read`).
  The readers of values, items and members call each other with less fuel, so
  one induction on the fuel settles the three.

  In particular the value holds nothing that JSON lacks (`Json.plain_of_read`)
  and has no key twice (`Json.wellKeyed_of_read`).
-/
import ApiTools.Json.Reader
import ApiTools.Proofs.Value.Keyed
import ApiTools.Proofs.Value.Plain

namespace ApiTools.Json

open Value (Hereditary)

variable {P K : Value → Prop}

/-! ## §1. Words and numbers. -/

theorem hereditary_of_readWord? (holds : Hereditary P K) {cs rest : List Char} {v : Value}
    (h : readWord? cs = some (v, rest)) : P v := by
  rw [readWord?, Option.map_eq_some_iff] at h
  obtain ⟨w, found, same⟩ := h
  obtain ⟨rfl, -⟩ := Prod.mk.inj same
  have mem := List.mem_of_find?_eq_some found
  simp only [words, List.mem_cons, List.not_mem_nil, or_false] at mem
  rcases mem with rfl | rfl | rfl | rfl | rfl | rfl
  · exact holds.null
  · exact holds.bool true
  · exact holds.bool false
  · exact holds.float _
  · exact holds.float _
  · exact holds.float _

theorem hereditary_of_readNumber (holds : Hereditary P K) {cs rest : List Char} {v : Value}
    (h : readNumber cs = .ok (v, rest)) : P v := by
  unfold readNumber at h
  dsimp only at h
  split at h
  next => exact absurd h (by simp)
  next =>
    split at h
    next =>
      split at h
      next => exact absurd h (by simp)
      next =>
        injection h with h
        rw [← (Prod.mk.inj h).1]
        exact holds.int _
    next =>
      injection h with h
      rw [← (Prod.mk.inj h).1]
      exact holds.float _

/-! ## §2. Values. -/

/-- What the readers of values, items and members give has a property, if what has been read has
it. -/
structure ReadsWith (P : Value → Prop) (fuel : Nat) : Prop where
  value : ∀ {nesting cs v rest}, readValue fuel nesting cs = .ok (v, rest) → P v
  items : ∀ {nesting acc cs v rest}, (∀ x ∈ acc, P x) →
    readItems fuel nesting acc cs = .ok (v, rest) → P v
  members : ∀ {nesting acc cs v rest}, P (.mapping (p := none) acc) →
    readMembers fuel nesting acc cs = .ok (v, rest) → P v

/-- Without fuel nothing is read. -/
theorem readsWith_zero : ReadsWith P 0 where
  value := fun h => absurd h (by simp [readValue])
  items := fun _ h => absurd h (by simp [readItems])
  members := fun _ h => absurd h (by simp [readMembers])

section Step

variable {fuel nesting : Nat} {acc : List Value} {es : Entries} {cs rest : List Char} {v : Value}

theorem ReadsWith.value_succ (ih : ReadsWith P fuel) (holds : Hereditary P K)
    (h : readValue (fuel + 1) nesting cs = .ok (v, rest)) : P v := by
  unfold readValue at h
  split at h
  next quoted =>
    -- a text
    cases read : readString ('"' :: quoted).length [] ('"' :: quoted).length quoted with
    | error e =>
        rw [read] at h
        exact absurd h (by simp [Except.map])
    | ok r =>
        rw [read] at h
        injection h with h
        rw [← (Prod.mk.inj h).1]
        exact holds.ofPoints _
  next =>
    -- a list
    split at h
    next => exact absurd h (by simp)
    next =>
      split at h
      next =>
        injection h with h
        rw [← (Prod.mk.inj h).1]
        exact holds.emptyList
      next => exact ih.items (fun x mem => absurd mem List.not_mem_nil) h
  next =>
    -- a mapping
    split at h
    next => exact absurd h (by simp)
    next =>
      split at h
      next =>
        injection h with h
        rw [← (Prod.mk.inj h).1]
        exact holds.empty
      next => exact ih.members holds.empty h
  next =>
    split at h
    next word found =>
      injection h with h
      rw [h] at found
      exact hereditary_of_readWord? holds found
    next => exact hereditary_of_readNumber holds h

theorem ReadsWith.items_succ (ih : ReadsWith P fuel) (holds : Hereditary P K)
    (before : ∀ x ∈ acc, P x) (h : readItems (fuel + 1) nesting acc cs = .ok (v, rest)) : P v := by
  unfold readItems at h
  split at h
  next => exact absurd h (by simp)
  next item after read =>
    have all : ∀ x ∈ item :: acc, P x := List.forall_mem_cons.mpr ⟨ih.value read, before⟩
    split at h
    next =>
      injection h with h
      rw [← (Prod.mk.inj h).1, holds.list]
      exact fun x mem => all x (List.mem_reverse.mp mem)
    next => exact ih.items all h
    next => exact absurd h (by simp)

theorem ReadsWith.members_succ (ih : ReadsWith P fuel) (holds : Hereditary P K)
    (before : P (.mapping (p := none) es))
    (h : readMembers (fuel + 1) nesting es cs = .ok (v, rest)) : P v := by
  unfold readMembers at h
  split at h
  next =>
    split at h
    next => exact absurd h (by simp)
    next name after _ =>
      split at h
      next =>
        split at h
        next => exact absurd h (by simp)
        next member more read =>
          -- the member that has been read is stored among those before it
          have all := holds.insert before (holds.key_ofPoints name) (ih.value read)
          dsimp only at h
          split at h
          next =>
            injection h with h
            rw [← (Prod.mk.inj h).1]
            exact all
          next => exact ih.members all h
          next => exact absurd h (by simp)
      next => exact absurd h (by simp)
  next => exact absurd h (by simp)

end Step

theorem readsWith (holds : Hereditary P K) (fuel : Nat) : ReadsWith P fuel := by
  induction fuel with
  | zero => exact readsWith_zero
  | succ fuel ih => exact ⟨ih.value_succ holds, ih.items_succ holds, ih.members_succ holds⟩

/-- **The value of a JSON text has every hereditary property.** -/
theorem hereditary_of_read (holds : Hereditary P K) {nesting : Nat} {text : String} {v : Value}
    (h : read nesting text = .ok v) : P v := by
  unfold read at h
  dsimp only at h
  split at h
  next => exact absurd h (by simp)
  next =>
    unfold readWhole at h
    split at h
    next w whole =>
      injection h with h
      rw [← h]
      unfold readAll at whole
      split at whole
      next => exact absurd whole (by simp)
      next u rest first =>
        split at whole
        next =>
          injection whole with whole
          rw [← whole]
          exact (readsWith holds _).value first
        next => exact absurd whole (by simp)
    next => exact absurd h (by simp)
    next => exact absurd h (by simp)
    next => exact absurd h (by simp)

variable {nesting : Nat} {text : String} {v : Value}

theorem plain_of_read (h : read nesting text = .ok v) : v.Plain :=
  hereditary_of_read Value.hereditary_plain h

theorem wellKeyed_of_read (h : read nesting text = .ok v) : v.WellKeyed :=
  hereditary_of_read Value.hereditary_wellKeyed h

end ApiTools.Json
