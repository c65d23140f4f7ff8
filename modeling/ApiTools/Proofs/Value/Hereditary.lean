/-
  ApiTools.Proofs.Value.Hereditary
  ────────────────────────────────
  **PROPERTIES THAT CARRY OVER FROM THE PARTS OF VALUES.**

  A value is smaller than what it is a part of, so what a value has if all its
  parts have it every value has (`Value.inductionOnParts`).

  Readers put values together.  A property of values is hereditary if it carries
  over from the parts (`Value.Hereditary`); with it comes a property of keys,
  since not every value can be a key.  What a reader gives is proved once for all
  hereditary properties.
-/
import ApiTools.Value.Basic

namespace ApiTools.Value

/-! ## §1. Parts. -/

/-- The values that a value is put together from, apart from keys. -/
def parts : Value → List Value
  | mapping es => es.map (·.2)
  | list xs => xs
  | tuple xs => xs
  | _ => []

theorem mem_parts {p : Option Nat} {es : Entries} {e : Value × Value} (h : e ∈ es) :
    e.2 ∈ (mapping (p := p) es).parts :=
  List.mem_map_of_mem h

theorem sizeOf_lt_of_mem_parts {v w : Value} (h : w ∈ v.parts) : sizeOf w < sizeOf v := by
  cases v with
  | mapping es =>
      obtain ⟨e, mem, rfl⟩ := List.mem_map.mp h
      have smaller := List.sizeOf_lt_of_mem mem
      have pair : sizeOf e = 1 + sizeOf e.1 + sizeOf e.2 := rfl
      rw [mapping.sizeOf_spec]
      omega
  | list xs =>
      have smaller : sizeOf w < sizeOf xs := List.sizeOf_lt_of_mem h
      rw [list.sizeOf_spec]
      omega
  | tuple xs =>
      have smaller : sizeOf w < sizeOf xs := List.sizeOf_lt_of_mem h
      rw [tuple.sizeOf_spec]
      omega
  | _ => exact absurd h List.not_mem_nil

/-- **Induction over the parts of values.** -/
@[elab_as_elim]
theorem inductionOnParts {motive : Value → Prop} (v : Value)
    (step : ∀ v, (∀ w ∈ v.parts, motive w) → motive v) : motive v := by
  induction size : sizeOf v using Nat.strongRecOn generalizing v with
  | ind n ih =>
      refine step v fun w mem => ih (sizeOf w) ?_ w rfl
      rw [← size]
      exact sizeOf_lt_of_mem_parts mem

/-! ## §2. Hereditary properties. -/

/-- A property of values that a value has if its parts have it and the keys of a mapping have what
it asks of them. -/
structure Hereditary (P K : Value → Prop) : Prop where
  null : P .null
  bool : ∀ b, P (.bool b)
  int : ∀ i, P (.int i)
  float : ∀ x, P (.float x)
  str : ∀ s, P (.str s)
  torn : ∀ t, P (.torn t)
  list : ∀ {xs}, P (.list xs) ↔ ∀ x ∈ xs, P x
  /-- names, torn or not, are fit for keys -/
  name : ∀ s, K (.str s)
  tornName : ∀ t, K (.torn t)
  empty : ∀ {p}, P (.mapping (p := p) [])
  insert : ∀ {p es key v}, P (.mapping (p := p) es) → K key → P v →
    P (.mapping (p := p) (Entries.insert key v es))

namespace Hereditary

variable {P K : Value → Prop} {p : Option Nat}

theorem emptyList (h : Hereditary P K) : P (.list []) :=
  h.list.mpr fun _ mem => absurd mem List.not_mem_nil

theorem ofPoints (h : Hereditary P K) (ps : List Text.Point) : P (.ofPoints ps) := by
  unfold Value.ofPoints
  split
  next => exact h.torn _
  next => exact h.str _

theorem key_ofPoints (h : Hereditary P K) (ps : List Text.Point) : K (.ofPoints ps) := by
  unfold Value.ofPoints
  split
  next => exact h.tornName _
  next => exact h.name _

/-- Entries stored one after the other. -/
theorem ofList (h : Hereditary P K) {ds : List (Value × Value)} (hd : ∀ d ∈ ds, K d.1 ∧ P d.2) :
    P (.mapping (p := p) (Entries.ofList ds)) := by
  have run : ∀ (ds : List (Value × Value)) (acc : Entries), (∀ d ∈ ds, K d.1 ∧ P d.2) →
      P (.mapping (p := p) acc) →
        P (.mapping (p := p) (ds.foldl (fun m d => Entries.insert d.1 d.2 m) acc)) := by
    intro ds
    induction ds with
    | nil => exact fun acc _ done => done
    | cons d ds ih =>
        intro acc all done
        rw [List.forall_mem_cons] at all
        exact ih _ all.2 (h.insert done all.1.1 all.1.2)
  exact run ds [] hd h.empty

end Hereditary

end ApiTools.Value
