/-
  ApiTools.Table
  ──────────────
  **TABLES THAT KEEP THE ORDER OF THEIR NAMES.**

  A table maps names to things.  Storing under a known name replaces the thing
  and keeps the place of the name; a new name goes to the end.  So the things
  follow the last definition and the places the first (`Table.get?_insert`,
  `Table.names_insert`).
-/

namespace ApiTools

/-- Names with things, in the order in which the names first came. -/
abbrev Table (α : Type) := List (String × α)

namespace Table

variable {α : Type}

/-- The thing stored under a name. -/
def get? (name : String) : Table α → Option α
  | [] => none
  | (n, x) :: rest => if n = name then some x else get? name rest

def contains (name : String) (t : Table α) : Bool := (get? name t).isSome

/-- Stores a thing under a name. -/
def insert (name : String) (x : α) : Table α → Table α
  | [] => [(name, x)]
  | (n, y) :: rest => if n = name then (n, x) :: rest else (n, y) :: insert name x rest

/-- The names, in order. -/
def names (t : Table α) : List String := t.map (·.1)

/-- Stores the entries of a list one after the other. -/
def ofList (entries : List (String × α)) : Table α :=
  entries.foldl (fun t e => insert e.1 e.2 t) []

theorem get?_insert (name other : String) (x : α) (t : Table α) :
    get? other (insert name x t) = if name = other then some x else get? other t := by
  induction t with
  | nil => simp [insert, get?]
  | cons e rest ih =>
    obtain ⟨n, y⟩ := e
    by_cases h : n = name
    · subst h
      by_cases h' : n = other <;> simp [insert, get?, h']
    · by_cases h' : n = other
      · subst h'
        have : ¬ name = n := fun e => h e.symm
        simp [insert, get?, h, this]
      · simp [insert, get?, h, h', ih]

theorem names_insert (name : String) (x : α) (t : Table α) :
    names (insert name x t)
      = if contains name t then names t else names t ++ [name] := by
  induction t with
  | nil => simp [insert, names, contains, get?]
  | cons e rest ih =>
    obtain ⟨n, y⟩ := e
    simp only [names, contains] at ih
    by_cases h : n = name
    · simp [insert, names, contains, get?, h]
    · simp only [insert, names, contains, get?, h, if_false, List.map_cons, ih]
      split <;> simp [*]

end Table

end ApiTools
