/-
  ApiTools.Proofs.Integration.Ownership
  ─────────────────────────────────────
  **WHO OWNS THE FILE OF A CUSTOM INTEGRATION.**

  The file of a custom integration is documented as `custom.`, its normalised
  name and an ending (`customFile`).  A custom integration owns every file in
  whose name `custom.` and its own normalised name occur, and the first owner
  in the list takes the file.  So the documented file always has an owner, but
  an earlier integration may be one too: its `Rival`s are the integrations
  whose name starts the rest of the file's name, or occurs in it behind a
  further `custom.`.

  Main result: `findFor_customFile` — a namesake gets the file exactly when no
  rival, and none that cannot be asked, stands before the first namesake.
  `findFor_customFile_rival` shows that rivals do get it.
-/
import Mathlib.Data.List.TakeWhile
import ApiTools.Integration.Basic

namespace ApiTools.Integration

/-! ## §1. The documented file of a custom name. -/

/-- The documented file name for a custom integration with a normalised name. -/
def customFile (normalized ending : String) : String := customMark ++ normalized ++ ending

/-- Is this a custom integration with the given normalised name? -/
def isNamed (normalized : String) : Integration → Bool
  | custom name _ => (normalizeName name).toOption == some normalized
  | _ => false

/-- Owns the documented file of a custom name without having that name. -/
def Rival (normalized ending : String) : Integration → Prop
  | standard type _ => type = .str "custom"
  | custom name _ => ∃ other, normalizeName name = .ok other ∧ other ≠ normalized
      ∧ (other.toList <+: (normalized ++ ending).toList
          ∨ (customMark ++ other).toList <:+: (normalized ++ ending).toList)
  | unknown => False

/-- Cannot be asked for its files: no integration at all, or a name that is no text. -/
def Unasked : Integration → Prop
  | standard _ _ => False
  | custom name _ => ∃ e, normalizeName name = .error e
  | unknown => True

/-- A mark with a name occurs in a documented file name at the start or behind the mark: the mark
has one `c` only. -/
theorem contains_customFile (other normalized ending : String) :
    Text.contains (customMark ++ other) (customFile normalized ending) = true
      ↔ other.toList <+: (normalized ++ ending).toList
        ∨ (customMark ++ other).toList <:+: (normalized ++ ending).toList := by
  have mark : customMark.toList = ['c', 'u', 's', 't', 'o', 'm', '.'] := by decide
  -- an occurrence starts at the first letter or behind it, and six of the starts need a second `c`
  rw [Text.contains_eq_true_iff, customFile, String.append_assoc, String.toList_append,
    String.toList_append (t := normalized ++ ending), mark]
  simp [List.infix_cons_iff, List.cons_prefix_cons]

theorem upTo_customFile (normalized ending : String) :
    Text.upTo '.' (customFile normalized ending) = "custom" := by
  have mark : customMark.toList = ['c', 'u', 's', 't', 'o', 'm', '.'] := by decide
  rw [Text.upTo, customFile, String.append_assoc, String.toList_append, mark]
  simp

/-- Who owns the documented file of a name. -/
theorem ownsFile_customFile_eq_true_iff (normalized ending : String) (i : Integration) :
    ownsFile (customFile normalized ending) i = .ok true
      ↔ isNamed normalized i = true ∨ Rival normalized ending i := by
  cases i with
  | standard type id =>
      rw [ownsFile, upTo_customFile]
      cases type <;> simp [isNamed, Rival, Value.isText]
  | unknown => simp [ownsFile, isNamed, Rival]
  | custom name id =>
      rw [ownsFile, isNamed, Rival]
      cases normalizeName name with
      | error e => simp
      | ok other =>
          simp only [ok_bind, Except.ok.injEq, contains_customFile]
          by_cases same : other = normalized
          · subst same
            simp
          · simp [same]

/-- Who cannot be asked gives a fault instead of an answer. -/
theorem ownsFile_eq_error_iff (file : String) (i : Integration) :
    (∃ e, ownsFile file i = .error e) ↔ Unasked i := by
  cases i with
  | standard type id => simp [ownsFile, Unasked]
  | unknown => simp [ownsFile, Unasked]
  | custom name id =>
      rw [ownsFile, Unasked]
      cases normalizeName name <;> simp

/-- Whoever is no namesake, no rival and can be asked leaves the file to others. -/
theorem ownsFile_customFile_eq_false_iff (normalized ending : String) (i : Integration) :
    ownsFile (customFile normalized ending) i = .ok false
      ↔ isNamed normalized i = false ∧ ¬ Rival normalized ending i ∧ ¬ Unasked i := by
  have owner := ownsFile_customFile_eq_true_iff normalized ending i
  have unasked := ownsFile_eq_error_iff (customFile normalized ending) i
  cases h : ownsFile (customFile normalized ending) i with
  | error e =>
      have : Unasked i := unasked.mp ⟨e, h⟩
      simp [this]
  | ok answer =>
      have asked : ¬ Unasked i := fun u => by
        obtain ⟨e, he⟩ := unasked.mpr u
        rw [h] at he
        exact absurd he (by simp)
      rw [h] at owner
      cases answer with
      | true =>
          rcases owner.mp rfl with named | rival
          · simp [named]
          · simp [rival]
      | false =>
          have neither : ¬ (isNamed normalized i = true ∨ Rival normalized ending i) :=
            fun o => absurd (owner.mpr o) (by simp)
          rw [not_or, Bool.not_eq_true] at neither
          simp [neither.1, neither.2, asked]

/-! ## §2. The first owner. -/

theorem findFor_append_of_false {file : String} {before : List Integration}
    (h : ∀ i ∈ before, ownsFile file i = .ok false) (after : List Integration) :
    findFor file (before ++ after) = findFor file after := by
  induction before with
  | nil => rfl
  | cons i before ih =>
      have rest := ih fun x hx => h x (List.mem_cons_of_mem i hx)
      rw [List.cons_append, findFor, h i List.mem_cons_self]
      exact rest

theorem findFor_cons_of_true {file : String} {i : Integration}
    (h : ownsFile file i = .ok true) (after : List Integration) :
    findFor file (i :: after) = .ok (some i) := by
  rw [findFor, h]
  rfl

/-- The first owner takes a file: everyone before it has left the file to others. -/
theorem split_of_findFor {file : String} {is : List Integration} {j : Integration}
    (h : findFor file is = .ok (some j)) :
    ∃ before after, is = before ++ j :: after ∧ ownsFile file j = .ok true
      ∧ ∀ i ∈ before, ownsFile file i = .ok false := by
  induction is with
  | nil => simp [findFor] at h
  | cons i is ih =>
      rw [findFor, bind_eq_ok] at h
      obtain ⟨answer, hi, h⟩ := h
      cases answer with
      | true =>
          injection h with h
          injection h with h
          subst h
          exact ⟨[], is, rfl, hi, by simp⟩
      | false =>
          obtain ⟨before, after, split, hj, left⟩ := ih h
          refine ⟨i :: before, after, by rw [split, List.cons_append], hj, ?_⟩
          intro x hx
          rcases List.mem_cons.mp hx with rfl | hx
          · exact hi
          · exact left x hx

/-- A file that someone owns does not stay without an owner. -/
theorem findFor_ne_none {file : String} {is : List Integration} {i : Integration} (hi : i ∈ is)
    (h : ownsFile file i = .ok true) : findFor file is ≠ .ok none := by
  intro nobody
  induction is with
  | nil => simp at hi
  | cons x is ih =>
      rw [findFor, bind_eq_ok] at nobody
      obtain ⟨answer, hx, nobody⟩ := nobody
      cases answer with
      | true => simp at nobody
      | false =>
          rcases List.mem_cons.mp hi with rfl | hi
          · rw [h] at hx
            simp at hx
          · exact ih hi nobody

theorem mem_of_mem_takeWhile_append {α : Type} {p : α → Bool} {before after : List α} {j x : α}
    (hj : p j = false) (hx : x ∈ (before ++ j :: after).takeWhile p) : x ∈ before := by
  induction before with
  | nil => simp [hj] at hx
  | cons b before ih =>
      rw [List.cons_append, List.takeWhile_cons] at hx
      split at hx
      next =>
        rcases List.mem_cons.mp hx with rfl | hx
        · exact List.mem_cons_self
        · exact List.mem_cons_of_mem b (ih hx)
      next => simp at hx

/-- A namesake gets the file exactly when everyone before the first namesake leaves it to others. -/
theorem findFor_named_iff {normalized ending : String} {is : List Integration} {c : Integration}
    (hc : c ∈ is) (named : isNamed normalized c = true) :
    (∃ j, findFor (customFile normalized ending) is = .ok (some j) ∧ isNamed normalized j = true)
      ↔ ∀ i ∈ is.takeWhile (fun i => !isNamed normalized i),
          ownsFile (customFile normalized ending) i = .ok false := by
  constructor
  · rintro ⟨j, found, hj⟩ i hi
    obtain ⟨before, after, split, _, left⟩ := split_of_findFor found
    rw [split] at hi
    exact left i (mem_of_mem_takeWhile_append (by simp [hj]) hi)
  · intro left
    have split : is.takeWhile (fun i => !isNamed normalized i)
        ++ is.dropWhile (fun i => !isNamed normalized i) = is := List.takeWhile_append_dropWhile
    cases hd : is.dropWhile (fun i => !isNamed normalized i) with
    | nil =>
        -- the namesake `c` would have been dropped
        rw [List.dropWhile_eq_nil_iff] at hd
        have := hd c hc
        simp [named] at this
    | cons j after =>
        have hj : isNamed normalized j = true := by
          have := List.head?_dropWhile_not (fun i => !isNamed normalized i) is
          simpa [hd] using this
        have owns := (ownsFile_customFile_eq_true_iff normalized ending j).mpr (Or.inl hj)
        refine ⟨j, ?_, hj⟩
        rw [← split, hd, findFor_append_of_false left, findFor_cons_of_true owns]

/-- **WHO GETS THE FILE OF A CUSTOM NAME**: somebody always owns it; whoever gets it is a namesake
or a rival; and a namesake gets it exactly when, before the first namesake, there is no rival and
nobody who cannot be asked. -/
theorem findFor_customFile {integrations : List Integration} {name id : Value}
    {normalized : String} (ending : String) (listed : custom name id ∈ integrations)
    (hn : normalizeName name = .ok normalized) :
    findFor (customFile normalized ending) integrations ≠ .ok none
      ∧ (∀ j, findFor (customFile normalized ending) integrations = .ok (some j) →
          j ∈ integrations ∧ (isNamed normalized j = true ∨ Rival normalized ending j))
      ∧ ((∃ j, findFor (customFile normalized ending) integrations = .ok (some j)
            ∧ isNamed normalized j = true)
          ↔ ∀ i ∈ integrations.takeWhile (fun i => !isNamed normalized i),
              ¬ Rival normalized ending i ∧ ¬ Unasked i) := by
  have named : isNamed normalized (custom name id) = true := by simp [isNamed, hn]
  refine ⟨?_, ?_, ?_⟩
  · exact findFor_ne_none listed
      ((ownsFile_customFile_eq_true_iff normalized ending _).mpr (Or.inl named))
  · intro j found
    obtain ⟨before, after, split, owns, _⟩ := split_of_findFor found
    refine ⟨?_, (ownsFile_customFile_eq_true_iff normalized ending j).mp owns⟩
    rw [split]
    exact List.mem_append_right before List.mem_cons_self
  · rw [findFor_named_iff listed named]
    constructor
    · intro left i hi
      exact ((ownsFile_customFile_eq_false_iff normalized ending i).mp (left i hi)).2
    · intro free i hi
      have other : isNamed normalized i = false := by
        have := List.mem_takeWhile_imp hi
        simpa using this
      exact (ownsFile_customFile_eq_false_iff normalized ending i).mpr ⟨other, free i hi⟩

/-! ## §3. Acme and its rival. -/

theorem normalizeName_str (s : String) :
    normalizeName (.str s) = .ok (Text.toLower (String.ofList (s.toList.filter (· != ' ')))) := rfl

theorem normalizeName_acme : normalizeName (.str "Acme") = .ok "acme" := by
  rw [normalizeName_str]
  exact congrArg Except.ok (by decide +kernel)

/-- The custom integration `Acme`, behind a standard one and before a rival. -/
def acmeBeforeRival : List Integration :=
  [standard (.str "acme") .null, custom (.str "Acme") (.str "2"), custom (.str "Ac") (.str "1")]

/-- Before its rival `Acme` gets its file. -/
theorem findFor_customFile_acme :
    custom (.str "Acme") (.str "2") ∈ acmeBeforeRival
      ∧ normalizeName (.str "Acme") = .ok "acme"
      ∧ findFor (customFile "acme" ".yml") acmeBeforeRival ≠ .ok none
      ∧ ∃ j, findFor (customFile "acme" ".yml") acmeBeforeRival = .ok (some j)
          ∧ isNamed "acme" j = true := by
  have listed : custom (.str "Acme") (.str "2") ∈ acmeBeforeRival := by simp [acmeBeforeRival]
  obtain ⟨some_owner, _, named⟩ := findFor_customFile ".yml" listed normalizeName_acme
  refine ⟨listed, normalizeName_acme, some_owner, named.mpr ?_⟩
  have before : acmeBeforeRival.takeWhile (fun i => !isNamed "acme" i)
      = [standard (.str "acme") .null] := by
    simp [acmeBeforeRival, isNamed, normalizeName_acme]
  rw [before]
  simp [Rival, Unasked]

/-- The record of the custom integration `Acme`. -/
def acmeRecord : Value := .object [("type", .str "custom"), ("id", .str "2"), ("name", .str "Acme")]

/-- Behind its rival `Acme` does not get its file, so standing in the list is not enough. -/
theorem findFor_customFile_rival :
    ¬ ∀ (integrations : List Integration) (data name id : Value) (normalized ending : String),
        ofValue data = .ok (custom name id) → custom name id ∈ integrations →
        normalizeName name = .ok normalized → ending ∈ [".json", ".yml", ".yaml"] →
        ∃ j, findFor (customFile normalized ending) integrations = .ok (some j)
          ∧ isNamed normalized j = true := by
  intro claim
  obtain ⟨j, found, named⟩ := claim
    [custom (.str "Ac") (.str "1"), custom (.str "Acme") (.str "2")] acmeRecord
    (.str "Acme") (.str "2") "acme" ".json" rfl (by simp) normalizeName_acme (by simp)
  have rival : ownsFile (customFile "acme" ".json") (custom (.str "Ac") (.str "1")) = .ok true := by
    rw [ownsFile, normalizeName_str]
    exact congrArg Except.ok (by decide +kernel)
  rw [findFor_cons_of_true rival, Except.ok.injEq, Option.some.injEq] at found
  subst found
  exact absurd named (by decide +kernel)

end ApiTools.Integration
