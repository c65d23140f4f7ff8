/-
  ApiTools.Proofs.Specification.Isolation
  ───────────────────────────────────────
  **FILES THAT FAIL AND FILES THAT COMPILE.**

  A load compiles each file that discovery found, and each file compiles or
  fails.  What the load says depends on these outcomes alone, so here they are
  arbitrary: `Loaded.loadBy` compiles in a given way, and `Loaded.load` is one
  of its cases (`load_eq_loadBy`).  The found files split into those that
  compile and those that fail (`passed_append_failed_perm`), and

    • `outcome_ofFilesBy_listing` — a load that lists failures puts together
      the documents of the files that compile and lists the files that fail,
    • `outcome_ofFilesBy_failing` — a load that fails fast gives the fault of
      the first file that fails, or puts all documents together,
    • `mem_documents_of_mem_tools`, `mem_documents_of_mem_requests` — what is
      put together comes from documents of files that compile.
-/
import ApiTools.Proofs.Specification.Assembly
import ApiTools.Proofs.Specification.FileName
import ApiTools.Proofs.Integration.Ownership

namespace ApiTools

namespace Loaded

/-! ## §1. Loads with any way to compile. -/

/-- Loads the specification files that have been found, compiling them in a given way. -/
def ofFilesBy (settings : LoaderSettings) (compile : SpecificationFile → Reported Compiled)
    (found : List SpecificationFile) : Reported Loaded :=
  if settings.concurrency < 0 then Reported.fail (.refused .negativeConcurrency)
  else
    let compiled := found.map fun f => (f, compile f)
    if settings.failFast then do
      let documents ← compileAll settings.concurrency.toNat (compiled.map (·.2))
      assemble documents []
    else collect compiled

/-- Loads the specifications of a folder, compiling them in a given way. -/
def loadBy (settings : LoaderSettings) (files : Files)
    (compile : SpecificationFile → Reported Compiled) (integrations : List Integration) :
    Reported Loaded :=
  let found := SpecificationFile.discover files settings.directory integrations
  match found.outcome with
  | .error (.missingDirectory name) =>
    ⟨found.notices ++ [.directoryMissing (.missingDirectory name)], .ok empty⟩
  | _ => found >>= ofFilesBy settings compile

theorem ofFiles_eq_ofFilesBy (settings : LoaderSettings) (library : Library) (files : Files) :
    ofFiles settings library files = ofFilesBy settings (compileFile library files) := by
  funext found
  rfl

/-- A load compiles by reading, resolving and compiling. -/
theorem load_eq_loadBy (settings : LoaderSettings) (library : Library) (files : Files)
    (integrations : List Integration) :
    load settings library files integrations
      = loadBy settings files (compileFile library files) integrations := by
  unfold load loadBy
  generalize SpecificationFile.discover files settings.directory integrations = found
  obtain ⟨notices, outcome⟩ := found
  cases outcome with
  | ok found => exact congrArg (⟨notices, .ok found⟩ >>= ·) (ofFiles_eq_ofFilesBy _ _ _)
  | error e => cases e <;> rfl

section Discovered

variable (settings : LoaderSettings) {files : Files}
  {compile : SpecificationFile → Reported Compiled} {integrations : List Integration}

theorem loadBy_of_found {found : List SpecificationFile}
    (h : (SpecificationFile.discover files settings.directory integrations).outcome = .ok found) :
    (loadBy settings files compile integrations).outcome
      = (ofFilesBy settings compile found).outcome := by
  unfold loadBy
  generalize SpecificationFile.discover files settings.directory integrations = x at h ⊢
  simp only [h, Reported.outcome_bind, ok_bind]

theorem loadBy_of_missing {folder : String}
    (h : (SpecificationFile.discover files settings.directory integrations).outcome
      = .error (.missingDirectory folder)) :
    (loadBy settings files compile integrations).outcome = .ok empty := by
  unfold loadBy
  generalize SpecificationFile.discover files settings.directory integrations = x at h ⊢
  simp only [h]

end Discovered

/-- Finding an owner fails only at an integration that cannot be asked. -/
theorem exists_unasked_of_findFor {file : String} {is : List Integration} {e : Fault}
    (h : Integration.findFor file is = .error e) : ∃ i ∈ is, i.Unasked := by
  induction is with
  | nil => simp [Integration.findFor] at h
  | cons i is ih =>
      rw [Integration.findFor] at h
      cases owns : Integration.ownsFile file i with
      | error e' =>
          have unasked := (Integration.ownsFile_eq_error_iff file i).mp ⟨e', owns⟩
          exact ⟨i, List.mem_cons_self, unasked⟩
      | ok answer =>
          rw [owns, ok_bind] at h
          cases answer with
          | true => simp at h
          | false =>
              obtain ⟨j, mem, unasked⟩ := ih h
              exact ⟨j, List.mem_cons_of_mem i mem, unasked⟩

theorem exists_unasked_of_owned {integrations : List Integration} {folder : String}
    {names : List String} {e : Fault}
    (h : (SpecificationFile.owned integrations folder names).outcome = .error e) :
    ∃ i ∈ integrations, i.Unasked := by
  induction names with
  | nil => simp [SpecificationFile.owned] at h
  | cons name names ih =>
      rw [SpecificationFile.owned, Reported.outcome_bind, Reported.outcome_ofExcept] at h
      cases owner : Integration.findFor name integrations with
      | error e' => exact exists_unasked_of_findFor owner
      | ok found =>
          rw [owner, ok_bind] at h
          cases found with
          | none =>
              rw [Reported.outcome_bind, Reported.outcome_say, ok_bind] at h
              exact ih h
          | some integration =>
              rw [Reported.outcome_bind] at h
              cases others : (SpecificationFile.owned integrations folder names).outcome with
              | error e' => exact ih (by rw [others]; rw [others] at h; exact h)
              | ok rest =>
                  rw [others, ok_bind] at h
                  simp at h

/-- Among integrations that can all be asked, discovery finds files or no folder to look into. -/
theorem discover_of_asked (files : Files) (folder : String) {integrations : List Integration}
    (asked : ∀ i ∈ integrations, ¬ i.Unasked) :
    (∃ found, (SpecificationFile.discover files folder integrations).outcome = .ok found)
      ∨ ∃ name, (SpecificationFile.discover files folder integrations).outcome
          = .error (.missingDirectory name) := by
  unfold SpecificationFile.discover
  dsimp only
  split
  next =>
    cases h : (SpecificationFile.owned integrations (Files.normalPath folder)
        (SpecificationFile.candidates files (Files.normalPath folder))).outcome with
    | ok found => exact Or.inl ⟨found, rfl⟩
    | error e =>
        obtain ⟨i, mem, unasked⟩ := exists_unasked_of_owned h
        exact absurd unasked (asked i mem)
  next => exact Or.inr ⟨_, rfl⟩

/-! ## §2. The two kinds of files. -/

section Split

variable (compile : SpecificationFile → Reported Compiled)

/-- The files that compile, with their documents. -/
def passed (found : List SpecificationFile) : List (SpecificationFile × Compiled) :=
  found.filterMap fun f =>
    match (compile f).outcome with
    | .ok d => some (f, d)
    | .error _ => none

/-- The files that fail, with their faults. -/
def failed (found : List SpecificationFile) : List (SpecificationFile × Fault) :=
  found.filterMap fun f =>
    match (compile f).outcome with
    | .ok _ => none
    | .error e => some (f, e)

/-- What a load tells of a file that fails. -/
def failureOf (f : SpecificationFile × Fault) : LoadFailure :=
  ⟨f.1.name, f.1.integrationName, f.2⟩

variable {compile} {found : List SpecificationFile} {f : SpecificationFile}

theorem mem_passed {d : Compiled} :
    (f, d) ∈ passed compile found ↔ f ∈ found ∧ (compile f).outcome = .ok d := by
  unfold passed
  rw [List.mem_filterMap]
  constructor
  · rintro ⟨g, mem, h⟩
    cases hg : (compile g).outcome with
    | error e => simp [hg] at h
    | ok d' =>
        simp only [hg, Option.some.injEq, Prod.mk.injEq] at h
        obtain ⟨rfl, rfl⟩ := h
        exact ⟨mem, hg⟩
  · rintro ⟨mem, h⟩
    exact ⟨f, mem, by rw [h]⟩

theorem mem_failed {e : Fault} :
    (f, e) ∈ failed compile found ↔ f ∈ found ∧ (compile f).outcome = .error e := by
  unfold failed
  rw [List.mem_filterMap]
  constructor
  · rintro ⟨g, mem, h⟩
    cases hg : (compile g).outcome with
    | ok d => simp [hg] at h
    | error e' =>
        simp only [hg, Option.some.injEq, Prod.mk.injEq] at h
        obtain ⟨rfl, rfl⟩ := h
        exact ⟨mem, hg⟩
  · rintro ⟨mem, h⟩
    exact ⟨f, mem, by rw [h]⟩

/-- Every found file compiles or fails, as often as it was found. -/
theorem passed_append_failed_perm (compile : SpecificationFile → Reported Compiled)
    (found : List SpecificationFile) :
    ((passed compile found).map (·.1) ++ (failed compile found).map (·.1)).Perm found := by
  induction found with
  | nil => exact List.Perm.refl []
  | cons f found ih =>
      simp only [passed, failed, List.filterMap_cons] at ih ⊢
      cases (compile f).outcome with
      | ok d => exact ih.cons f
      | error e =>
          show (_ ++ f :: _).Perm (f :: found)
          exact List.perm_middle.trans (ih.cons f)

/-- No file does both. -/
theorem not_mem_failed_of_mem_passed (h : f ∈ (passed compile found).map (·.1)) :
    f ∉ (failed compile found).map (·.1) := by
  intro h'
  obtain ⟨⟨g, d⟩, passes, rfl⟩ := List.mem_map.mp h
  obtain ⟨⟨g', e⟩, fails, same⟩ := List.mem_map.mp h'
  have ok := (mem_passed.mp passes).2
  have error := (mem_failed.mp fails).2
  dsimp only at same
  subst same
  rw [ok] at error
  exact absurd error (by simp)

theorem documentsOf_eq_passed (compile : SpecificationFile → Reported Compiled)
    (found : List SpecificationFile) :
    documentsOf (found.map fun f => (f, compile f)) = (passed compile found).map (·.2) := by
  unfold documentsOf passed
  rw [List.filterMap_map, List.map_filterMap]
  congr 1
  funext f
  dsimp only [Function.comp_apply]
  cases (compile f).outcome <;> rfl

theorem failuresOf_eq_failed (compile : SpecificationFile → Reported Compiled)
    (found : List SpecificationFile) :
    failuresOf (found.map fun f => (f, compile f)) = (failed compile found).map failureOf := by
  unfold failuresOf failed
  rw [List.filterMap_map, List.map_filterMap]
  congr 1
  funext f
  dsimp only [Function.comp_apply]
  cases (compile f).outcome <;> rfl

end Split

/-! ## §3. What documents make up. -/

/-- What documents are put together to. -/
def assembled (documents : List Compiled) (failures : List LoadFailure) : Loaded :=
  ⟨toolsOf documents, (Registry.merge (documents.map (·.requests))).1, failures⟩

theorem outcome_assemble (documents : List Compiled) (failures : List LoadFailure) :
    (assemble documents failures).outcome = .ok (assembled documents failures) := rfl

theorem mem_foldl_addTool {t : Tool} (ts kept : List Tool) (h : t ∈ ts.foldl addTool kept) :
    t ∈ kept ∨ t ∈ ts := by
  induction ts generalizing kept with
  | nil => exact Or.inl h
  | cons u ts ih =>
      rcases ih (addTool kept u) h with h | h
      · rcases List.mem_append.mp h with h | h
        · exact Or.inl ((List.mem_filter.mp h).1)
        · rw [List.mem_singleton] at h
          subst h
          exact Or.inr List.mem_cons_self
      · exact Or.inr (List.mem_cons_of_mem u h)

/-- A tool that is put together is a tool of one of the documents. -/
theorem mem_documents_of_mem_tools {documents : List Compiled} {t : Tool}
    (h : t ∈ toolsOf documents) : ∃ d ∈ documents, t ∈ d.tools := by
  rcases mem_foldl_addTool _ [] h with h | h
  · simp at h
  · exact List.mem_flatMap.mp h

/-- An entry that is put together is an entry of one of the documents. -/
theorem mem_documents_of_mem_requests {documents : List Compiled} {e : String × Request}
    (h : e ∈ (Registry.merge (documents.map (·.requests))).1.requests) :
    ∃ d ∈ documents, e ∈ d.requests := by
  rw [Registry.requests_merge] at h
  obtain ⟨part, mem, he⟩ := List.mem_flatten.mp (Table.mem_of_mem_ofList h)
  obtain ⟨d, hd, rfl⟩ := List.mem_map.mp mem
  exact ⟨d, hd, he⟩

/-! ## §4. The two loads. -/

theorem outcome_collect (compile : SpecificationFile → Reported Compiled)
    (found : List SpecificationFile) :
    (collect (found.map fun f => (f, compile f))).outcome
      = .ok (assembled ((passed compile found).map (·.2))
          ((failed compile found).map failureOf)) := by
  rw [← documentsOf_eq_passed, ← failuresOf_eq_failed]
  rfl

/-- The fault of a file that fails. -/
def faultOf? (c : Reported Compiled) : Option Fault :=
  match c.outcome with
  | .ok _ => none
  | .error e => some e

/-- Files of which none may fail give the first fault there is, or else all documents. -/
theorem outcome_compileAll (ahead : Nat) (cs : List (Reported Compiled)) :
    (compileAll ahead cs).outcome
      = match cs.findSome? faultOf? with
        | some e => .error e
        | none => .ok (cs.filterMap (·.outcome.toOption)) := by
  induction cs with
  | nil => rfl
  | cons c cs ih =>
      simp only [compileAll, List.findSome?_cons, List.filterMap_cons, faultOf?]
      cases hc : c.outcome with
      | error e => rfl
      | ok d =>
          simp only [ih]
          cases cs.findSome? faultOf? <;> rfl

/-- The first fault is that of the first file that fails. -/
theorem findSome?_faultOf? (compile : SpecificationFile → Reported Compiled)
    (found : List SpecificationFile) :
    (found.map compile).findSome? faultOf? = ((failed compile found).map (·.2)).head? := by
  induction found with
  | nil => rfl
  | cons f found ih =>
      rw [List.map_cons, List.findSome?_cons, ih, faultOf?]
      unfold failed
      rw [List.filterMap_cons]
      cases (compile f).outcome <;> rfl

theorem filterMap_outcome (compile : SpecificationFile → Reported Compiled)
    (found : List SpecificationFile) :
    (found.map compile).filterMap (·.outcome.toOption) = (passed compile found).map (·.2) := by
  unfold passed
  rw [List.filterMap_map, List.map_filterMap]
  congr 1
  funext f
  dsimp only [Function.comp_apply]
  cases (compile f).outcome <;> rfl

/-- **A load that lists failures** has an answer, whatever the files do. -/
theorem outcome_ofFilesBy_listing {settings : LoaderSettings} (lists : settings.failFast = false)
    (positive : 0 ≤ settings.concurrency) (compile : SpecificationFile → Reported Compiled)
    (found : List SpecificationFile) :
    (ofFilesBy settings compile found).outcome
      = .ok (assembled ((passed compile found).map (·.2))
          ((failed compile found).map failureOf)) := by
  unfold ofFilesBy
  rw [if_neg (by omega), lists]
  exact outcome_collect compile found

/-- **A load that fails fast** gives the fault of the first file that fails, or puts together the
documents of all files. -/
theorem outcome_ofFilesBy_failing {settings : LoaderSettings} (fast : settings.failFast = true)
    (positive : 0 ≤ settings.concurrency) (compile : SpecificationFile → Reported Compiled)
    (found : List SpecificationFile) :
    (ofFilesBy settings compile found).outcome
      = match ((failed compile found).map (·.2)).head? with
        | some e => .error e
        | none => .ok (assembled ((passed compile found).map (·.2)) []) := by
  have compiled : (found.map fun f => (f, compile f)).map (·.2) = found.map compile := by
    rw [List.map_map]
    rfl
  unfold ofFilesBy
  rw [if_neg (by omega), fast, if_pos rfl, Reported.outcome_bind, compiled, outcome_compileAll,
    findSome?_faultOf?, filterMap_outcome]
  cases ((failed compile found).map (·.2)).head? <;> rfl

end Loaded

end ApiTools
