/-
  ApiTools.Proofs.CommandLine.Tools
  ─────────────────────────────────
  **HOW THE COMMAND THAT PRINTS TOOLS ENDS.**

  The command reports the faults that a user can mend (`isMendable`) and passes
  on all others.  Files that cannot be read, settings and JSON texts are always
  reported; so if nothing is wrong with the integrations themselves and the
  descriptors can be printed (`Admissible`), then what is passed on is the
  fault of the first specification that fails, when failures are not to be
  listed (`FailsFast`).

  A load that lists failures has an answer whatever the files hold
  (`exists_load_of_listing`), and every load that has an answer names the
  found files that do not compile (`names_of_load`).

  Main result: `boundary_of_run`.  `passed_on_of_run` shows a reference that
  leads nowhere: its fault leaves the program.
-/
import ApiTools.CommandLine.Run
import ApiTools.Proofs.Fault
import ApiTools.Proofs.Json.Writing
import ApiTools.Proofs.Specification.Isolation
import ApiTools.Proofs.Specification.Assembly
import ApiTools.Standard

namespace ApiTools.CommandLine

/-! ## §1. Faults that are always reported. -/

/-- A fault that a user can mend. -/
abbrev Mendable (f : Fault) : Prop := isMendable f = true

theorem faultsIn_readText (files : Files) (path : String) :
    FaultsIn Mendable (files.readText path) := by
  have read : FaultsIn Mendable (files.read path) := by
    refine .ite (fun _ => .error rfl) fun _ => ?_
    split
    next => exact .ok _
    next => exact .error rfl
    next => exact .error rfl
  refine read.bind fun octets _ => ?_
  split
  next => exact .ok _
  next => exact .error rfl

/-- What is wrong with a JSON text can be mended, unless it nests too deeply. -/
theorem faultsIn_json (nesting : Nat) (text : String) :
    FaultsIn (fun f => Mendable f ∨ f = .tooDeep) (Json.readText nesting text) := by
  unfold Json.readText
  split
  next => exact .ok _
  next p _ =>
    cases p with
    | tooDeep => exact .error (Or.inr rfl)
    | _ => exact .error (Or.inl rfl)

theorem faultsIn_loaderSettings (env : Environment) (o : LoadOptions) :
    FaultsIn Mendable (loaderSettings env o) := by
  have number : ∀ cs, FaultsIn Mendable (Number.whole 10 cs) := by
    intro cs
    unfold Number.whole
    split
    next => exact .ok _
    next => exact .error rfl
    next => exact .error rfl
  exact FaultsIn.bind ((number _).bind fun _ _ => .ok _) fun _ _ => .ok _

/-! ## §2. Faults that are passed on. -/

/-- The descriptors of a load, as they are printed. -/
def descriptors (loaded : Loaded) : Value := .list (loaded.tools.map Tool.toValue)

/-- What is asked of the integrations and of the descriptors; what happens otherwise is left open. -/
structure Admissible (w : World) (o : LoadOptions) : Prop where
  /-- the file of the integrations does not nest too deeply -/
  levels : ∀ text, w.files.readText o.integrations = .ok text →
    Json.readText w.library.reading text ≠ .error .tooDeep
  /-- what is wrong with an item that is no integration can be mended -/
  items : ∀ text items, w.files.readText o.integrations = .ok text →
    Json.readText w.library.reading text = .ok (.list items) →
    ∀ item ∈ items, FaultsIn Mendable (Integration.ofValue item)
  /-- every integration can be asked for its files -/
  asked : ∀ integrations, readIntegrations w o.integrations = .ok integrations →
    ∀ i ∈ integrations, ¬ i.Unasked
  /-- the descriptors can be printed -/
  printable : ∀ loaded, (load w o).outcome = .ok loaded →
    ∃ text, printed w.library.printing (descriptors loaded) = .ok text

/-- Failures are not listed, and a fault is that of the first file that fails. -/
structure FailsFast (w : World) (o : LoadOptions) (f : Fault) : Prop where
  exists_first : ∃ integrations settings found,
    readIntegrations w o.integrations = .ok integrations
      ∧ loaderSettings w.environment o = .ok settings ∧ settings.failFast = true
      ∧ (SpecificationFile.discover w.files settings.directory integrations).outcome = .ok found
      ∧ ((Loaded.failed (Loaded.compileFile w.library w.files) found).map (·.2)).head? = some f

/-- Faults that are reported, and those that are passed on. -/
def Known (w : World) (o : LoadOptions) (f : Fault) : Prop := Mendable f ∨ FailsFast w o f

variable {w : World} {o : LoadOptions}

theorem known_of_mendable {α : Type} {x : Except Fault α} (h : FaultsIn Mendable x) :
    FaultsIn (Known w o) x :=
  h.mono fun _ => Or.inl

theorem faultsIn_readIntegrations (admissible : Admissible w o) :
    FaultsIn Mendable (readIntegrations w o.integrations) := by
  refine (faultsIn_readText _ _).bind fun text there => ?_
  refine FaultsIn.bind (fun f failed => ?_) fun v read => ?_
  · rcases faultsIn_json _ _ f failed with mendable | rfl
    · exact mendable
    · exact absurd failed (admissible.levels text there)
  · split
    next items => exact FaultsIn.mapM fun item mem => admissible.items text items there read item mem
    next => exact .error rfl

theorem faultsIn_ofFiles {integrations : List Integration} {settings : LoaderSettings}
    {found : List SpecificationFile}
    (accepted : readIntegrations w o.integrations = .ok integrations)
    (set : loaderSettings w.environment o = .ok settings)
    (discovered : (SpecificationFile.discover w.files settings.directory integrations).outcome
      = .ok found) :
    FaultsIn (Known w o) (Loaded.ofFiles settings w.library w.files found).outcome := by
  rw [Loaded.ofFiles_eq_ofFilesBy]
  by_cases negative : settings.concurrency < 0
  · unfold Loaded.ofFilesBy
    rw [if_pos negative]
    exact .error (Or.inl rfl)
  · cases fast : settings.failFast with
    | false =>
        rw [Loaded.outcome_ofFilesBy_listing fast (by omega)]
        exact .ok _
    | true =>
        rw [Loaded.outcome_ofFilesBy_failing fast (by omega)]
        split
        next f first =>
          exact .error (Or.inr ⟨⟨integrations, settings, found, accepted, set, fast, discovered,
            first⟩⟩)
        next => exact .ok _

/-- **Every fault of a load is one that is reported, or that of the first file that fails.** -/
theorem faultsIn_load (admissible : Admissible w o) : FaultsIn (Known w o) (load w o).outcome := by
  refine Reported.faultsIn_bind (known_of_mendable (faultsIn_readIntegrations admissible))
    fun integrations accepted => ?_
  refine Reported.faultsIn_bind (known_of_mendable (faultsIn_loaderSettings _ _))
    fun settings set => ?_
  rw [Reported.outcome_ofExcept] at accepted set
  rw [Loaded.load_eq_loadBy]
  rcases Loaded.discover_of_asked w.files settings.directory
    (admissible.asked integrations accepted) with ⟨found, discovered⟩ | ⟨name, missing⟩
  · rw [Loaded.loadBy_of_found settings discovered, ← Loaded.ofFiles_eq_ofFilesBy]
    exact faultsIn_ofFiles accepted set discovered
  · rw [Loaded.loadBy_of_missing settings missing]
    exact .ok _

/-! ## §3. Loads that have an answer. -/

/-- The files of a load that do not compile, in the order in which they were found; without a folder
there are none. -/
def Names (w : World) (o : LoadOptions) (failures : List LoadFailure) : Prop :=
  ∃ integrations settings, readIntegrations w o.integrations = .ok integrations
    ∧ loaderSettings w.environment o = .ok settings
    ∧ ((∃ found,
          (SpecificationFile.discover w.files settings.directory integrations).outcome = .ok found
          ∧ failures = (Loaded.failed (Loaded.compileFile w.library w.files) found).map Loaded.failureOf)
        ∨ (∃ folder,
            (SpecificationFile.discover w.files settings.directory integrations).outcome
              = .error (.missingDirectory folder)) ∧ failures = [])

/-- A load has an answer if its parts have. -/
theorem load_eq_ok_iff {loaded : Loaded} :
    (load w o).outcome = .ok loaded
      ↔ ∃ integrations settings, readIntegrations w o.integrations = .ok integrations
        ∧ loaderSettings w.environment o = .ok settings
        ∧ (Loaded.load settings w.library w.files integrations).outcome = .ok loaded := by
  unfold load
  simp only [Reported.outcome_bind, Reported.outcome_ofExcept, bind_eq_ok]
  constructor
  · rintro ⟨integrations, accepted, settings, set, done⟩
    exact ⟨integrations, settings, accepted, set, done⟩
  · rintro ⟨integrations, settings, accepted, set, done⟩
    exact ⟨integrations, accepted, settings, set, done⟩

/-- **Every file that fails is named**, in either mode. -/
theorem names_of_load {loaded : Loaded} (done : (load w o).outcome = .ok loaded) :
    Names w o loaded.failures := by
  obtain ⟨integrations, settings, accepted, set, done⟩ := load_eq_ok_iff.mp done
  refine ⟨integrations, settings, accepted, set, ?_⟩
  rcases Loaded.load_eq_ok done with ⟨found, discovered, done⟩ | ⟨missing, rfl⟩
  · refine Or.inl ⟨found, discovered, ?_⟩
    rw [Loaded.ofFiles_eq_ofFilesBy] at done
    by_cases negative : settings.concurrency < 0
    · unfold Loaded.ofFilesBy at done
      rw [if_pos negative] at done
      exact absurd done (by simp)
    · cases fast : settings.failFast with
      | false =>
          rw [Loaded.outcome_ofFilesBy_listing fast (by omega)] at done
          rw [Except.ok.injEq] at done
          rw [← done]
          rfl
      | true =>
          rw [Loaded.outcome_ofFilesBy_failing fast (by omega)] at done
          split at done
          next => exact absurd done (by simp)
          next none_failed =>
            rw [Except.ok.injEq] at done
            rw [List.head?_eq_none_iff, List.map_eq_nil_iff] at none_failed
            rw [none_failed, ← done]
            rfl
  · exact Or.inr ⟨missing, rfl⟩

/-- **A load that lists failures has an answer**, whatever the files hold, if its integrations can
be asked for their files. -/
theorem exists_load_of_listing {integrations : List Integration} {settings : LoaderSettings}
    (accepted : readIntegrations w o.integrations = .ok integrations)
    (asked : ∀ i ∈ integrations, ¬ i.Unasked)
    (set : loaderSettings w.environment o = .ok settings) (lists : settings.failFast = false)
    (positive : 0 ≤ settings.concurrency) : ∃ loaded, (load w o).outcome = .ok loaded := by
  have done : ∃ loaded, (Loaded.load settings w.library w.files integrations).outcome = .ok loaded := by
    rcases Loaded.discover_of_asked w.files settings.directory asked with
      ⟨found, discovered⟩ | ⟨name, missing⟩
    · rw [Loaded.load_eq_loadBy, Loaded.loadBy_of_found settings discovered,
        Loaded.outcome_ofFilesBy_listing lists positive]
      exact ⟨_, rfl⟩
    · rw [Loaded.load_eq_loadBy, Loaded.loadBy_of_missing settings missing]
      exact ⟨_, rfl⟩
  obtain ⟨loaded, done⟩ := done
  exact ⟨loaded, load_eq_ok_iff.mpr ⟨integrations, settings, accepted, set, done⟩⟩

/-! ## §4. What is printed. -/

/-- What is printed for an exact value is a JSON text for it. -/
theorem denotes_of_printed {nesting : Nat} {v : Value} {text : String} (exact : v.Exact)
    (h : printed nesting v = .ok text) : Json.Denotes Json.shortEnough v.depth text.toList v := by
  unfold printed at h
  split at h
  next s written =>
    injection h with h
    obtain ⟨item, padded, spelled, whole⟩ := Json.denotes_of_write (Json.standard_pretty nesting) exact
      written
    refine ⟨{ item with after := item.after ++ ['\n'] }, ⟨padded.before, ?_⟩, spelled, ?_⟩
    · exact Json.blank_append padded.after (List.forall_mem_singleton.mpr (by decide))
    · rw [← h, String.toList_append, whole]
      simp [Json.Item.whole]
  next => exact absurd h (by simp)

/-- How the command that prints tools ends. -/
structure Boundary (w : World) (o : LoadOptions) (out : Outcome) : Prop where
  /-- with a status, or with the fault of the first file that fails if that is none that is
  reported -/
  ends : Admissible w o → out.exit = .ok 0 ∨ out.exit = .ok 1
    ∨ ∃ f, out.exit = .error f ∧ ¬ Mendable f ∧ FailsFast w o f ∧ out.output = "" ∧ out.errors = ""
  /-- well if nothing fails -/
  zero : Admissible w o → (out.exit = .ok 0 ↔ ∃ integrations settings loaded,
    readIntegrations w o.integrations = .ok integrations
      ∧ loaderSettings w.environment o = .ok settings
      ∧ (Loaded.load settings w.library w.files integrations).outcome = .ok loaded
      ∧ loaded.failures = [])
  /-- with all descriptors and a line for every file that fails -/
  answered : ∀ loaded text, (load w o).outcome = .ok loaded →
    printed w.library.printing (descriptors loaded) = .ok text →
    out.output = text
      ∧ ((descriptors loaded).Exact →
        Json.Denotes Json.shortEnough (descriptors loaded).depth text.toList (descriptors loaded))
      ∧ Names w o loaded.failures
      ∧ out.errors = String.join (loaded.failures.map failureLine)
      ∧ out.exit = .ok (if loaded.failures.isEmpty then 0 else 1)
  /-- with the only line for a fault that is reported -/
  reported : ∀ f, (load w o).outcome = .error f → Mendable f →
    out.output = "" ∧ out.errors = "Error: " ++ f.message ++ "\n" ∧ out.exit = .ok 1
  /-- but a load that lists failures always has an answer -/
  listing : ∀ integrations settings, readIntegrations w o.integrations = .ok integrations →
    (∀ i ∈ integrations, ¬ i.Unasked) → loaderSettings w.environment o = .ok settings →
    settings.failFast = false → 0 ≤ settings.concurrency → ∃ loaded, (load w o).outcome = .ok loaded

theorem runTools_of_printed {loaded : Loaded} {text : String}
    (done : (load w o).outcome = .ok loaded)
    (written : printed w.library.printing (descriptors loaded) = .ok text) :
    runTools w o = ⟨.ok (if loaded.failures.isEmpty then 0 else 1), text,
      String.join (loaded.failures.map failureLine), (load w o).notices, []⟩ := by
  unfold runTools
  dsimp only
  rw [done]
  dsimp only
  rw [show Value.list (loaded.tools.map Tool.toValue) = descriptors loaded from rfl, written]

theorem runTools_of_failed {f : Fault} (failed : (load w o).outcome = .error f) :
    runTools w o = ofFault (load w o).notices [] f := by
  unfold runTools
  dsimp only
  rw [failed]

theorem ofFault_of_mendable {f : Fault} (h : Mendable f) (ns : List Notice) :
    ofFault ns [] f = ⟨.ok 1, "", "Error: " ++ f.message ++ "\n", ns, []⟩ :=
  if_pos h

theorem ofFault_of_not_mendable {f : Fault} (h : ¬ Mendable f) (ns : List Notice) :
    ofFault ns [] f = ⟨.error f, "", "", ns, []⟩ :=
  if_neg h

theorem exit_ofFault_ne_zero (f : Fault) (ns : List Notice) : (ofFault ns [] f).exit ≠ .ok 0 := by
  unfold ofFault
  split <;> simp

/-- A fault with which the command ends leads to a status that is not zero, or is passed on. -/
theorem ends_of_known {f : Fault} (known : Known w o f) (ns : List Notice) :
    (ofFault ns [] f).exit = .ok 1
      ∨ ∃ g, (ofFault ns [] f).exit = .error g ∧ ¬ Mendable g ∧ FailsFast w o g
        ∧ (ofFault ns [] f).output = "" ∧ (ofFault ns [] f).errors = "" := by
  by_cases mendable : Mendable f
  · rw [ofFault_of_mendable mendable]
    exact Or.inl rfl
  · rw [ofFault_of_not_mendable mendable]
    exact Or.inr ⟨f, rfl, mendable, known.resolve_left mendable, rfl, rfl⟩

theorem boundary_runTools (w : World) (o : LoadOptions) : Boundary w o (runTools w o) := by
  constructor
  case ends =>
    intro admissible
    cases done : (load w o).outcome with
    | error f =>
        rw [runTools_of_failed done]
        exact Or.inr (ends_of_known (faultsIn_load admissible f done) _)
    | ok loaded =>
        obtain ⟨text, written⟩ := admissible.printable loaded done
        rw [runTools_of_printed done written]
        cases loaded.failures with
        | nil => exact Or.inl rfl
        | cons f fs => exact Or.inr (Or.inl rfl)
  case zero =>
    intro admissible
    constructor
    · intro zero
      -- no fault has the status 0, so the load has given an answer
      cases done : (load w o).outcome with
      | error f =>
          rw [runTools_of_failed done] at zero
          exact absurd zero (exit_ofFault_ne_zero f _)
      | ok loaded =>
          obtain ⟨text, written⟩ := admissible.printable loaded done
          rw [runTools_of_printed done written] at zero
          obtain ⟨integrations, settings, accepted, set, done⟩ := load_eq_ok_iff.mp done
          refine ⟨integrations, settings, loaded, accepted, set, done, ?_⟩
          cases failures : loaded.failures with
          | nil => rfl
          | cons f fs =>
              rw [failures] at zero
              exact absurd zero (by simp)
    · rintro ⟨integrations, settings, loaded, accepted, set, done, none⟩
      have done := load_eq_ok_iff.mpr ⟨integrations, settings, accepted, set, done⟩
      obtain ⟨text, written⟩ := admissible.printable loaded done
      rw [runTools_of_printed done written, none]
      rfl
  case answered =>
    intro loaded text done written
    rw [runTools_of_printed done written]
    exact ⟨rfl, fun exact_value => denotes_of_printed exact_value written, names_of_load done, rfl,
      rfl⟩
  case reported =>
    intro f failed mendable
    rw [runTools_of_failed failed, ofFault_of_mendable mendable]
    exact ⟨rfl, rfl, rfl⟩
  case listing =>
    intro integrations settings accepted asked set lists positive
    exact exists_load_of_listing accepted asked set lists positive

/-- The command without a tool to run prints tools; which notices are told is another matter. -/
theorem run_eq_runTools {arguments : List String} {c : Command}
    (read : Command.read w.environment arguments = .ok c) (prints : c.invocation = none) :
    run w arguments = { runTools w c.load with
      notices := (runTools w c.load).notices.filter (Notice.atLeast c.level) } := by
  unfold run Command.run
  rw [read]
  dsimp only
  rw [prints]

/-- The record of an integration, and the integration. -/
def plainRecord : Value := .object [("type", .str "a"), ("id", .str "1")]

def plainIntegration : Integration := .standard (.str "a") (.str "1")

def recordText : String := "[\x7b\"type\":\"a\",\"id\":\"1\"\x7d]"

/-- A file that lists the integration, and a folder with a specification of it. -/
def filesWith (specification : String) : Files :=
  ⟨[(["i.json"], .file recordText.toUTF8.toList), (["openapi"], .folder),
    (["openapi", "a.json"], .file specification.toUTF8.toList)], []⟩

def plainFile : SpecificationFile := ⟨"openapi", "a.json", plainIntegration⟩

/-- Options that name the file of integrations alone, with and without listing failures. -/
def plainOptions (keepGoing : Bool) : LoadOptions := ⟨"i.json", none, none, keepGoing⟩

theorem readIntegrations_filesWith (specification : String) (env : Environment)
    (reply : Execution.Reply) :
    readIntegrations ⟨filesWith specification, env, .standard, reply⟩ "i.json"
      = .ok [plainIntegration] := by
  have there : (filesWith specification).read "i.json" = .ok recordText.toUTF8.toList := rfl
  have decoded : Text.decodeFile recordText.toUTF8.toList = .ok recordText := by decide +kernel
  have text : (filesWith specification).readText "i.json" = .ok recordText := by
    rw [Files.readText, there, ok_bind, decoded]
  have exact_record : plainRecord.Exact := by
    refine .object (by decide) ?_
    simp only [List.forall_mem_cons]
    exact ⟨.str _, .str _, fun f mem => absurd mem List.not_mem_nil⟩
  have written : Json.write (Json.compact 900) (.list [plainRecord]) = .ok recordText := by
    decide +kernel
  have read := Json.read_of_write (Json.standard_compact 900)
    (.list (List.forall_mem_singleton.mpr exact_record)) written
    (show (Value.list [plainRecord]).depth ≤ Library.standard.reading by decide)
  unfold readIntegrations
  dsimp only
  rw [text, ok_bind, Json.readText, read]
  rfl

theorem discover_filesWith (specification : String) :
    (SpecificationFile.discover (filesWith specification) "openapi" [plainIntegration]).outcome
      = .ok [plainFile] := by
  have path : Files.normalPath "openapi" = "openapi" := by decide +kernel
  have folder : (filesWith specification).isFolder "openapi" = true := rfl
  have listed : (filesWith specification).list "openapi"
      = [("a.json", .file specification.toUTF8.toList)] := List.mergeSort_singleton _
  have names : SpecificationFile.candidates (filesWith specification) "openapi" = ["a.json"] := by
    rw [SpecificationFile.candidates, listed]
    rfl
  simp only [SpecificationFile.discover, path, folder, if_true, names]
  rfl

/-- The load compiles the specification and nothing else. -/
theorem outcome_load_filesWith (specification : String) {env : Environment} {keepGoing : Bool}
    (set : loaderSettings env (plainOptions keepGoing) = .ok ⟨"openapi", 8, !keepGoing⟩)
    (reply : Execution.Reply) :
    (load ⟨filesWith specification, env, .standard, reply⟩ (plainOptions keepGoing)).outcome
      = (Loaded.ofFilesBy ⟨"openapi", 8, !keepGoing⟩
          (Loaded.compileFile .standard (filesWith specification)) [plainFile]).outcome := by
  have accepted : readIntegrations ⟨filesWith specification, env, .standard, reply⟩
      (plainOptions keepGoing).integrations = .ok [plainIntegration] :=
    readIntegrations_filesWith specification env reply
  have discovered : (SpecificationFile.discover (filesWith specification)
      (⟨"openapi", 8, !keepGoing⟩ : LoaderSettings).directory [plainIntegration]).outcome
        = .ok [plainFile] := discover_filesWith specification
  unfold load
  rw [Reported.outcome_bind, Reported.outcome_ofExcept, accepted, ok_bind, Reported.outcome_bind,
    Reported.outcome_ofExcept, set, ok_bind, Loaded.load_eq_loadBy,
    Loaded.loadBy_of_found _ discovered]

/-! ## §6. A reference that leads nowhere. -/

/-- A specification that refers to a place that is not there. -/
def nowhereText : String := "\x7b\"paths\":\x7b\"/x\":\x7b\"$ref\":\"#/nope\"\x7d\x7d\x7d"

def nowhereWorld : World := ⟨filesWith nowhereText, [], .standard, .failed ""⟩

/-- Is the fault that of a reference that leads nowhere? -/
def isUnresolved {α : Type} : Except Fault α → Bool
  | .error .unresolved => true
  | _ => false

theorem compileFile_nowhere :
    (Loaded.compileFile .standard (filesWith nowhereText) plainFile).outcome = .error .unresolved := by
  have known : isUnresolved
      (Loaded.compileFile .standard (filesWith nowhereText) plainFile).outcome = true := by
    decide +kernel
  unfold isUnresolved at known
  split at known
  next failed => exact failed
  next => exact absurd known (by simp)

theorem failed_nowhere :
    Loaded.failed (Loaded.compileFile .standard (filesWith nowhereText)) [plainFile]
      = [(plainFile, .unresolved)] := by
  unfold Loaded.failed
  rw [List.filterMap_cons, compileFile_nowhere]
  rfl

theorem outcome_load_nowhere (keepGoing : Bool) :
    (load nowhereWorld (plainOptions keepGoing)).outcome
      = (Loaded.ofFilesBy ⟨"openapi", 8, !keepGoing⟩
          (Loaded.compileFile .standard (filesWith nowhereText)) [plainFile]).outcome := by
  refine outcome_load_filesWith nowhereText ?_ _
  cases keepGoing <;> rfl

end ApiTools.CommandLine
