/-
  ApiTools.Proofs.Specification.Concurrency
  ─────────────────────────────────────────
  **LOADS DO NOT DEPEND ON WHEN THEIR FILES ARE DONE.**

  The files of a load are compiled at once, as many as it has permits, and
  each is done at its own time.  `Loaded.answer` is what the load answers
  after some events: a load that fails fast ends with the first failure in
  time, and otherwise the outcomes are taken, once all are there, in the order
  of the files.  Two facts follow for every run of events:

    • `answer_of_run` — a finished run gives the answer of compiling the files
      one after the other in the order of their names; on the way there are
      never more files at work than permits, and what is not finished goes on,
    • `listing_agrees_with_failing` — a load that lists failures and a load
      that fails fast say the same of the same files: the one lists no failure
      exactly if the other has an answer, and then the answers are equal.
-/
import ApiTools.Proofs.Specification.Schedule
import ApiTools.Proofs.Specification.Isolation

namespace ApiTools

/-- The number of files worked on at once that the environment gives is never below one. -/
theorem LoaderSettings.one_le_concurrency {env : Environment} {settings : LoaderSettings}
    (h : ofEnvironment env = .ok settings) : 1 ≤ settings.concurrency := by
  rw [ofEnvironment, bind_eq_ok] at h
  obtain ⟨stated, _, h⟩ := h
  injection h with h
  subst h
  exact Int.le_max_left 1 stated

namespace Loaded

open Schedule

/-! ## §1. The answer after some events. -/

/-- The answer of a load after some events, if it has one yet. -/
def answer (failFast : Bool) (found : List SpecificationFile) (outcomes : List (Reported Compiled))
    (es : List Event) (s : List (Stage (Reported Compiled))) : Option (Except Fault Loaded) :=
  if failFast then
    match firstFinished outcomes faultOf? es with
    | some e => some (.error e)
    | none =>
      (gathered s).map fun cs => (assemble (cs.filterMap (·.outcome.toOption)) []).outcome
  else (gathered s).map fun cs => (collect (found.zip cs)).outcome

section Answers

variable {compile : SpecificationFile → Reported Compiled} {found : List SpecificationFile}
  {permits : Nat} {es : List Event} {s : List (Stage (Reported Compiled))}

theorem zip_map_self (compile : SpecificationFile → Reported Compiled)
    (found : List SpecificationFile) :
    found.zip (found.map compile) = found.map fun f => (f, compile f) := by
  induction found with
  | nil => rfl
  | cons f found ih => rw [List.map_cons, List.zip_cons_cons, ih, List.map_cons]

/-- A finished load that lists failures puts together what compiles and lists what fails. -/
theorem answer_listing_of_finished (run : Run permits (found.map compile) es s)
    (finished : Finished s) :
    answer false found (found.map compile) es s
      = some (.ok (assembled ((passed compile found).map (·.2))
          ((failed compile found).map failureOf))) := by
  unfold answer
  rw [if_neg Bool.false_ne_true, gathered_of_finished run finished, Option.map_some, zip_map_self,
    outcome_collect]

theorem faultOf?_eq_some_iff {c : Reported Compiled} {e : Fault} :
    faultOf? c = some e ↔ c.outcome = .error e := by
  unfold faultOf?
  cases c.outcome <;> simp

/-- The first fault in time is that of a file that fails. -/
theorem exists_failed_of_firstFinished {e : Fault}
    (h : firstFinished (found.map compile) faultOf? es = some e) :
    ∃ f, (f, e) ∈ failed compile found := by
  obtain ⟨c, mem, told⟩ := exists_of_firstFinished h
  obtain ⟨f, hf, rfl⟩ := List.mem_map.mp mem
  exact ⟨f, mem_failed.mpr ⟨hf, faultOf?_eq_some_iff.mp told⟩⟩

/-- In a finished run there is a first fault if any file fails. -/
theorem firstFinished_eq_none_iff (run : Run permits (found.map compile) es s)
    (finished : Finished s) :
    firstFinished (found.map compile) faultOf? es = none ↔ failed compile found = [] := by
  constructor
  · intro none_told
    by_contra some_fail
    obtain ⟨⟨f, e⟩, mem⟩ := List.exists_mem_of_ne_nil _ some_fail
    obtain ⟨hf, fails⟩ := mem_failed.mp mem
    have told : (firstFinished (found.map compile) faultOf? es).isSome :=
      firstFinished_isSome_of_finished run finished (List.mem_map_of_mem hf)
        (by rw [faultOf?_eq_some_iff.mpr fails]; rfl)
    rw [none_told] at told
    exact absurd told (by simp)
  · intro none_fail
    cases told : firstFinished (found.map compile) faultOf? es with
    | none => rfl
    | some e =>
        obtain ⟨f, mem⟩ := exists_failed_of_firstFinished told
        rw [none_fail] at mem
        exact absurd mem (by simp)

/-- A load that fails fast answers with a fault when a file fails. -/
theorem answer_failing_eq_error_iff {e : Fault} :
    answer true found (found.map compile) es s = some (.error e)
      ↔ firstFinished (found.map compile) faultOf? es = some e := by
  unfold answer
  rw [if_pos rfl]
  cases firstFinished (found.map compile) faultOf? es with
  | some e' => simp
  | none =>
      cases gathered s with
      | none => simp
      | some cs => simp [outcome_assemble]

/-- A finished load that fails fast, and in which nothing fails, puts all documents together. -/
theorem answer_failing_of_finished (run : Run permits (found.map compile) es s)
    (finished : Finished s) (none_fail : failed compile found = []) :
    answer true found (found.map compile) es s
      = some (.ok (assembled ((passed compile found).map (·.2)) [])) := by
  unfold answer
  rw [if_pos rfl, (firstFinished_eq_none_iff run finished).mpr none_fail]
  dsimp only
  rw [gathered_of_finished run finished, Option.map_some, outcome_assemble, filterMap_outcome]

end Answers

/-! ## §2. Every run gives the same answer. -/

/-- What is true of a load after any events, when files are compiled in a given way. -/
structure Steady (settings : LoaderSettings) (files : Files)
    (compile : SpecificationFile → Reported Compiled) (integrations : List Integration)
    (found : List SpecificationFile) (es : List Event) (s : List (Stage (Reported Compiled))) :
    Prop where
  running_le : (running s : Int) ≤ settings.concurrency
  goes_on : ¬ Finished s →
    ∃ e t, Step settings.concurrency.toNat (found.map compile) s e t
  ends : es.length ≤ 2 * found.length
  /-- every file is compiled once -/
  once : Finished s → ∀ i < found.length, es.count (.start i) = 1 ∧ es.count (.finish i) = 1
  /-- the answer in the end is that of compiling one file after the other -/
  answer_eq : Finished s →
    answer settings.failFast found (found.map compile) es s
        = some (loadBy settings files compile integrations).outcome
      ∧ answer settings.failFast found (found.map compile) (oneByOne found.length)
          ((found.map compile).map .done)
        = some (loadBy settings files compile integrations).outcome

theorem answer_of_finished {settings : LoaderSettings} {files : Files}
    {compile : SpecificationFile → Reported Compiled} {integrations : List Integration}
    {found : List SpecificationFile} {permits : Nat} {es : List Event}
    {s : List (Stage (Reported Compiled))} (positive : 0 ≤ settings.concurrency)
    (h : (SpecificationFile.discover files settings.directory integrations).outcome = .ok found)
    (compiles : settings.failFast = true → failed compile found = [])
    (run : Run permits (found.map compile) es s) (finished : Finished s) :
    answer settings.failFast found (found.map compile) es s
      = some (loadBy settings files compile integrations).outcome := by
  rw [loadBy_of_found settings h]
  cases fast : settings.failFast with
  | false =>
      rw [answer_listing_of_finished run finished, outcome_ofFilesBy_listing fast positive]
  | true =>
      have none_fail := compiles fast
      rw [answer_failing_of_finished run finished none_fail,
        outcome_ofFilesBy_failing fast positive, none_fail]
      rfl

/-- **THE ORDER OF EVENTS DOES NOT MATTER.**  With at least one permit, which the environment always
gives, and any way to compile the files that discovery found, in the order of their names: after any
events no more files are at work than there are permits and what is unfinished goes on, and in the
end every file was compiled once and the answer is that of compiling one after the other.  A load
that fails fast is one in which no file fails. -/
theorem answer_of_run {settings : LoaderSettings} {files : Files}
    (compile : SpecificationFile → Reported Compiled) {integrations : List Integration}
    {found : List SpecificationFile} (permit : 1 ≤ settings.concurrency)
    (h : (SpecificationFile.discover files settings.directory integrations).outcome = .ok found)
    (compiles : settings.failFast = true → ∀ f ∈ found, ∃ d, (compile f).outcome = .ok d) :
    (∀ env read, LoaderSettings.ofEnvironment env = .ok read → 1 ≤ read.concurrency)
      ∧ (∀ library, load settings library files integrations
          = loadBy settings files (compileFile library files) integrations)
      ∧ (found.map (·.name)).Pairwise (· ≤ ·)
      ∧ Run settings.concurrency.toNat (found.map compile) (oneByOne found.length)
          ((found.map compile).map .done)
      ∧ ∀ es s, Run settings.concurrency.toNat (found.map compile) es s →
          Steady settings files compile integrations found es s := by
  have none_fail : settings.failFast = true → failed compile found = [] := by
    intro fast
    refine List.eq_nil_iff_forall_not_mem.mpr ?_
    rintro ⟨f, e⟩ mem
    obtain ⟨hf, fails⟩ := mem_failed.mp mem
    obtain ⟨d, ok⟩ := compiles fast f hf
    rw [fails] at ok
    exact absurd ok (by simp)
  have some_permit : 0 < settings.concurrency.toNat := by omega
  have one_by_one : Run settings.concurrency.toNat (found.map compile) (oneByOne found.length)
      ((found.map compile).map .done) := by
    have run := run_oneByOne_length some_permit (found.map compile)
    rwa [List.length_map] at run
  refine ⟨fun env read => LoaderSettings.one_le_concurrency,
    fun library => load_eq_loadBy settings library files integrations,
    SpecificationFile.pairwise_name_of_discover h, one_by_one, fun es s run => ?_⟩
  constructor
  case running_le =>
    have le := running_le_of_run run
    omega
  case goes_on =>
    exact exists_step_of_unfinished some_permit (length_of_run run)
  case ends =>
    have le := length_le_of_run run
    rwa [List.length_map] at le
  case once =>
    intro finished i hi
    exact count_of_finished run finished (by rw [List.length_map]; exact hi)
  case answer_eq =>
    intro finished
    exact ⟨answer_of_finished (by omega) h none_fail run finished,
      answer_of_finished (by omega) h none_fail one_by_one
        (finished_map_done _)⟩

/-! ## §3. Two files of which the second is done first. -/

/-- Both files start, and the second is finished before the first. -/
def secondFirst : List Event := [.start 0, .start 1, .finish 1, .finish 0]

theorem run_secondFirst {α : Type} (first second : α) :
    Run 2 [first, second] secondFirst [.done first, .done second] := by
  have one : Run 2 [first, second] [.start 0] [.running, .waiting] :=
    Run.nil.snoc (.start rfl (by decide : 0 < 2))
  have both : Run 2 [first, second] [.start 0, .start 1] [.running, .running] :=
    one.snoc (.start rfl (by decide : 1 < 2))
  have second_done : Run 2 [first, second] [.start 0, .start 1, .finish 1]
      [.running, .done second] := both.snoc (.finish rfl rfl)
  exact second_done.snoc (.finish rfl rfl)

/-- The tools of both files have one name, and that of the second file stays although it was done
before the first. -/
theorem answer_of_run_secondFirst :
    (1 : Int) ≤ 2
      ∧ ∃ found, (SpecificationFile.discover collidingFiles "openapi"
          collidingIntegrations).outcome = .ok found
        ∧ found.map (·.name) = ["a.b.json", "a_b.json"]
        ∧ ∃ es s, Run 2 (found.map (compileFile .standard collidingFiles)) es s ∧ Finished s
          ∧ finishes es = [1, 0]
          ∧ Steady ⟨"openapi", 2, false⟩ collidingFiles (compileFile .standard collidingFiles)
              collidingIntegrations found es s
          ∧ ∃ loaded, answer false found (found.map (compileFile .standard collidingFiles)) es s
                = some (.ok loaded)
              ∧ loaded.tools.map (·.integrationName) = ["a_b"] := by
  have discovered := discover_collidingFiles
  obtain ⟨_, _, _, _, every⟩ := answer_of_run (compileFile .standard collidingFiles)
    (by decide : 1 ≤ (⟨"openapi", 2, false⟩ : LoaderSettings).concurrency) discovered
    (fun fast => absurd fast Bool.false_ne_true)
  have run := run_secondFirst
    (compileFile .standard collidingFiles ⟨"openapi", "a.b.json", .standard (.str "a") (.str "1")⟩)
    (compileFile .standard collidingFiles ⟨"openapi", "a_b.json", .standard (.str "a_b") (.str "2")⟩)
  have finished := finished_map_done
    [compileFile .standard collidingFiles ⟨"openapi", "a.b.json", .standard (.str "a") (.str "1")⟩,
      compileFile .standard collidingFiles ⟨"openapi", "a_b.json", .standard (.str "a_b") (.str "2")⟩]
  have steady := every secondFirst _ run
  have names : ((loadBy ⟨"openapi", 2, false⟩ collidingFiles (compileFile .standard collidingFiles)
      collidingIntegrations).outcome.map fun loaded => loaded.tools.map (·.integrationName)).toOption
      = some ["a_b"] := by
    rw [loadBy_of_found ⟨"openapi", 2, false⟩ discovered]
    decide +kernel
  obtain ⟨same, _⟩ := steady.answer_eq finished
  -- the load is kept closed: nothing below has to evaluate it again
  generalize (loadBy ⟨"openapi", 2, false⟩ collidingFiles (compileFile .standard collidingFiles)
    collidingIntegrations).outcome = outcome at names same
  cases outcome with
  | error e => simp at names
  | ok loaded =>
      refine ⟨by decide, _, discovered, rfl, secondFirst, _, run, finished, rfl, steady, loaded,
        same, by simpa using names⟩

/-! ## §4. Loads that list failures and loads that fail fast. -/

/-- What a load says that lists failures. -/
structure Isolates (compile : SpecificationFile → Reported Compiled)
    (found : List SpecificationFile) (loaded : Loaded) : Prop where
  /-- the failures are the files that fail, in order and with their own faults -/
  failures_eq : loaded.failures = (failed compile found).map failureOf
  /-- every file compiles or fails … -/
  split : ((passed compile found).map (·.1) ++ (failed compile found).map (·.1)).Perm found
  /-- … and none does both -/
  exclusive : ∀ f ∈ (passed compile found).map (·.1), f ∉ (failed compile found).map (·.1)
  /-- the documents of the files that compile give the same tools and registry alone -/
  alone : (assemble ((passed compile found).map (·.2)) []).outcome
    = .ok { loaded with failures := [] }
  /-- a file that fails contributes no tool … -/
  tools_from : ∀ t ∈ loaded.tools, ∃ f d, (f, d) ∈ passed compile found ∧ t ∈ d.tools
  /-- … and no entry of the registry -/
  requests_from : ∀ e ∈ loaded.registry.requests,
    ∃ f d, (f, d) ∈ passed compile found ∧ e ∈ d.requests

/-- What a load says that fails fast, beside one that lists failures. -/
structure FailsFast (compile : SpecificationFile → Reported Compiled)
    (found : List SpecificationFile) (loaded : Loaded) (failing : Except Fault Loaded) : Prop where
  raises_iff : (∃ e, failing = .error e) ↔ loaded.failures ≠ []
  /-- the fault is the one that a file gave -/
  fault_of : ∀ e, failing = .error e → ∃ f, (f, e) ∈ failed compile found
  answer_eq : loaded.failures = [] → failing = .ok loaded

/-- What two loads of the same files say, one of which lists failures and one fails fast. -/
structure Agree (directory : String) (permits : Int) (files : Files)
    (compile : SpecificationFile → Reported Compiled) (integrations : List Integration)
    (found : List SpecificationFile) (loaded : Loaded) : Prop where
  listing_eq : (loadBy ⟨directory, permits, false⟩ files compile integrations).outcome = .ok loaded
  isolates : Isolates compile found loaded
  failsFast : FailsFast compile found loaded
    (loadBy ⟨directory, permits, true⟩ files compile integrations).outcome
  /-- a load goes through its files in order, so it ends with the fault of the first that fails -/
  first_fault : ∀ e,
    (loadBy ⟨directory, permits, true⟩ files compile integrations).outcome = .error e →
      ((failed compile found).map (·.2)).head? = some e
  /-- compiling one file after the other gives both answers -/
  one_by_one : ∀ failFast,
    answer failFast found (found.map compile) (oneByOne found.length) ((found.map compile).map .done)
      = some (loadBy ⟨directory, permits, failFast⟩ files compile integrations).outcome
  /-- after any events, a fault is one that a file gave … -/
  fault_of : ∀ es s, Run permits.toNat (found.map compile) es s → ∀ e,
    answer true found (found.map compile) es s = some (.error e) →
      ∃ f, (f, e) ∈ failed compile found
  /-- … and with one permit it is the one of the first file that fails -/
  fault_in_turn : permits = 1 → ∀ es s, Run permits.toNat (found.map compile) es s → InTurn es →
    ∀ e, answer true found (found.map compile) es s = some (.error e) →
      ((failed compile found).map (·.2)).head? = some e
  /-- in the end both loads have these answers, whatever the order of events was -/
  finished : ∀ es s, Run permits.toNat (found.map compile) es s → Finished s →
    answer false found (found.map compile) es s = some (.ok loaded)
      ∧ ∃ failing, answer true found (found.map compile) es s = some failing
          ∧ FailsFast compile found loaded failing

section Agreement

variable {compile : SpecificationFile → Reported Compiled} {found : List SpecificationFile}

/-- The answer of a load that lists failures. -/
def listed (compile : SpecificationFile → Reported Compiled) (found : List SpecificationFile) :
    Loaded :=
  assembled ((passed compile found).map (·.2)) ((failed compile found).map failureOf)

theorem isolates_listed (compile : SpecificationFile → Reported Compiled)
    (found : List SpecificationFile) : Isolates compile found (listed compile found) where
  failures_eq := rfl
  split := passed_append_failed_perm compile found
  exclusive := fun f => not_mem_failed_of_mem_passed
  alone := rfl
  tools_from := by
    intro t mem
    obtain ⟨d, hd, ht⟩ := mem_documents_of_mem_tools mem
    obtain ⟨⟨f, d'⟩, hf, rfl⟩ := List.mem_map.mp hd
    exact ⟨f, d', hf, ht⟩
  requests_from := by
    intro e mem
    obtain ⟨d, hd, he⟩ := mem_documents_of_mem_requests mem
    obtain ⟨⟨f, d'⟩, hf, rfl⟩ := List.mem_map.mp hd
    exact ⟨f, d', hf, he⟩

/-- A load fails fast if it gives a fault of some file when there is one, and else what the load
that lists failures gives. -/
theorem failsFast_of_cases {failing : Except Fault Loaded}
    (some_fail : failed compile found ≠ [] → ∃ e, failing = .error e)
    (fault_of : ∀ e, failing = .error e → ∃ f, (f, e) ∈ failed compile found)
    (none_fail : failed compile found = [] →
      failing = .ok (assembled ((passed compile found).map (·.2)) [])) :
    FailsFast compile found (listed compile found) failing := by
  have listed_nil : (listed compile found).failures = [] ↔ failed compile found = [] :=
    List.map_eq_nil_iff
  constructor
  case raises_iff =>
    rw [Ne, listed_nil]
    constructor
    · rintro ⟨e, fails⟩ none_failed
      obtain ⟨f, mem⟩ := fault_of e fails
      rw [none_failed] at mem
      exact absurd mem (by simp)
    · exact some_fail
  case fault_of => exact fault_of
  case answer_eq =>
    intro nothing
    have none_failed := listed_nil.mp nothing
    rw [none_fail none_failed, listed, none_failed]
    rfl

/-- If some file fails, a finished run has a first fault. -/
theorem exists_firstFinished {permits : Nat} {es : List Event}
    {s : List (Stage (Reported Compiled))} (run : Run permits (found.map compile) es s)
    (finished : Finished s) (some_fail : failed compile found ≠ []) :
    ∃ e, firstFinished (found.map compile) faultOf? es = some e := by
  refine Option.ne_none_iff_exists'.mp ?_
  rw [Ne, firstFinished_eq_none_iff run finished]
  exact some_fail

theorem failsFast_of_finished {permits : Nat} {es : List Event}
    {s : List (Stage (Reported Compiled))} (run : Run permits (found.map compile) es s)
    (finished : Finished s) :
    ∃ failing, answer true found (found.map compile) es s = some failing
      ∧ FailsFast compile found (listed compile found) failing := by
  by_cases none_fail : failed compile found = []
  · refine ⟨_, answer_failing_of_finished run finished none_fail, failsFast_of_cases ?_ ?_ ?_⟩
    · exact fun some_fail => absurd none_fail some_fail
    · intro e h
      exact absurd h (by simp)
    · exact fun _ => rfl
  · -- some file fails, so one of them failed first
    obtain ⟨e, first⟩ := exists_firstFinished run finished none_fail
    refine ⟨.error e, answer_failing_eq_error_iff.mpr first, failsFast_of_cases ?_ ?_ ?_⟩
    · exact fun _ => ⟨e, rfl⟩
    · intro e' h
      injection h with h
      subst h
      exact exists_failed_of_firstFinished first
    · exact fun none_failed => absurd none_failed none_fail

theorem failsFast_ofFilesBy {settings : LoaderSettings} (fast : settings.failFast = true)
    (positive : 0 ≤ settings.concurrency) :
    FailsFast compile found (listed compile found) (ofFilesBy settings compile found).outcome := by
  rw [outcome_ofFilesBy_failing fast positive]
  cases all : failed compile found with
  | nil =>
      refine failsFast_of_cases ?_ ?_ ?_
      · exact fun some_fail => absurd all some_fail
      · intro e h
        exact absurd h (by simp)
      · exact fun _ => rfl
  | cons first rest =>
      refine failsFast_of_cases ?_ ?_ ?_
      · exact fun _ => ⟨first.2, rfl⟩
      · intro e h
        injection h with h
        subst h
        rw [all]
        exact ⟨first.1, List.mem_cons_self⟩
      · intro none_failed
        rw [all] at none_failed
        exact absurd none_failed (by simp)

/-- What a load that fails fast answers when its files are compiled one after the other. -/
theorem answer_failing_oneByOne {settings : LoaderSettings} (fast : settings.failFast = true)
    (positive : 0 ≤ settings.concurrency) :
    answer true found (found.map compile) (oneByOne found.length) ((found.map compile).map .done)
      = some (ofFilesBy settings compile found).outcome := by
  have run := run_oneByOne_length Nat.one_pos (found.map compile)
  rw [List.length_map] at run
  have done := finished_map_done (found.map compile)
  rw [outcome_ofFilesBy_failing fast positive]
  by_cases none_fail : failed compile found = []
  · rw [answer_failing_of_finished run done none_fail, none_fail]
    rfl
  · obtain ⟨e, first⟩ := exists_firstFinished run done none_fail
    -- one after the other, the first fault in time is the first in the list
    have in_list := firstFinished_in_turn run (inTurn_oneByOne found.length) first
    rw [findSome?_faultOf?] at in_list
    rw [answer_failing_eq_error_iff.mpr first, in_list]

end Agreement

/-- **LISTING FAILURES AND FAILING FAST AGREE.**  With at least one permit, and any way to compile
files: integrations that can all be asked always give a load that lists failures; both loads of a
missing folder are empty; and over the files that discovery found the two loads agree. -/
theorem listing_agrees_with_failing (directory : String) {permits : Int} (files : Files)
    (compile : SpecificationFile → Reported Compiled) (integrations : List Integration)
    (permit : 1 ≤ permits) :
    (∀ settings library, load settings library files integrations
        = loadBy settings files (compileFile library files) integrations)
      ∧ ((∀ i ∈ integrations, ¬ i.Unasked) →
          ∃ loaded,
            (loadBy ⟨directory, permits, false⟩ files compile integrations).outcome = .ok loaded)
      ∧ (∀ folder,
          (SpecificationFile.discover files directory integrations).outcome
              = .error (.missingDirectory folder) →
          ∀ failFast,
            (loadBy ⟨directory, permits, failFast⟩ files compile integrations).outcome = .ok empty)
      ∧ ∀ found, (SpecificationFile.discover files directory integrations).outcome = .ok found →
          ∃ loaded, Agree directory permits files compile integrations found loaded := by
  have positive : 0 ≤ permits := by omega
  have listing : ∀ found,
      (SpecificationFile.discover files directory integrations).outcome = .ok found →
      (loadBy ⟨directory, permits, false⟩ files compile integrations).outcome
        = .ok (listed compile found) := by
    intro found h
    rw [loadBy_of_found ⟨directory, permits, false⟩ h, outcome_ofFilesBy_listing rfl positive]
    rfl
  refine ⟨fun settings library => load_eq_loadBy settings library files integrations, ?_,
    fun folder missing failFast => loadBy_of_missing ⟨directory, permits, failFast⟩ missing,
    fun found h => ?_⟩
  · intro asked
    rcases discover_of_asked files directory asked with ⟨found, h⟩ | ⟨folder, missing⟩
    · exact ⟨listed compile found, listing found h⟩
    · exact ⟨empty, loadBy_of_missing ⟨directory, permits, false⟩ missing⟩
  · refine ⟨listed compile found, ?_⟩
    constructor
    case listing_eq => exact listing found h
    case isolates => exact isolates_listed compile found
    case failsFast =>
      rw [loadBy_of_found ⟨directory, permits, true⟩ h]
      exact failsFast_ofFilesBy rfl positive
    case first_fault =>
      intro e raised
      rw [loadBy_of_found ⟨directory, permits, true⟩ h, outcome_ofFilesBy_failing rfl positive]
        at raised
      split at raised
      next first found_first =>
        injection raised with raised
        rw [found_first, raised]
      next => exact absurd raised (by simp)
    case one_by_one =>
      intro failFast
      rw [loadBy_of_found ⟨directory, permits, failFast⟩ h]
      cases failFast with
      | true => exact answer_failing_oneByOne rfl positive
      | false =>
          -- one file after the other is a run as well, with a single permit
          have run := run_oneByOne_length Nat.one_pos (found.map compile)
          rw [List.length_map] at run
          rw [answer_listing_of_finished run (finished_map_done _),
            outcome_ofFilesBy_listing rfl positive]
    case fault_of =>
      intro es s run e raised
      exact exists_failed_of_firstFinished (answer_failing_eq_error_iff.mp raised)
    case fault_in_turn =>
      rintro rfl es s run turn e raised
      rw [← findSome?_faultOf?]
      exact firstFinished_in_turn run turn (answer_failing_eq_error_iff.mp raised)
    case finished =>
      intro es s run finished
      exact ⟨answer_listing_of_finished run finished, failsFast_of_finished run finished⟩

/-! ## §5. Two files of which one is broken. -/

/-- A document with one operation, and a text that is no document. -/
def mixedFiles : Files :=
  ⟨[(["openapi"], .folder), (["openapi", "a.json"], .file pingOctets),
    (["openapi", "b.json"], .file "oops".toUTF8.toList)], []⟩

def mixedIntegrations : List Integration :=
  [.standard (.str "a") (.str "1"), .standard (.str "b") (.str "2")]

def mixedFound : List SpecificationFile :=
  [⟨"openapi", "a.json", .standard (.str "a") (.str "1")⟩,
    ⟨"openapi", "b.json", .standard (.str "b") (.str "2")⟩]

theorem list_mixedFiles :
    mixedFiles.list "openapi"
      = [("a.json", .file pingOctets), ("b.json", .file "oops".toUTF8.toList)] :=
  List.mergeSort_of_pairwise (by simp; decide)

theorem candidates_mixedFiles :
    SpecificationFile.candidates mixedFiles "openapi" = ["a.json", "b.json"] := by
  rw [SpecificationFile.candidates, list_mixedFiles]
  decide +kernel

theorem discover_mixedFiles :
    (SpecificationFile.discover mixedFiles "openapi" mixedIntegrations).outcome
      = .ok mixedFound := by
  have path : Files.normalPath "openapi" = "openapi" := by decide +kernel
  have folder : mixedFiles.isFolder "openapi" = true := by decide +kernel
  simp only [SpecificationFile.discover, path, folder, if_true, candidates_mixedFiles]
  rfl

/-- The broken file is listed in one load and ends the other; the tools of the first are those of
the document alone. -/
theorem listing_agrees_with_failing_mixed :
    (1 : Int) ≤ 2
      ∧ ∃ loaded,
          Agree "openapi" 2 mixedFiles (compileFile .standard mixedFiles) mixedIntegrations mixedFound
              loaded
            ∧ loaded.tools.map (·.name) = ["A_PING"]
            ∧ loaded.failures.map (·.file) = ["b.json"] := by
  obtain ⟨_, _, _, agree⟩ := listing_agrees_with_failing "openapi" mixedFiles
    (compileFile .standard mixedFiles) mixedIntegrations (by decide : (1 : Int) ≤ 2)
  obtain ⟨loaded, agree⟩ := agree mixedFound discover_mixedFiles
  have names : ((loadBy ⟨"openapi", 2, false⟩ mixedFiles (compileFile .standard mixedFiles)
      mixedIntegrations).outcome.map
        fun loaded => (loaded.tools.map (·.name), loaded.failures.map (·.file))).toOption
      = some (["A_PING"], ["b.json"]) := by
    rw [loadBy_of_found ⟨"openapi", 2, false⟩ discover_mixedFiles]
    decide +kernel
  rw [agree.listing_eq, map_ok, toOption_ok, Option.some.injEq, Prod.mk.injEq] at names
  exact ⟨by decide, loaded, agree, names.1, names.2⟩

/-- **A CUSTOM NAME THAT IS NO TEXT ENDS EVERY LOAD**, also one that lists failures: the integration
cannot be asked for its files, so nothing is discovered. -/
theorem not_load_of_numbered_name :
    ¬ ∀ (directory : String) (permits : Int) (files : Files)
        (compile : SpecificationFile → Reported Compiled) (integrations : List Integration),
        1 ≤ permits → ∃ loaded,
          (loadBy ⟨directory, permits, false⟩ files compile integrations).outcome = .ok loaded := by
  intro claimed
  obtain ⟨loaded, done⟩ := claimed "openapi" 2 mixedFiles (compileFile .standard mixedFiles)
    [.custom (.int 123) (.str "1")] (by decide)
  have path : Files.normalPath "openapi" = "openapi" := by decide +kernel
  have folder : mixedFiles.isFolder "openapi" = true := by decide +kernel
  simp only [loadBy, SpecificationFile.discover, path, folder, if_true, candidates_mixedFiles] at done
  have failed : (SpecificationFile.owned [.custom (.int 123) (.str "1")] "openapi"
      ["a.json", "b.json"]).outcome = .error (.noFeature "int" "replace") := rfl
  simp [failed] at done

end Loaded

end ApiTools
