/-
  ApiTools.Proofs.Specification.Plain
  ───────────────────────────────────
  **PLAIN DOCUMENTS GIVE DESCRIPTORS THAT CAN BE WRITTEN.**

  The way of a value is followed from the documents that a load compiles, with
  what their references lead to in their places, to the descriptors that are
  printed.  If the documents are plain then so are the descriptors, and the
  list of them is printed unless it nests too deeply or has a whole number of
  too many digits (`Loaded.written_of_load`).

  Documents need not be plain: a default in a YAML text that looks like a day
  is one, it reaches the descriptor of the tool as it is, and the descriptors
  cannot be printed (`Loaded.not_written_of_day`).
-/
import ApiTools.CommandLine.Run
import ApiTools.Standard
import ApiTools.Proofs.Integration.Routing
import ApiTools.Proofs.Specification.Isolation
import ApiTools.Proofs.Tool.Plain

namespace ApiTools

open Value (Plain PlainKey plain_list_iff plain_mapping_iff)

/-! ## §1. Loads. -/

/-- The id of an integration that was read is null or a text. -/
theorem Integration.plain_id_of_read {i : Integration} (h : i.Read) : Plain i.id := by
  obtain ⟨data, h⟩ := h
  unfold ofValue at h
  obtain ⟨kind, _, h⟩ := bind_eq_ok.mp h
  split at h
  next => exact absurd h (by simp)
  next =>
    split at h
    next =>
      obtain ⟨name, _, h⟩ := bind_eq_ok.mp h
      split at h
      next =>
        obtain ⟨_, _, h⟩ := bind_eq_ok.mp h
        exact absurd h (by simp)
      next =>
        obtain ⟨id, _, h⟩ := bind_eq_ok.mp h
        injection h with h
        rw [← h]
        exact .str _
    next =>
      obtain ⟨id, _, h⟩ := bind_eq_ok.mp h
      injection h with h
      rw [← h]
      show Plain (if id.isNull then .null else .str id.text)
      split
      next => exact .null
      next => exact .str _

namespace Loaded

open Specification

variable {settings : LoaderSettings} {library : Library} {files : Files}
  {integrations : List Integration} {found : List SpecificationFile} {loaded : Loaded}

/-- Every document that is compiled is plain. -/
def CompilesPlain (library : Library) (files : Files) (found : List SpecificationFile) : Prop :=
  ∀ f ∈ found, ∀ doc, resolvedFile library files f = .ok doc → Plain doc

/-- Tools of plain documents are plain, if the ids of the integrations are. -/
theorem plain_toValue_of_ofFiles (h : CompilesPlain library files found)
    (ids : ∀ f ∈ found, Plain f.integration.id)
    (done : (ofFiles settings library files found).outcome = .ok loaded) :
    ∀ t ∈ loaded.tools, Plain t.toValue := by
  intro t mem
  rw [(ofFiles_eq_ok library files done).1] at mem
  obtain ⟨d, hd, mem⟩ := mem_documents_of_mem_tools mem
  obtain ⟨f, hf, compiled⟩ := List.mem_filterMap.mp hd
  cases outcome : (compileFile library files f).outcome with
  | error e =>
      rw [outcome] at compiled
      exact absurd compiled (by simp)
  | ok d' =>
      rw [outcome, toOption_ok, Option.some.injEq] at compiled
      subst compiled
      obtain ⟨doc, resolved, document, _⟩ := exists_document_of_compileFile outcome
      exact Compile.plain_toValue_of_document (h f hf doc resolved) (ids f hf) document t mem

/-- Plain values can be printed, up to numbers that are too long and levels that are too many. -/
theorem exists_printed_of_plain {nesting : Nat} {v : Value} (h : Plain v)
    (sayable : v.isSayable = true) (fits : v.depth ≤ nesting) :
    ∃ text, CommandLine.printed nesting v = .ok text := by
  have lenient : (Json.pretty nesting).finite = false := rfl
  obtain ⟨s, written⟩ := Json.exists_write_of_plain lenient h sayable fits
  refine ⟨s ++ "\n", ?_⟩
  unfold CommandLine.printed
  rw [written]

/-! ## §2. What is written. -/

section Written

variable {settings : LoaderSettings} {library : Library} {files : Files}
  {integrations : List Integration} {found : List SpecificationFile} {loaded : Loaded}

/-- **PLAIN DOCUMENTS GIVE DESCRIPTORS THAT CAN BE WRITTEN**, for integrations that were read: every
descriptor of the load is plain, and the list of them is printed if its whole numbers can be said
and its levels may be nested. -/
theorem written_of_load (read : ∀ i ∈ integrations, i.Read)
    (discovered : (SpecificationFile.discover files settings.directory integrations).outcome
      = .ok found)
    (plain : CompilesPlain library files found)
    (done : (load settings library files integrations).outcome = .ok loaded) :
    (∀ t ∈ loaded.tools, Plain t.toValue)
      ∧ ((Value.list (loaded.tools.map Tool.toValue)).isSayable = true →
        (Value.list (loaded.tools.map Tool.toValue)).depth ≤ library.printing →
        ∃ text, CommandLine.printed library.printing (.list (loaded.tools.map Tool.toValue))
          = .ok text) := by
  have ids : ∀ f ∈ found, Plain f.integration.id := by
    intro f hf
    exact Integration.plain_id_of_read
      (read _ (SpecificationFile.integration_of_discover discovered hf).1)
  rw [load_of_found discovered] at done
  have all := plain_toValue_of_ofFiles plain ids done
  refine ⟨all, exists_printed_of_plain (plain_list_iff.mpr ?_)⟩
  intro v mem
  obtain ⟨t, ht, rfl⟩ := List.mem_map.mp mem
  exact all t ht

end Written

theorem compilesPlain_colliding : CompilesPlain .standard collidingFiles
    [⟨"openapi", "a.b.json", .standard (.str "a") (.str "1")⟩,
      ⟨"openapi", "a_b.json", .standard (.str "a_b") (.str "2")⟩] := by
  have plain : ∀ {f : SpecificationFile} {doc : Value},
      ((resolvedFile .standard collidingFiles f).map Value.isPlain).toOption = some true →
      resolvedFile .standard collidingFiles f = .ok doc → Plain doc := by
    intro f doc computed resolved
    rw [resolved, map_ok, toOption_ok, Option.some.injEq] at computed
    exact Value.plain_of_isPlain computed
  intro f mem doc
  rcases List.mem_cons.mp mem with rfl | mem
  · exact plain (by decide +kernel)
  · rw [List.mem_singleton.mp mem]
    exact plain (by decide +kernel)

/-- Two JSON files give one descriptor, which is printed. -/
theorem written_of_load_colliding :
    (∀ i ∈ collidingIntegrations, i.Read)
      ∧ ∃ found loaded,
        (SpecificationFile.discover collidingFiles collidingSettings.directory
            collidingIntegrations).outcome = .ok found
        ∧ CompilesPlain .standard collidingFiles found
        ∧ (load collidingSettings .standard collidingFiles collidingIntegrations).outcome = .ok loaded
        ∧ loaded.tools.map (·.name) = ["A_B_PING"]
        ∧ (∀ t ∈ loaded.tools, Plain t.toValue)
        ∧ ∃ text, CommandLine.printed Library.standard.printing
          (.list (loaded.tools.map Tool.toValue)) = .ok text := by
  have read : ∀ i ∈ collidingIntegrations, i.Read := by
    simp only [collidingIntegrations, List.forall_mem_cons]
    refine ⟨⟨.object [("type", .str "a"), ("id", .str "1")], ?_⟩,
      ⟨.object [("type", .str "a_b"), ("id", .str "2")], ?_⟩,
      fun i mem => absurd mem List.not_mem_nil⟩
    · rfl
    · rfl
  have answer : ((load collidingSettings .standard collidingFiles collidingIntegrations).outcome.map
      fun loaded => (loaded.tools.map (·.name),
        (Value.list (loaded.tools.map Tool.toValue)).isSayable,
        decide ((Value.list (loaded.tools.map Tool.toValue)).depth
          ≤ Library.standard.printing))).toOption = some (["A_B_PING"], true, true) := by
    rw [load_of_found discover_collidingFiles]
    decide +kernel
  generalize hl : (load collidingSettings .standard collidingFiles collidingIntegrations).outcome
    = outcome at answer
  cases outcome with
  | error e => exact absurd answer (by simp)
  | ok loaded =>
      rw [map_ok, toOption_ok, Option.some.injEq, Prod.mk.injEq, Prod.mk.injEq,
        decide_eq_true_iff] at answer
      obtain ⟨plain, printed⟩ := written_of_load read discover_collidingFiles
        compilesPlain_colliding hl
      exact ⟨read, _, loaded, discover_collidingFiles, compilesPlain_colliding, rfl, answer.1,
        plain, printed answer.2.1 answer.2.2⟩

/-- A specification in YAML whose default is a day. -/
def dayText : String :=
  "paths:\n  /x:\n    get:\n      parameters:\n      - name: d\n"
    ++ "        schema: \x7bdefault: 2020-01-01\x7d\n"

def dayFiles : Files :=
  ⟨[(["openapi"], .folder), (["openapi", "a.yml"], .file dayText.toUTF8.toList)], []⟩

def dayIntegrations : List Integration := [.standard (.str "a") (.str "1")]

def dayFound : List SpecificationFile := [⟨"openapi", "a.yml", .standard (.str "a") (.str "1")⟩]

theorem discover_dayFiles :
    (SpecificationFile.discover dayFiles collidingSettings.directory dayIntegrations).outcome
      = .ok dayFound := by
  have path : Files.normalPath collidingSettings.directory = "openapi" := by decide +kernel
  have folder : dayFiles.isFolder "openapi" = true := by decide +kernel
  have listed : dayFiles.list "openapi" = [("a.yml", .file dayText.toUTF8.toList)] :=
    List.mergeSort_singleton _
  have names : SpecificationFile.candidates dayFiles "openapi" = ["a.yml"] := by
    rw [SpecificationFile.candidates, listed]
    decide +kernel
  simp only [SpecificationFile.discover, path, folder, if_true, names]
  rfl

/-- Why the descriptors of a load cannot be printed, if they cannot. -/
def unprinted (loaded : Loaded) : Option Json.WriteProblem :=
  match CommandLine.printed Library.standard.printing (.list (loaded.tools.map Tool.toValue)) with
  | .error (.misuse (.unwritable p)) => some p
  | _ => none

/-- **A DAY IN A SPECIFICATION CANNOT BE WRITTEN.**  The load has an answer, but a descriptor in it
is not plain, and printing fails. -/
theorem not_written_of_day :
    ∃ loaded,
      (load collidingSettings .standard dayFiles dayIntegrations).outcome = .ok loaded
        ∧ (¬ ∀ t ∈ loaded.tools, Plain t.toValue)
        ∧ CommandLine.printed Library.standard.printing (.list (loaded.tools.map Tool.toValue))
          = .error (.misuse (.unwritable (.unwritable "date"))) := by
  have fails : ((load collidingSettings .standard dayFiles dayIntegrations).outcome.map
      fun loaded => (unprinted loaded,
        (Value.list (loaded.tools.map Tool.toValue)).isSayable,
        decide ((Value.list (loaded.tools.map Tool.toValue)).depth
          ≤ Library.standard.printing))).toOption
      = some (some (.unwritable "date"), true, true) := by
    rw [load_of_found discover_dayFiles]
    decide +kernel
  generalize hl : (load collidingSettings .standard dayFiles dayIntegrations).outcome = outcome at fails
  cases outcome with
  | error e => exact absurd fails (by simp)
  | ok loaded =>
      rw [map_ok, toOption_ok, Option.some.injEq, Prod.mk.injEq, Prod.mk.injEq,
        decide_eq_true_iff] at fails
      obtain ⟨failed, sayable, fits⟩ := fails
      have printed : CommandLine.printed Library.standard.printing
          (.list (loaded.tools.map Tool.toValue))
          = .error (.misuse (.unwritable (.unwritable "date"))) := by
        unfold unprinted at failed
        split at failed
        next p failure =>
          injection failed with failed
          rw [failure, failed]
        next => exact absurd failed (by simp)
      refine ⟨loaded, rfl, ?_, printed⟩
      intro plain
      have listed : Plain (.list (loaded.tools.map Tool.toValue)) := plain_list_iff.mpr fun v mem => by
        obtain ⟨t, ht, rfl⟩ := List.mem_map.mp mem
        exact plain t ht
      obtain ⟨text, written⟩ := exists_printed_of_plain listed sayable fits
      rw [printed] at written
      exact absurd written (by simp)

end Loaded

end ApiTools
