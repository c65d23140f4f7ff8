/-
  ApiTools.Proofs.Specification.Accounting
  ────────────────────────────────────────
  **NO OPERATION IS LOST SILENTLY.**

  A registry may hold fewer requests than the documents of a load have
  operations.  Every operation that is missing was reported, as a replacement
  inside its document or as a collision between documents, whatever the
  pattern in which names come again: the reports and the registry together are
  as many as the operations (`Loaded.accounted_of_load`).
-/
import ApiTools.Proofs.Specification.Assembly
import ApiTools.Proofs.Tool.Replacements

namespace ApiTools

/-! ## §1. Discovery. -/

/-- Discovery reports the files that it skips. -/
theorem SpecificationFile.notices_owned {integrations : List Integration} {folder : String}
    {names : List String} {x : Notice} (h : x ∈ (owned integrations folder names).notices) :
    ∃ file, x = .fileSkipped file := by
  induction names with
  | nil => exact absurd h List.not_mem_nil
  | cons name names ih =>
      unfold owned at h
      cases owner : Integration.findFor name integrations with
      | error e =>
          rw [owner] at h
          exact absurd h List.not_mem_nil
      | ok owner? =>
          rw [owner, Reported.ofExcept_ok_bind] at h
          cases owner? with
          | none =>
              rcases List.mem_cons.mp h with skipped | later
              · exact ⟨name, skipped⟩
              · exact ih later
          | some integration =>
              rw [Reported.notices_bind] at h
              rcases List.mem_append.mp h with later | nothing
              · exact ih later
              · split at nothing <;> exact absurd nothing List.not_mem_nil

theorem SpecificationFile.notices_discover {files : Files} {folder : String}
    {integrations : List Integration} {x : Notice}
    (h : x ∈ (discover files folder integrations).notices) : ∃ file, x = .fileSkipped file := by
  unfold discover at h
  dsimp only at h
  split at h
  next => exact notices_owned h
  next => exact absurd h List.not_mem_nil

namespace Loaded

/-! ## §2. Files. -/

section FilesThatCompile

variable (library : Library) (files : Files)

/-- The operations of a file; where there is no document there are none. -/
def operationsOfFile (f : SpecificationFile) : List Operation :=
  ((resolvedFile library files f).toOption.map Operation.ofDocument).getD []

/-- The operations of files, file by file. -/
def operationsOfFiles (found : List SpecificationFile) : List Operation :=
  found.flatMap (operationsOfFile library files)

variable {library files}

/-- **Operations of a file are stored or reported.** -/
theorem compileFile_conserves {f : SpecificationFile} {d : Compiled}
    (h : (compileFile library files f).outcome = .ok d) :
    (compileFile library files f).notices.countP Notice.isReplacement + d.requests.length
        = (operationsOfFile library files f).length
      ∧ (compileFile library files f).notices.countP Notice.isCollision = 0 := by
  obtain ⟨doc, resolved, compiled, notices⟩ := exists_document_of_compileFile h
  have operations : operationsOfFile library files f = Operation.ofDocument doc := by
    unfold operationsOfFile
    rw [resolved]
    rfl
  rw [notices, operations]
  exact ⟨Compile.document_conserves compiled, Compile.countP_isCollision_document compiled⟩

/-- The files compile to the documents, one by one. -/
def CompileTo (library : Library) (files : Files) (found : List SpecificationFile)
    (ds : List Compiled) : Prop :=
  List.Forall₂ (fun f d => (compileFile library files f).outcome = .ok d) found ds

theorem exists_compileTo {found : List SpecificationFile}
    (h : ∀ f ∈ found, ∃ d, (compileFile library files f).outcome = .ok d) :
    ∃ ds, CompileTo library files found ds := by
  induction found with
  | nil => exact ⟨[], List.Forall₂.nil⟩
  | cons f found ih =>
      obtain ⟨d, first⟩ := h f List.mem_cons_self
      obtain ⟨ds, others⟩ := ih fun g mem => h g (List.mem_cons_of_mem f mem)
      exact ⟨d :: ds, List.Forall₂.cons first others⟩

/-- What compiling files reports. -/
def noticesOf (library : Library) (files : Files) (found : List SpecificationFile) : List Notice :=
  found.flatMap fun f => (compileFile library files f).notices

variable {found : List SpecificationFile} {ds : List Compiled}

/-- Operations of files are stored in the documents or reported. -/
theorem compileTo_conserves (h : CompileTo library files found ds) :
    (noticesOf library files found).countP Notice.isReplacement
          + (ds.map (·.requests)).flatten.length
        = (operationsOfFiles library files found).length
      ∧ (noticesOf library files found).countP Notice.isCollision = 0 := by
  unfold noticesOf operationsOfFiles
  induction h with
  | nil => exact ⟨rfl, rfl⟩
  | @cons f d found ds first _ ih =>
      obtain ⟨stored, no_collision⟩ := compileFile_conserves first
      rw [List.flatMap_cons, List.flatMap_cons, List.countP_append, List.countP_append,
        List.map_cons, List.flatten_cons, List.length_append, List.length_append]
      omega

/-! ## §3. Loads. -/

theorem compileAll_of_compileTo (ahead : Nat) (h : CompileTo library files found ds) :
    compileAll ahead (found.map (compileFile library files))
      = ⟨noticesOf library files found, .ok ds⟩ := by
  unfold noticesOf
  induction h with
  | nil => rfl
  | @cons f d found ds first _ ih =>
      rw [List.map_cons, compileAll, first, ih]
      rfl

theorem documentsOf_of_compileTo (h : CompileTo library files found ds) :
    documentsOf (found.map fun f => (f, compileFile library files f)) = ds := by
  unfold documentsOf
  induction h with
  | nil => rfl
  | @cons f d found ds first _ ih =>
      rw [List.map_cons, List.filterMap_cons, first, ih]

theorem failuresOf_of_compileTo (h : CompileTo library files found ds) :
    failuresOf (found.map fun f => (f, compileFile library files f)) = [] := by
  unfold failuresOf
  induction h with
  | nil => rfl
  | @cons f d found ds first _ ih =>
      rw [List.map_cons, List.filterMap_cons, first, ih]

/-- Where all files compile, both kinds of loads put the documents together. -/
theorem ofFiles_of_compileTo {settings : LoaderSettings} (permit : 1 ≤ settings.concurrency)
    (h : CompileTo library files found ds) :
    ofFiles settings library files found
      = ⟨noticesOf library files found ++ (assemble ds []).notices,
          (assemble ds []).outcome⟩ := by
  unfold ofFiles
  rw [if_neg (by omega)]
  dsimp only
  cases settings.failFast with
  | true =>
      have all := compileAll_of_compileTo settings.concurrency.toNat h
      rw [if_pos rfl, List.map_map]
      show compileAll _ (found.map (compileFile library files)) >>= _ = _
      rw [all, Reported.ok_bind]
  | false =>
      rw [if_neg Bool.false_ne_true]
      unfold collect
      rw [documentsOf_of_compileTo h, failuresOf_of_compileTo h, List.flatMap_map]
      dsimp only
      rw [List.map_nil, List.append_nil, Reported.ok_bind]
      rfl

end FilesThatCompile

/-- The operations of a load against what it reports and what its registry holds. -/
structure Accounted (operations : List Operation) (notices : List Notice) (loaded : Loaded) :
    Prop where
  /-- an operation is stored, or its loss is reported -/
  counts : notices.countP Notice.isReplacement + notices.countP Notice.isCollision
      + loaded.registry.size
    = operations.length
  /-- there is one entry for each operation exactly if no loss is reported -/
  complete_iff : loaded.registry.size = operations.length
    ↔ ∀ x ∈ notices, x.isReplacement = false ∧ x.isCollision = false

theorem accounted_of_counts {operations : List Operation} {notices : List Notice} {loaded : Loaded}
    (counts : notices.countP Notice.isReplacement + notices.countP Notice.isCollision
        + loaded.registry.size
      = operations.length) : Accounted operations notices loaded := by
  refine ⟨counts, ?_⟩
  have none_reported : (∀ x ∈ notices, x.isReplacement = false ∧ x.isCollision = false)
      ↔ notices.countP Notice.isReplacement = 0 ∧ notices.countP Notice.isCollision = 0 := by
    rw [List.countP_eq_zero, List.countP_eq_zero]
    simp only [Bool.not_eq_true, forall_and]
  rw [none_reported]
  omega

/-- **NO OPERATION IS LOST SILENTLY**, in any load whose files all compile. -/
theorem accounted_of_load {settings : LoaderSettings} {files : Files}
    {integrations : List Integration} {found : List SpecificationFile} (library : Library)
    (permit : 1 ≤ settings.concurrency)
    (h : (SpecificationFile.discover files settings.directory integrations).outcome = .ok found)
    (compiles : ∀ f ∈ found, ∃ d, (compileFile library files f).outcome = .ok d) :
    ∃ loaded, (load settings library files integrations).outcome = .ok loaded
      ∧ Accounted (operationsOfFiles library files found)
          (load settings library files integrations).notices loaded := by
  obtain ⟨ds, compiled⟩ := exists_compileTo compiles
  obtain ⟨stored, no_collision⟩ := compileTo_conserves compiled
  have whole : load settings library files integrations
      = ⟨(SpecificationFile.discover files settings.directory integrations).notices
          ++ (noticesOf library files found ++ (assemble ds []).notices),
        (assemble ds []).outcome⟩ := by
    unfold load
    dsimp only
    split
    next missing =>
      rw [h] at missing
      exact absurd missing (by simp)
    next => rw [Reported.bind_of_ok h, ofFiles_of_compileTo permit compiled]
  rw [whole]
  refine ⟨_, rfl, accounted_of_counts ?_⟩
  -- discovery reports no losses, and the merge of the documents no replacements
  have skipped : ∀ p : Notice → Bool, (∀ file, p (.fileSkipped file) = false) →
      (SpecificationFile.discover files settings.directory integrations).notices.countP p = 0 := by
    intro p other
    rw [List.countP_eq_zero]
    intro x mem
    obtain ⟨file, rfl⟩ := SpecificationFile.notices_discover mem
    rw [other]
    exact Bool.false_ne_true
  have merged := Registry.merge_conserves (ds.map (·.requests))
  have no_replacement : (Registry.merge (ds.map (·.requests))).2.countP Notice.isReplacement
      = 0 := by
    rw [List.countP_eq_zero]
    intro x mem
    rw [Registry.not_isReplacement_of_mem_merge mem]
    exact Bool.false_ne_true
  have assembled : ∀ p : Notice → Bool, (∀ t d f, p (.filesLoaded t d f) = false) →
      (assemble ds []).notices.countP p
        = (Registry.merge (ds.map (·.requests))).2.countP p := by
    intro p other
    show List.countP p (_ ++ [Notice.filesLoaded _ _ _]) = _
    rw [List.countP_append, List.countP_singleton, other]
    rfl
  rw [List.countP_append, List.countP_append, List.countP_append, List.countP_append,
    skipped _ fun _ => rfl, skipped _ fun _ => rfl, assembled _ fun _ _ _ => rfl,
    assembled _ fun _ _ _ => rfl]
  show _ + (Registry.merge (ds.map (·.requests))).1.size = _
  omega

/-! ## §4. Three operations under one name. -/

/-- A document with two operations, both summed up as `Ping`. -/
def crowdedOctets : List UInt8 :=
  ("\x7b\"paths\":\x7b\"/x\":\x7b\"get\":\x7b\"summary\":\"Ping\"\x7d,"
    ++ "\"PUT\":\x7b\"summary\":\"Ping\"\x7d\x7d\x7d\x7d").toUTF8.toList

/-- Both names of these files become `A_B` in capitals. -/
def crowdedFiles : Files :=
  ⟨[(["openapi"], .folder), (["openapi", "a.b.json"], .file crowdedOctets),
    (["openapi", "a_b.json"], .file pingOctets)], []⟩

def crowdedFound : List SpecificationFile :=
  [⟨"openapi", "a.b.json", .standard (.str "a") (.str "1")⟩,
    ⟨"openapi", "a_b.json", .standard (.str "a_b") (.str "2")⟩]

theorem list_crowdedFiles :
    crowdedFiles.list "openapi"
      = [("a.b.json", .file crowdedOctets), ("a_b.json", .file pingOctets)] :=
  List.mergeSort_of_pairwise (by simp; decide)

theorem discover_crowdedFiles :
    (SpecificationFile.discover crowdedFiles collidingSettings.directory
        collidingIntegrations).outcome = .ok crowdedFound := by
  have path : Files.normalPath collidingSettings.directory = "openapi" := by decide +kernel
  have folder : crowdedFiles.isFolder "openapi" = true := by decide +kernel
  have names : SpecificationFile.candidates crowdedFiles "openapi"
      = ["a.b.json", "a_b.json"] := by
    rw [SpecificationFile.candidates, list_crowdedFiles]
    decide +kernel
  simp only [SpecificationFile.discover, path, folder, if_true, names]
  rfl

/-- The names of the pairs of each file. -/
theorem pairNames_crowdedFiles :
    (crowdedFound.map fun f => ((pairsOfFile .standard crowdedFiles f).map
        (List.map Compile.pairName)).toOption)
      = [some ["A_B_PING", "A_B_PING"], some ["A_B_PING"]] := by
  decide +kernel

theorem size_of_load_crowdedFiles {loaded : Loaded}
    (h : (load collidingSettings .standard crowdedFiles collidingIntegrations).outcome = .ok loaded) :
    loaded.registry.size = 1 := by
  have names_of : ∀ f, ((pairsOfFile .standard crowdedFiles f).toOption.getD []).map Compile.pairName
      = (((pairsOfFile .standard crowdedFiles f).map (List.map Compile.pairName)).toOption).getD [] := by
    intro f
    cases pairsOfFile .standard crowdedFiles f <;> rfl
  have names : (pairsOfFiles .standard crowdedFiles crowdedFound).map Compile.pairName
      = ["A_B_PING", "A_B_PING", "A_B_PING"] := by
    unfold pairsOfFiles
    rw [List.map_flatMap, List.flatMap_congr fun f _ => names_of f,
      ← List.flatMap_map (fun f => ((pairsOfFile .standard crowdedFiles f).map
      (List.map Compile.pairName)).toOption) (·.getD []), pairNames_crowdedFiles]
    rfl
  have kept : loaded.registry.names = ["A_B_PING"] := by
    unfold Registry.names
    rw [requests_eq_of_load h, pairsOfLoad_of_found discover_crowdedFiles, Table.names_ofList,
      List.map_map]
    show ((pairsOfFiles .standard crowdedFiles crowdedFound).map Compile.pairName).eraseDups = _
    rw [names]
    rfl
  have length := congrArg List.length kept
  unfold Registry.names Table.names at length
  rwa [List.length_map] at length

/-- One operation is replaced inside its document, and the other by the other document. -/
theorem accounted_of_load_crowded :
    1 ≤ collidingSettings.concurrency
      ∧ (SpecificationFile.discover crowdedFiles collidingSettings.directory
          collidingIntegrations).outcome = .ok crowdedFound
      ∧ ∃ loaded,
        (load collidingSettings .standard crowdedFiles collidingIntegrations).outcome = .ok loaded
        ∧ Accounted (operationsOfFiles .standard crowdedFiles crowdedFound)
            (load collidingSettings .standard crowdedFiles collidingIntegrations).notices loaded
        ∧ loaded.registry.size = 1
        ∧ (operationsOfFiles .standard crowdedFiles crowdedFound).length = 3 := by
  have compiles : ∀ f ∈ crowdedFound, ∃ d, (compileFile .standard crowdedFiles f).outcome = .ok d := by
    intro f mem
    have listed : ((pairsOfFile .standard crowdedFiles f).map (List.map Compile.pairName)).toOption
        ∈ [some ["A_B_PING", "A_B_PING"], some ["A_B_PING"]] := by
      rw [← pairNames_crowdedFiles]
      exact List.mem_map_of_mem mem
    rw [outcome_compileFile]
    cases pairs : pairsOfFile .standard crowdedFiles f with
    | ok ps => exact ⟨_, rfl⟩
    | error e =>
        rw [pairs] at listed
        exact absurd listed (by simp)
  obtain ⟨loaded, whole, accounted⟩ := accounted_of_load .standard
    (by decide : 1 ≤ collidingSettings.concurrency) discover_crowdedFiles compiles
  have operations : (operationsOfFiles .standard crowdedFiles crowdedFound).length = 3 := by
    decide +kernel
  exact ⟨by decide, discover_crowdedFiles, loaded, whole, accounted,
    size_of_load_crowdedFiles whole, operations⟩

end Loaded

end ApiTools
