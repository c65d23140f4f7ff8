/-
  ApiTools.Proofs.Specification.Assembly
  ──────────────────────────────────────
  **A LOAD IS ONE LIST OF PAIRS.**

  Of two tools with one name the later stays: inside a document, where the
  tools are a list that is filtered and the requests a table, and across
  documents, where the tools are filtered again and the tables merged.  Here
  the levels fall together.  `Loaded.pairsOfLoad` lists the tools with their
  requests over all files that compile, and what a load gives can be told
  from that list alone:

    • `Loaded.tools_eq_of_load` — the tools of the last pairs,
    • `Loaded.requests_eq_of_load` — every name at its first pair, with the
      request of its last,
    • `Loaded.load_follows_pairs` — so tools and registry have the same names,
      and a tool never meets the request of another operation.
-/
import ApiTools.Proofs.Registry.Merging
import ApiTools.Proofs.Tool.Pairs
import ApiTools.Specification.Load
import ApiTools.Standard

namespace ApiTools

namespace Loaded

/-! ## §1. The documents of files. -/

section Documents

variable (library : Library) (files : Files)

/-- The documents of the files that compile. -/
def documents (found : List SpecificationFile) : List Compiled :=
  found.filterMap fun f => (compileFile library files f).outcome.toOption

theorem documentsOf_eq_documents (found : List SpecificationFile) :
    documentsOf (found.map fun f => (f, compileFile library files f))
      = documents library files found := by
  rw [documentsOf, documents, List.filterMap_map]
  congr 1
  funext f
  dsimp only [Function.comp_apply]
  cases (compileFile library files f).outcome <;> rfl

/-- Compiling files of which none may fail has an answer only if none does. -/
theorem compileAll_eq_ok {ahead : Nat} {cs : List (Reported Compiled)} {ds : List Compiled}
    (h : (compileAll ahead cs).outcome = .ok ds) : cs.map (·.outcome) = ds.map .ok := by
  induction cs generalizing ds with
  | nil =>
      injection h with h
      subst h
      rfl
  | cons c cs ih =>
      simp only [compileAll] at h
      cases hc : c.outcome with
      | error f => simp [hc] at h
      | ok d =>
          simp only [hc] at h
          cases hr : (compileAll ahead cs).outcome with
          | error f => simp [hr] at h
          | ok others =>
              rw [hr, map_ok] at h
              injection h with h
              subst h
              rw [List.map_cons, List.map_cons, hc, ih hr]

theorem filterMap_toOption_of_map_ok {cs : List (Except Fault Compiled)} {ds : List Compiled}
    (h : cs = ds.map .ok) : cs.filterMap (·.toOption) = ds := by
  subst h
  induction ds with
  | nil => rfl
  | cons d ds ih => simpa using ih

/-- Whether a failing file ends the load or is listed, a load that has an answer puts together the
documents of the files that compile. -/
theorem ofFiles_eq_ok {settings : LoaderSettings} {found : List SpecificationFile} {loaded : Loaded}
    (h : (ofFiles settings library files found).outcome = .ok loaded) :
    loaded.tools = toolsOf (documents library files found)
      ∧ loaded.registry
          = (Registry.merge ((documents library files found).map (·.requests))).1 := by
  unfold ofFiles at h
  split at h
  next => simp at h
  next =>
    split at h
    next =>
      -- a failing file ends the load
      rw [Reported.outcome_bind, bind_eq_ok] at h
      obtain ⟨ds, hds, h⟩ := h
      have all := filterMap_toOption_of_map_ok (compileAll_eq_ok hds)
      rw [List.filterMap_map, List.filterMap_map, List.filterMap_map] at all
      have same : documents library files found = ds := all
      injection h with h
      subst h
      rw [same]
      exact ⟨rfl, rfl⟩
    next =>
      -- failing files are listed
      rw [collect, Reported.outcome_bind, bind_eq_ok] at h
      obtain ⟨_, _, h⟩ := h
      rw [documentsOf_eq_documents] at h
      injection h with h
      subst h
      exact ⟨rfl, rfl⟩

/-! ## §2. The pairs of files. -/

/-- The tools and requests of a file's operations. -/
def pairsOfFile (f : SpecificationFile) : Except Fault (List (Tool × Request)) := do
  let document ← resolvedFile library files f
  Compile.pairs document (.str f.integrationName) f.integration.id

/-- The tools and requests of the files that compile, file by file. -/
def pairsOfFiles (found : List SpecificationFile) : List (Tool × Request) :=
  found.flatMap fun f => (pairsOfFile library files f).toOption.getD []

/-- Compiling a file is listing its pairs and following them. -/
theorem outcome_compileFile (f : SpecificationFile) :
    (compileFile library files f).outcome
      = (pairsOfFile library files f).map (Compiled.ofPairs (.str f.integrationName)) := by
  simp only [compileFile, pairsOfFile, Reported.outcome_bind, Reported.outcome_say,
    Reported.outcome_ofExcept, ok_bind, Compile.outcome_document]
  cases resolvedFile library files f <;> rfl

/-- A file that compiles has a document, and reports what compiling the document reports. -/
theorem exists_document_of_compileFile {library : Library} {files : Files}
    {f : SpecificationFile} {d : Compiled}
    (h : (compileFile library files f).outcome = .ok d) :
    ∃ doc, resolvedFile library files f = .ok doc
      ∧ (Compile.document doc (.str f.integrationName) f.integration.id).outcome = .ok d
      ∧ (compileFile library files f).notices
        = .fileLoading f.integration.kindName f.name f.integrationName
          :: (Compile.document doc (.str f.integrationName) f.integration.id).notices := by
  unfold compileFile at h ⊢
  simp only [Reported.outcome_bind, Reported.outcome_ofExcept, Reported.outcome_say] at h
  obtain ⟨_, _, h⟩ := bind_eq_ok.mp h
  obtain ⟨resolved, resolves, h⟩ := bind_eq_ok.mp h
  refine ⟨resolved, resolves, h, ?_⟩
  rw [resolves]
  rfl

theorem tools_documents (found : List SpecificationFile) :
    (documents library files found).flatMap (·.tools)
      = ((found.map fun f => (pairsOfFile library files f).toOption.getD []).flatMap
          (lastBy Compile.pairName)).map (·.1) := by
  induction found with
  | nil => rfl
  | cons f found ih =>
      simp only [documents, List.filterMap_cons, outcome_compileFile, List.map_cons,
        List.flatMap_cons, List.map_append] at ih ⊢
      cases pairsOfFile library files f with
      | error e => simpa [lastBy] using ih
      | ok ps =>
          simp only [map_ok, toOption_ok, Option.getD_some, List.flatMap_cons, ih,
            Compiled.tools_ofPairs]

theorem requests_documents (found : List SpecificationFile) :
    ((documents library files found).map (·.requests)).flatten
      = (found.map fun f => ((pairsOfFile library files f).toOption.getD []).map
          Compile.pairEntry).flatMap Table.ofList := by
  induction found with
  | nil => rfl
  | cons f found ih =>
      simp only [documents, List.filterMap_cons, outcome_compileFile, List.map_cons,
        List.flatMap_cons] at ih ⊢
      cases pairsOfFile library files f with
      | error e => simpa [Table.ofList] using ih
      | ok ps =>
          simp only [map_ok, toOption_ok, Option.getD_some, List.map_cons, List.flatten_cons,
            ih, Compiled.requests_ofPairs]

/-- **The tools of documents are those of the last pairs of all.** -/
theorem toolsOf_documents (found : List SpecificationFile) :
    toolsOf (documents library files found)
      = (lastBy Compile.pairName (pairsOfFiles library files found)).map (·.1) := by
  have kept := keepLast_eq_lastBy (fun t : Tool => t.name) []
    ((documents library files found).flatMap (·.tools))
  rw [List.nil_append, tools_documents, lastBy_map] at kept
  rw [pairsOfFiles, List.flatMap_def, ← lastBy_flatMap_lastBy]
  exact (congrArg (List.foldl addTool []) (tools_documents library files found)).trans kept

/-- **The requests of documents are those that all pairs define.** -/
theorem requests_merge_documents (found : List SpecificationFile) :
    (Registry.merge ((documents library files found).map (·.requests))).1.requests
      = Table.ofList ((pairsOfFiles library files found).map Compile.pairEntry) := by
  rw [Registry.requests_merge, requests_documents, Table.ofList_flatMap_ofList, pairsOfFiles,
    List.map_flatMap, List.flatMap_def]

end Documents

/-! ## §3. Loads. -/

/-- The tools and requests of a load, file by file, path by path and method by method. -/
def pairsOfLoad (settings : LoaderSettings) (library : Library) (files : Files)
    (integrations : List Integration) : List (Tool × Request) :=
  let found := SpecificationFile.discover files settings.directory integrations
  pairsOfFiles library files (found.outcome.toOption.getD [])

section Loads

variable {settings : LoaderSettings} {library : Library} {files : Files}
  {integrations : List Integration} {loaded : Loaded}

theorem pairsOfLoad_of_found {found : List SpecificationFile}
    (h : (SpecificationFile.discover files settings.directory integrations).outcome = .ok found) :
    pairsOfLoad settings library files integrations = pairsOfFiles library files found := by
  rw [pairsOfLoad, h, toOption_ok, Option.getD_some]

theorem pairsOfLoad_of_error {e : Fault}
    (h : (SpecificationFile.discover files settings.directory integrations).outcome = .error e) :
    pairsOfLoad settings library files integrations = [] := by
  rw [pairsOfLoad, h, toOption_error, Option.getD_none, pairsOfFiles, List.flatMap_nil]

/-- A load that has an answer found its files, or no folder to look into. -/
theorem load_eq_ok (h : (load settings library files integrations).outcome = .ok loaded) :
    (∃ found,
        (SpecificationFile.discover files settings.directory integrations).outcome = .ok found
          ∧ (ofFiles settings library files found).outcome = .ok loaded)
      ∨ (∃ folder,
          (SpecificationFile.discover files settings.directory integrations).outcome
            = .error (.missingDirectory folder)) ∧ loaded = empty := by
  unfold load at h
  dsimp only at h
  split at h
  next folder missing =>
    injection h with h
    exact Or.inr ⟨⟨folder, missing⟩, h.symm⟩
  next =>
    rw [Reported.outcome_bind, bind_eq_ok] at h
    exact Or.inl h

theorem load_of_found {found : List SpecificationFile}
    (h : (SpecificationFile.discover files settings.directory integrations).outcome = .ok found) :
    (load settings library files integrations).outcome
      = (ofFiles settings library files found).outcome := by
  unfold load
  generalize SpecificationFile.discover files settings.directory integrations = x at h ⊢
  simp only [h, Reported.outcome_bind, ok_bind]

theorem tools_eq_of_load (h : (load settings library files integrations).outcome = .ok loaded) :
    loaded.tools
      = (lastBy Compile.pairName (pairsOfLoad settings library files integrations)).map
          (·.1) := by
  rcases load_eq_ok h with ⟨found, hfound, h⟩ | ⟨⟨folder, missing⟩, rfl⟩
  · rw [(ofFiles_eq_ok library files h).1, toolsOf_documents, pairsOfLoad_of_found hfound]
  · rw [pairsOfLoad_of_error missing]
    rfl

theorem requests_eq_of_load
    (h : (load settings library files integrations).outcome = .ok loaded) :
    loaded.registry.requests
      = Table.ofList
          ((pairsOfLoad settings library files integrations).map Compile.pairEntry) := by
  rcases load_eq_ok h with ⟨found, hfound, h⟩ | ⟨⟨folder, missing⟩, rfl⟩
  · rw [(ofFiles_eq_ok library files h).2, requests_merge_documents,
      pairsOfLoad_of_found hfound]
  · rw [pairsOfLoad_of_error missing]
    rfl

end Loads

/-- What a list of pairs, in which names may come again, says about tools and registry. -/
structure Follows (defined : List (Tool × Request)) (loaded : Loaded) : Prop where
  /-- the tools are those of the last pair of each name, in order -/
  tools_eq : loaded.tools = (lastBy Compile.pairName defined).map (·.1)
  tools_distinct : (loaded.tools.map (·.name)).Nodup
  same_names : ∀ name, name ∈ loaded.registry.names ↔ name ∈ loaded.tools.map (·.name)
  /-- the registry has every name at its first pair -/
  names_eq : loaded.registry.names = (defined.map Compile.pairName).eraseDups
  /-- a name leads to the request of the very pair that gave its tool -/
  lookup_eq : ∀ p ∈ lastBy Compile.pairName defined,
    loaded.registry.lookup (.str p.1.name) = .ok p.2

/-- Tools and a table of requests that follow the pairs say all of it. -/
theorem follows_of_eq {defined : List (Tool × Request)} {loaded : Loaded}
    (tools : loaded.tools = (lastBy Compile.pairName defined).map (·.1))
    (requests : loaded.registry.requests = Table.ofList (defined.map Compile.pairEntry)) :
    Follows defined loaded := by
  have toolNames : loaded.tools.map (·.name)
      = (lastBy Compile.pairName defined).map Compile.pairName := by
    rw [tools, List.map_map]
    rfl
  have names : loaded.registry.names = (defined.map Compile.pairName).eraseDups := by
    rw [Registry.names, requests, Table.names_ofList, List.map_map]
    rfl
  -- what tools and table share are the last pairs: their names, and what each name leads to
  refine ⟨tools, ?_, ?_, names, ?_⟩
  · rw [toolNames]
    exact nodup_map_lastBy Compile.pairName defined
  · intro name
    rw [names, toolNames, List.mem_eraseDups, mem_map_lastBy]
  · intro p hp
    apply Registry.lookup_of_get?
    rw [requests]
    have last : Compile.pairEntry p ∈ lastBy (·.1) (defined.map Compile.pairEntry) := by
      rw [lastBy_map]
      exact List.mem_map_of_mem hp
    exact Table.get?_ofList_of_mem_lastBy last

/-- **ONE FLAT LAST-WINS**: the tools and the registry of every load that has an answer follow the
list of its pairs, however these are spread over paths, documents and files. -/
theorem load_follows_pairs {settings : LoaderSettings} {library : Library} {files : Files}
    {integrations : List Integration} {loaded : Loaded}
    (h : (load settings library files integrations).outcome = .ok loaded) :
    Follows (pairsOfLoad settings library files integrations) loaded :=
  follows_of_eq (tools_eq_of_load h) (requests_eq_of_load h)

/-! ## §4. Two files with one tool name. -/

/-- A document with one operation, summed up as `Ping`. -/
def pingOctets : List UInt8 :=
  "\x7b\"paths\":\x7b\"/x\":\x7b\"get\":\x7b\"summary\":\"Ping\"\x7d\x7d\x7d\x7d".toUTF8.toList

/-- Both names of these files become `A_B` in capitals. -/
def collidingFiles : Files :=
  ⟨[(["openapi"], .folder), (["openapi", "a.b.json"], .file pingOctets),
    (["openapi", "a_b.json"], .file pingOctets)], []⟩

def collidingIntegrations : List Integration :=
  [.standard (.str "a") (.str "1"), .standard (.str "a_b") (.str "2")]

def collidingSettings : LoaderSettings := ⟨"openapi", 2, true⟩

theorem list_collidingFiles :
    collidingFiles.list "openapi"
      = [("a.b.json", .file pingOctets), ("a_b.json", .file pingOctets)] :=
  List.mergeSort_of_pairwise (by simp; decide)

theorem discover_collidingFiles :
    (SpecificationFile.discover collidingFiles collidingSettings.directory
        collidingIntegrations).outcome
      = .ok [⟨"openapi", "a.b.json", .standard (.str "a") (.str "1")⟩,
          ⟨"openapi", "a_b.json", .standard (.str "a_b") (.str "2")⟩] := by
  have path : Files.normalPath collidingSettings.directory = "openapi" := by decide +kernel
  have folder : collidingFiles.isFolder "openapi" = true := by decide +kernel
  have names : SpecificationFile.candidates collidingFiles "openapi"
      = ["a.b.json", "a_b.json"] := by
    rw [SpecificationFile.candidates, list_collidingFiles]
    decide +kernel
  simp only [SpecificationFile.discover, path, folder, if_true, names]
  rfl

/-- The tools of two files collide, and the later tool stays with its own request. -/
theorem load_follows_pairs_colliding :
    ∃ loaded,
      (load collidingSettings .standard collidingFiles collidingIntegrations).outcome = .ok loaded
        ∧ loaded.tools.map (·.integrationName) = ["a_b"]
        ∧ Follows (pairsOfLoad collidingSettings .standard collidingFiles collidingIntegrations)
            loaded := by
  have names : ((load collidingSettings .standard collidingFiles collidingIntegrations).outcome.map
      fun loaded => loaded.tools.map (·.integrationName)).toOption = some ["a_b"] := by
    rw [load_of_found discover_collidingFiles]
    decide +kernel
  -- the load is kept closed: nothing below has to evaluate it again
  generalize hl : (load collidingSettings .standard collidingFiles collidingIntegrations).outcome
    = outcome at names ⊢
  cases outcome with
  | error e => simp at names
  | ok loaded => exact ⟨loaded, rfl, by simpa using names, load_follows_pairs hl⟩

end Loaded

end ApiTools
