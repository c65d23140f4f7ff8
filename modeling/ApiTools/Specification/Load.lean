/-
  ApiTools.Specification.Load
  ───────────────────────────
  **LOADING SPECIFICATIONS.**

  Loading reads, resolves and compiles every specification file of a folder,
  with the libraries that are given, and puts the tools together: a tool of a
  later file replaces one of the same name and comes after those that stay.
  Either the first file that fails ends the load, or the files that fail are
  listed and the others loaded.  A folder that is not there holds no tools.
-/
import ApiTools.Specification.Discovery
import ApiTools.Specification.Text
import ApiTools.Tool.Compile
import ApiTools.Registry
import ApiTools.Proxy.Settings

namespace ApiTools

/-- A specification file that could not be loaded. -/
structure LoadFailure where
  file : String
  integrationName : String
  fault : Fault

/-- What a load gives. -/
structure Loaded where
  tools : List Tool
  registry : Registry
  failures : List LoadFailure

namespace Loaded

def empty : Loaded := ⟨[], Registry.empty, []⟩

/-! ## §1. One file. -/

/-- The document of a specification file. -/
def readFile (library : Library) (files : Files) (f : SpecificationFile) : Except Fault Value := do
  let text ← files.readText f.path
  Specification.read library text f.name

/-- The document of a specification file with what its references lead to in their places, if it
does not nest too deeply to be gone through. -/
def resolvedFile (library : Library) (files : Files) (f : SpecificationFile) :
    Except Fault Value := do
  let document ← readFile library files f
  let resolved ← library.resolve Specification.placeholder files f.path document
  if library.tooDeep resolved then .error .tooDeep else .ok resolved

/-- Reads, resolves and compiles a specification file. -/
def compileFile (library : Library) (files : Files) (f : SpecificationFile) :
    Reported Compiled := do
  Reported.say (.fileLoading f.integration.kindName f.name f.integrationName)
  let resolved ← Reported.ofExcept (resolvedFile library files f)
  Compile.document resolved (.str f.integrationName) f.integration.id

/-! ## §2. Putting tools together. -/

/-- Adds a tool behind the others, in the place of one of the same name. -/
def addTool (tools : List Tool) (tool : Tool) : List Tool :=
  tools.filter (fun t => t.name != tool.name) ++ [tool]

/-- The tools of documents. -/
def toolsOf (documents : List Compiled) : List Tool :=
  (documents.flatMap (·.tools)).foldl addTool []

/-- Puts the tools of documents together. -/
def assemble (documents : List Compiled) (failures : List LoadFailure) : Reported Loaded :=
  let (registry, notices) := Registry.merge (documents.map (·.requests))
  let tools := toolsOf documents
  ⟨notices ++ [.filesLoaded tools.length documents.length failures.length],
    .ok ⟨tools, registry, failures⟩⟩

/-! ## §3. Many files. -/

/-- The documents of files of which none may fail.  When one fails, the `ahead` next files have
been started. -/
def compileAll (ahead : Nat) : List (Reported Compiled) → Reported (List Compiled)
  | [] => return []
  | c :: cs =>
    match c.outcome with
    | .error f => ⟨c.notices ++ (cs.take ahead).flatMap (·.notices), .error f⟩
    | .ok document =>
      let others := compileAll ahead cs
      ⟨c.notices ++ others.notices, others.outcome.map (document :: ·)⟩

/-- The documents among outcomes. -/
def documentsOf (compiled : List (SpecificationFile × Reported Compiled)) : List Compiled :=
  compiled.filterMap fun c =>
    match c.2.outcome with
    | .ok d => some d
    | .error _ => none

/-- The failures among outcomes. -/
def failuresOf (compiled : List (SpecificationFile × Reported Compiled)) : List LoadFailure :=
  compiled.filterMap fun c =>
    match c.2.outcome with
    | .ok _ => none
    | .error f => some ⟨c.1.name, c.1.integrationName, f⟩

/-- Loads files, listing those that fail. -/
def collect (compiled : List (SpecificationFile × Reported Compiled)) : Reported Loaded := do
  let failures := failuresOf compiled
  let said := compiled.flatMap (·.2.notices)
    ++ failures.map fun f => Notice.fileFailed f.file f.fault
  ⟨said, .ok ()⟩
  assemble (documentsOf compiled) failures

/-- Loads the specification files that have been found. -/
def ofFiles (settings : LoaderSettings) (library : Library) (files : Files)
    (found : List SpecificationFile) : Reported Loaded :=
  if settings.concurrency < 0 then Reported.fail (.refused .negativeConcurrency)
  else
    let compiled := found.map fun f => (f, compileFile library files f)
    if settings.failFast then do
      let documents ← compileAll settings.concurrency.toNat (compiled.map (·.2))
      assemble documents []
    else collect compiled

/-- Loads the specifications of a folder. -/
def load (settings : LoaderSettings) (library : Library) (files : Files)
    (integrations : List Integration) : Reported Loaded :=
  let found := SpecificationFile.discover files settings.directory integrations
  match found.outcome with
  | .error (.missingDirectory name) =>
    ⟨found.notices ++ [.directoryMissing (.missingDirectory name)], .ok empty⟩
  | _ => found >>= ofFiles settings library files

end Loaded

end ApiTools
