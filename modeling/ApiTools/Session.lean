/-
  ApiTools.Session
  ────────────────
  **A LIFE OF A CATALOG.**

  A session has files, a catalog, the registry that was built last and the
  documents compiled since then.  Loading and merging build a registry,
  publishing makes the last one current, and a snapshot keeps the current one
  for later.  What fails leaves the session as it was.
-/
import ApiTools.Specification.Load
import ApiTools.Proxy.Execution

namespace ApiTools

structure Session where
  files : Files
  catalog : Catalog
  /-- the registry that was built last -/
  last : Option Registry
  /-- the requests of documents that have not been merged -/
  parts : List (Table Request)
  snapshot : Option Registry

namespace Session

def start (files : Files) : Session := ⟨files, Catalog.empty, none, [], none⟩

/-- The names of the tools that are published. -/
def published (s : Session) : List String := s.catalog.current.names

/-! ## §1. Files. -/

def write (path : String) (item : FileItem) (s : Session) : Session :=
  { s with files := s.files.put path item }

/-- Removes a file, which has to be there. -/
def delete (path : String) (s : Session) : Except Fault Session :=
  (s.files.remove path).map fun files => { s with files }

/-! ## §2. Registries. -/

/-- Keeps the registry of a load that has an answer. -/
def keepLoaded (loaded : Reported Loaded) (s : Session) : Session :=
  match loaded.outcome with
  | .ok l => { s with last := some l.registry }
  | .error _ => s

/-- Keeps the requests of a document that compiles. -/
def keepCompiled (compiled : Reported Compiled) (s : Session) : Session :=
  match compiled.outcome with
  | .ok c => { s with parts := s.parts ++ [c.requests] }
  | .error _ => s

/-- Merges the documents compiled since the last merge. -/
def merge (s : Session) : Session × Registry × List Notice :=
  let (registry, notices) := Registry.merge s.parts
  ({ s with last := some registry, parts := [] }, registry, notices)

/-! ## §3. The catalog. -/

/-- Publishes a registry; the one that it replaces comes back. -/
def publishRegistry (r : Registry) (s : Session) : Session × Registry :=
  let (catalog, previous, _) := s.catalog.publish r
  ({ s with catalog }, previous)

/-- Publishes the registry that was built last. -/
def publish (s : Session) : Session × Registry :=
  s.publishRegistry (s.last.getD Registry.empty)

/-- Keeps the registry that is published now. -/
def takeSnapshot (s : Session) : Session := { s with snapshot := some s.catalog.current }

/-- Publishes the registry that was kept. -/
def restore (s : Session) : Session × Registry :=
  s.publishRegistry (s.snapshot.getD Registry.empty)

/-- The registry that is looked up in. -/
def registry (inSnapshot : Bool) (s : Session) : Registry :=
  if inSnapshot then s.snapshot.getD Registry.empty else s.catalog.current

end Session

end ApiTools
