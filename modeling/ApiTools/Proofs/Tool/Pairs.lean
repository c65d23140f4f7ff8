/-
  ApiTools.Proofs.Tool.Pairs
  ──────────────────────────
  **A COMPILED DOCUMENT IS ITS LIST OF PAIRS.**

  Compiling an operation gives a tool and a request.  `Compile.pairs` lists
  these pairs for a document in the order of its paths and, within a path, of
  its methods, and replaces nothing.  Compiling the document gives the same
  faults, and otherwise what follows from the list alone (`Compiled.ofPairs`):
  the tools of the last pair of each name, and a table in which every name
  stands at its first pair with the request of its last.
-/
import ApiTools.Proofs.Table.LastDefinition
import ApiTools.Tool.Compile

namespace ApiTools

/-! ## §1. Pairs. -/

namespace Compile

/-- The name that a tool and its request are known by. -/
def pairName (p : Tool × Request) : String := p.1.name

/-- The definition that a pair makes in a table of requests. -/
def pairEntry (p : Tool × Request) : String × Request := (p.1.name, p.2)

/-- The pairs of the entries of a path. -/
def pairsOfEntries (c : Context) (path common : Value) :
    Entries → Except Fault (List (Tool × Request))
  | [] => .ok []
  | (key, op) :: rest => do
    match ← methodOf? key op with
    | none => pairsOfEntries c path common rest
    | some method =>
      let pair ← (operation c path method op common).outcome
      let others ← pairsOfEntries c path common rest
      .ok (pair :: others)

/-- The pairs of paths. -/
def pairsOfPaths (c : Context) : Entries → Except Fault (List (Tool × Request))
  | [] => .ok []
  | (path, item) :: rest => do
    match item with
    | .mapping es =>
      let common := ((Entries.get? "parameters" es).getD .null).orElse (.list [])
      let own ← pairsOfEntries c path common es
      let others ← pairsOfPaths c rest
      .ok (own ++ others)
    | _ => pairsOfPaths c rest

/-- The tools and requests of a document's operations, path by path and method by method. -/
def pairs (doc integrationName integrationId : Value) : Except Fault (List (Tool × Request)) := do
  let declared ← doc.field "paths"
  let declared := declared.orElse (.mapping (p := none) [])
  let baseUrl ← Server.baseUrl doc
  let items ← declared.pairs
  pairsOfPaths { integrationName, integrationId, baseUrl } items

end Compile

namespace Compiled

/-- Adds a tool with its request to a compiled document. -/
def addPair (c : Compiled) (p : Tool × Request) : Compiled := Compile.addTool c p.1 p.2

/-- The compiled document that pairs make up. -/
def ofPairs (integrationName : Value) (ps : List (Tool × Request)) : Compiled :=
  ps.foldl addPair { integrationName, tools := [], requests := [] }

/-! ## §2. What pairs make up. -/

theorem tools_addPair (c : Compiled) (p : Tool × Request) :
    (c.addPair p).tools = keepLast (·.name) c.tools p.1 := rfl

theorem requests_addPair (c : Compiled) (p : Tool × Request) :
    (c.addPair p).requests = Table.insert p.1.name p.2 c.requests := rfl

theorem tools_foldl_addPair (c : Compiled) (ps : List (Tool × Request)) :
    (ps.foldl addPair c).tools = (ps.map (·.1)).foldl (keepLast (·.name)) c.tools := by
  induction ps generalizing c with
  | nil => rfl
  | cons p ps ih => rw [List.foldl_cons, ih, tools_addPair, List.map_cons, List.foldl_cons]

theorem requests_foldl_addPair (c : Compiled) (ps : List (Tool × Request)) :
    (ps.foldl addPair c).requests = Table.insertAll c.requests (ps.map Compile.pairEntry) := by
  induction ps generalizing c with
  | nil => rfl
  | cons p ps ih =>
      rw [List.foldl_cons, ih, requests_addPair, List.map_cons, Table.insertAll_cons]
      rfl

/-- The tools of a compiled document are those of the last pairs. -/
theorem tools_ofPairs (integrationName : Value) (ps : List (Tool × Request)) :
    (ofPairs integrationName ps).tools = (lastBy Compile.pairName ps).map (·.1) := by
  have h := keepLast_eq_lastBy (fun t : Tool => t.name) [] (ps.map (·.1))
  rw [List.nil_append, lastBy_map] at h
  rw [ofPairs, tools_foldl_addPair]
  exact h

/-- The requests of a compiled document are those that the pairs define. -/
theorem requests_ofPairs (integrationName : Value) (ps : List (Tool × Request)) :
    (ofPairs integrationName ps).requests = Table.ofList (ps.map Compile.pairEntry) := by
  rw [ofPairs, requests_foldl_addPair]
  rfl

end Compiled

/-! ## §3. Compiling is listing the pairs. -/

namespace Compile

/-- Compiling an entry adds its pair if it is an operation; what is reported on a replacement has
no say in the outcome. -/
theorem outcome_entry (c : Context) (path common : Value) (done : Compiled) (key op : Value) :
    (entry c path common done key op).outcome
      = methodOf? key op >>= fun found =>
          match found with
          | none => .ok done
          | some method => (operation c path method op common).outcome.map done.addPair := by
  rw [entry, Reported.outcome_bind, Reported.outcome_ofExcept]
  cases methodOf? key op with
  | error f => rfl
  | ok found =>
      cases found with
      | none => rfl
      | some method =>
          simp only [ok_bind, Reported.outcome_bind]
          cases (operation c path method op common).outcome with
          | error f => rfl
          | ok pair =>
              simp only [ok_bind, map_ok]
              split <;> rfl

/-- Compiling the entries of a path adds their pairs. -/
theorem outcome_entries (c : Context) (path common : Value) (done : Compiled) (es : Entries) :
    (entries c path common done es).outcome
      = (pairsOfEntries c path common es).map fun ps => ps.foldl Compiled.addPair done := by
  induction es generalizing done with
  | nil => rfl
  | cons e rest ih =>
      obtain ⟨key, op⟩ := e
      rw [entries, Reported.outcome_bind, outcome_entry, pairsOfEntries]
      cases methodOf? key op with
      | error f => rfl
      | ok found =>
          cases found with
          | none => exact ih done
          | some method =>
              simp only [ok_bind]
              cases (operation c path method op common).outcome with
              | error f => rfl
              | ok pair =>
                  simp only [ok_bind, map_ok, ih]
                  cases pairsOfEntries c path common rest <;> rfl

/-- Compiling paths adds their pairs. -/
theorem outcome_paths (c : Context) (done : Compiled) (items : Entries) :
    (paths c done items).outcome
      = (pairsOfPaths c items).map fun ps => ps.foldl Compiled.addPair done := by
  induction items generalizing done with
  | nil => rfl
  | cons e rest ih =>
      obtain ⟨path, item⟩ := e
      cases item with
      | mapping es =>
          simp only [paths, pairsOfPaths, Reported.outcome_bind, outcome_entries]
          cases pairsOfEntries c path
              (((Entries.get? "parameters" es).getD .null).orElse (.list [])) es with
          | error f => rfl
          | ok own =>
              simp only [ok_bind, map_ok, ih]
              cases pairsOfPaths c rest with
              | error f => rfl
              | ok others => simp [List.foldl_append]
      | _ => exact ih done

/-- **Compiling a document is listing its pairs and following them.** -/
theorem outcome_document (doc integrationName integrationId : Value) :
    (document doc integrationName integrationId).outcome
      = (pairs doc integrationName integrationId).map (Compiled.ofPairs integrationName) := by
  simp only [document, pairs, Reported.outcome_bind, Reported.outcome_ofExcept,
    Reported.outcome_say, outcome_paths]
  cases doc.field "paths" with
  | error f => rfl
  | ok declared =>
      simp only [ok_bind]
      cases Server.baseUrl doc with
      | error f => rfl
      | ok baseUrl =>
          simp only [ok_bind]
          cases (declared.orElse (.mapping (p := none) [])).pairs with
          | error f => rfl
          | ok items =>
              simp only [ok_bind]
              cases pairsOfPaths { integrationName, integrationId, baseUrl } items <;> rfl

/-- A document compiles exactly if its pairs do, and then it is what they make up. -/
theorem document_eq_ok_iff {doc integrationName integrationId : Value} {compiled : Compiled} :
    (document doc integrationName integrationId).outcome = .ok compiled
      ↔ ∃ ps, pairs doc integrationName integrationId = .ok ps
          ∧ Compiled.ofPairs integrationName ps = compiled := by
  rw [outcome_document]
  cases pairs doc integrationName integrationId with
  | error e => simp
  | ok ps => simp

end Compile

end ApiTools
