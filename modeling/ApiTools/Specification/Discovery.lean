/-
  ApiTools.Specification.Discovery
  ────────────────────────────────
  **FINDING SPECIFICATION FILES.**

  Of the files of a folder, in the order of their names, those with one of
  three endings are specifications; each belongs to the first integration that
  owns it, and one that none owns is skipped.  The name of the file without
  its ending is the name of the integration in tools.
-/
import ApiTools.Files
import ApiTools.Integration.Basic
import ApiTools.Report

namespace ApiTools

/-- A specification file and the integration that it belongs to. -/
structure SpecificationFile where
  folder : String
  name : String
  integration : Integration

namespace SpecificationFile

/-! ## §1. Names of files. -/

/-- The name in front of the last point and the ending from there on.  A point that starts or ends
a name starts no ending. -/
def splitEnding (name : String) : String × String :=
  let cs := name.toList
  let final := (cs.reverse.takeWhile (· != '.')).reverse
  let stem := cs.take (cs.length - final.length - 1)
  if cs.contains '.' ∧ stem ≠ [] ∧ final ≠ [] then
    (String.ofList stem, String.ofList ('.' :: final))
  else (name, "")

/-- The endings of specification files. -/
def endings : List String := [".json", ".yml", ".yaml"]

/-- The path of the file. -/
def path (f : SpecificationFile) : String :=
  if f.folder = "." then f.name
  else if Text.endsWith "/" f.folder then f.folder ++ f.name
  else f.folder ++ "/" ++ f.name

/-- The name of the integration in tools. -/
def integrationName (f : SpecificationFile) : String := (splitEnding f.name).1

/-! ## §2. Folders. -/

/-- The names of the files of a folder that have the ending of a specification. -/
def candidates (files : Files) (folder : String) : List String :=
  (files.list folder).filterMap fun (name, item) =>
    match item with
    | .file _ => if endings.contains (splitEnding name).2 then some name else none
    | .folder => none

/-- The files that integrations own, among files of a folder. -/
def owned (integrations : List Integration) (folder : String) :
    List String → Reported (List SpecificationFile)
  | [] => return []
  | name :: names => do
    match ← Reported.ofExcept (Integration.findFor name integrations) with
    | some integration =>
      let others ← owned integrations folder names
      return ⟨folder, name, integration⟩ :: others
    | none =>
      Reported.say (.fileSkipped name)
      owned integrations folder names

/-- The specification files of a folder, which has to be there. -/
def discover (files : Files) (folder : String) (integrations : List Integration) :
    Reported (List SpecificationFile) :=
  let folder := Files.normalPath folder
  if files.isFolder folder then owned integrations folder (candidates files folder)
  else Reported.fail (.missingDirectory folder)

end SpecificationFile

end ApiTools
