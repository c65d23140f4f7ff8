/-
  ApiTools.Files
  ──────────────
  **A TREE OF FILES.**

  Files are octets at paths below one root.  A path is the list of its names,
  the empty list the root itself; every folder above a file is there too.  One
  folder is the present one: a path that does not start at the root starts
  there.
-/
import ApiTools.Fault

namespace ApiTools

/-- What stands at a path. -/
inductive FileItem where
  | folder
  | file (octets : List UInt8)

structure Files where
  items : List (List String × FileItem)
  /-- the names of the present folder, which is there -/
  present : List String

namespace Files

def empty : Files := ⟨[], []⟩

/-! ## §1. Paths. -/

/-- The parts of a text between slashes. -/
def slashParts : List Char → List (List Char)
  | [] => [[]]
  | c :: cs =>
    match slashParts cs with
    | [] => [[c]]
    | part :: parts => if c = '/' then [] :: part :: parts else (c :: part) :: parts

/-- The names that a path lists; empty ones and single points say nothing. -/
def pathNames (path : String) : List String :=
  ((slashParts path.toList).map String.ofList).filter fun n => n ≠ "" ∧ n ≠ "."

/-- Does a path start at the root of all files? -/
def isAbsolute (path : String) : Bool := path.toList.head? == some '/'

/-- A path without names that say nothing: `a//b/./` is `a/b`, and an empty path is a point. -/
def normalPath (path : String) : String :=
  let names := pathNames path
  let slashes := (path.toList.takeWhile (· == '/')).length
  let root := if slashes = 0 then "" else if slashes = 2 then "//" else "/"
  if root = "" ∧ names = [] then "." else root ++ "/".intercalate names

/-! ## §2. Looking. -/

/-- What stands at a path of plain names. -/
def find? (path : List String) (fs : Files) : Option FileItem :=
  if path.isPrefixOf fs.present then some .folder
  else (List.find? (fun e => e.1 == path) fs.items).map (·.2)

/-- The folder that a path starts from. -/
def origin (fs : Files) (path : String) : List String := if isAbsolute path then [] else fs.present

/-- Follows names from a folder, two points leading out of it; nothing is above the root. -/
def walk (fs : Files) (here : List String) : List String → Except FileProblem (List String)
  | [] => .ok here
  | name :: names =>
    match fs.find? here with
    | none => .error .missing
    | some (.file _) => .error .notDirectory
    | some .folder =>
      if name = ".." then walk fs here.dropLast names else walk fs (here ++ [name]) names

/-- What stands at a path. -/
def get (fs : Files) (path : String) : Except FileProblem FileItem :=
  if path = "" then .error .missing
  else
    match fs.walk (fs.origin path) (pathNames path) with
    | .error p => .error p
    | .ok here =>
      match fs.find? here with
      | some item => .ok item
      | none => .error .missing

def isFolder (fs : Files) (path : String) : Bool :=
  match fs.get path with
  | .ok .folder => true
  | _ => false

/-- The octets of a file. -/
def read (fs : Files) (path : String) : Except Fault (List UInt8) :=
  if path.toList.contains '\x00' then .error (.refused .nulInPath)
  else
    match fs.get path with
    | .ok (.file octets) => .ok octets
    | .ok .folder => .error (.notOpened .isDirectory path)
    | .error p => .error (.notOpened p path)

/-- The text of a file. -/
def readText (fs : Files) (path : String) : Except Fault String := do
  let octets ← fs.read path
  match Text.decodeFile octets with
  | .ok s => .ok s
  | .error u => .error (.undecodable u)

/-- The items of a folder, by name, in the order of their names. -/
def list (fs : Files) (path : String) : List (String × FileItem) :=
  match fs.walk (fs.origin path) (pathNames path) with
  | .error _ => []
  | .ok here =>
    let inside := fs.items.filterMap fun e =>
      if e.1.dropLast = here then e.1.getLast?.map fun name => (name, e.2) else none
    inside.mergeSort fun a b => a.1 ≤ b.1

/-! ## §3. Changing. -/

/-- Puts an item at a path of plain names, in the place of what is there. -/
def set (path : List String) (item : FileItem) (fs : Files) : Files :=
  { fs with items := fs.items.filter (fun e => e.1 != path) ++ [(path, item)] }

/-- Makes the folders above a path. -/
def makeFolders (fs : Files) (path : List String) : Files :=
  (List.range path.length).foldl
    (fun fs n =>
      let above := path.take n
      if (fs.find? above).isSome then fs else fs.set above .folder)
    fs

/-- The plain names that a path lists, from the root on. -/
def fullNames (fs : Files) (path : String) : List String := fs.origin path ++ pathNames path

/-- Writes a file, or makes a folder, with the folders above. -/
def put (path : String) (item : FileItem) (fs : Files) : Files :=
  let names := fs.fullNames path
  match item with
  | .folder => if (fs.find? names).isSome then fs else (fs.makeFolders names).set names .folder
  | .file _ => (fs.makeFolders names).set names item

/-- Removes a file, which has to be there. -/
def remove (path : String) (fs : Files) : Except Fault Files :=
  match fs.get path with
  | .ok (.file _) => .ok { fs with items := fs.items.filter fun e => e.1 != fs.fullNames path }
  | .ok .folder => .error (.notOpened .isDirectory path)
  | .error p => .error (.notOpened p path)

end Files

end ApiTools
