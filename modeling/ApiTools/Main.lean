/-
  ApiTools.Main
  ─────────────
  **THE PROGRAM.**

  Reads the files below the present folder and the variables of the
  environment, runs the command that the arguments state and writes what it
  tells.  It opens no connection: a message that would be sent finds the proxy
  out of reach.
-/
import ApiTools.CommandLine.Run
import ApiTools.Standard

namespace ApiTools.Program

/-- The variables that the program looks at. -/
def variableNames : List String :=
  ["OPENAPI_SPEC_DIR", "OPENAPI_LOAD_CONCURRENCY", "OPENAPI_FAIL_FAST", "PROXY_BASE_URL",
    "PROJECT_ID", "PROXY_URL_HEADER", "PROXY_RAW_RESPONSE_HEADER", "PROXY_TOKEN"]

def readEnvironment : IO Environment :=
  variableNames.filterMapM fun name => do
    return (← IO.getEnv name).map fun text => (name, text)

/-- The items at an entry of a folder and below it, with their paths. -/
partial def itemsFrom (above : List String) (entry : IO.FS.DirEntry) :
    IO (List (List String × FileItem)) := do
  let path := above ++ [entry.fileName]
  if ← entry.path.isDir then
    let entries ← entry.path.readDir
    let below ← entries.toList.mapM (itemsFrom path)
    return (path, .folder) :: below.flatten
  else
    let octets ← IO.FS.readBinFile entry.path
    return [(path, .file octets.toList)]

/-- The files below the present folder. -/
def readFiles : IO Files := do
  let folder ← IO.currentDir
  let present := Files.pathNames folder.toString
  let entries ← folder.readDir
  return ⟨(← entries.toList.mapM (itemsFrom present)).flatten, present⟩

/-- Writes an outcome and gives the status to leave with. -/
def report (outcome : CommandLine.Outcome) : IO UInt32 := do
  outcome.notices.forM fun n => IO.eprintln (CommandLine.toldLine n)
  IO.print outcome.output
  IO.eprint outcome.errors
  match outcome.exit with
  | .ok status => return UInt32.ofNat status
  | .error fault =>
    IO.eprintln fault.message
    return 1

end ApiTools.Program

def main (arguments : List String) : IO UInt32 := do
  let files ← ApiTools.Program.readFiles
  let environment ← ApiTools.Program.readEnvironment
  ApiTools.Program.report
    (ApiTools.CommandLine.run ⟨files, environment, .standard, .failed "no connection"⟩ arguments)
