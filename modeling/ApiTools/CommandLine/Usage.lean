/-
  ApiTools.CommandLine.Usage
  ──────────────────────────
  **WHAT IS WRONG WITH ARGUMENTS.**
-/
import ApiTools.Text.Quoted
import ApiTools.Value.Text

namespace ApiTools.CommandLine

/-- Why arguments cannot be used, or that help was asked for. -/
inductive UsageProblem where
  | helpAsked
  | ambiguous (argument : String) (candidates : List String)
  | valueIgnored (option value : String)
  | valueMissing (option : String)
  | notAnInteger (option value : String)
  | unknownChoice (name value : String) (choices : List String)
  | required (names : List String)
  | unrecognized (arguments : List String)
  deriving DecidableEq

def UsageProblem.message : UsageProblem → String
  | helpAsked => ""
  | ambiguous a candidates =>
    "ambiguous option: " ++ a ++ " could match " ++ joinTexts ", " candidates
  | valueIgnored o v => "argument " ++ o ++ ": ignored explicit argument " ++ Text.quoted v
  | valueMissing o => "argument " ++ o ++ ": expected one argument"
  | notAnInteger o v => "argument " ++ o ++ ": invalid int value: " ++ Text.quoted v
  | unknownChoice n v choices =>
    "argument " ++ n ++ ": invalid choice: " ++ Text.quoted v ++ " (choose from "
      ++ joinTexts ", " (choices.map Text.quoted) ++ ")"
  | required names => "the following arguments are required: " ++ joinTexts ", " names
  | unrecognized as => "unrecognized arguments: " ++ joinTexts " " as

/-- A problem, and the program or command whose arguments have it. -/
structure UsageError where
  program : String
  problem : UsageProblem
  deriving DecidableEq

def UsageError.message (e : UsageError) : String :=
  e.program ++ ": error: " ++ e.problem.message

end ApiTools.CommandLine
