/-
  ApiTools.CommandLine.Grammar
  ────────────────────────────
  **READING ARGUMENTS.**

  A grammar lists options, with or without a value, and at most one operand,
  which is one argument or a command with all arguments behind it.  A long
  option may be cut short as long as only one option starts like that, and its
  value may follow an equals sign.  Behind two hyphens there are no options.
-/
import ApiTools.CommandLine.Usage
import ApiTools.Number.Reader

namespace ApiTools.CommandLine

/-! ## §1. Grammars. -/

/-- What an option takes. -/
inductive Takes where
  | nothing
  /-- nothing, and it ends the reading -/
  | help
  | text
  | integer
  deriving DecidableEq

structure OptionRule where
  names : List String
  takes : Takes
  required : Bool
  deriving DecidableEq

/-- The name of an option in messages. -/
def OptionRule.title (o : OptionRule) : String := joinTexts "/" o.names

/-- The name under which the value of an option is kept. -/
def OptionRule.key (o : OptionRule) : String := o.names.getLastD ""

/-- What stands among the arguments without being an option. -/
inductive Operand where
  /-- one argument -/
  | single (name : String)
  /-- the name of a command, and all that follows it -/
  | command (name : String) (choices : List String)

def Operand.name : Operand → String
  | single n => n
  | command n _ => n

structure Grammar where
  program : String
  /-- options and the operand are asked for in this order; `none` stands for the operand -/
  rules : List (Option OptionRule)
  operand : Option Operand

def Grammar.options (g : Grammar) : List OptionRule := g.rules.filterMap id

/-- The names of all options with their rules, in order. -/
def Grammar.names (g : Grammar) : List (String × OptionRule) :=
  g.options.flatMap fun o => o.names.map fun n => (n, o)

/-! ## §2. Kinds of arguments. -/

/-- How a value is written to an option in one argument with it. -/
inductive Attached where
  | none
  /-- behind an equals sign -/
  | after (value : String)
  /-- behind the letter of the option -/
  | joined (value : List Char)

/-- An option among the arguments: its rule, the name by which it is meant, and the value that is
written to it. -/
structure Meant where
  rule : OptionRule
  name : String
  value : Attached

inductive Kind where
  | word
  /-- the two hyphens behind which there are no options -/
  | mark
  | option (meant : Meant)
  /-- what looks like an option but is none -/
  | unknown

def Kind.isOption : Kind → Bool
  | option _ => true
  | unknown => true
  | _ => false

/-- The text in front of the first equals sign and the text behind it. -/
def splitValue (cs : List Char) : List Char × Attached :=
  (cs.takeWhile (· != '='),
    match cs.dropWhile (· != '=') with
    | [] => .none
    | _ :: value => .after (String.ofList value))

/-- The options that a long argument may mean. -/
def longCandidates (g : Grammar) (cs : List Char) : List Meant :=
  let (start, value) := splitValue cs
  (g.names.filter fun n => start.isPrefixOf n.1.toList).map fun n => ⟨n.2, n.1, value⟩

/-- The options that a short argument may mean: a letter with its value behind it, or the start of
a name. -/
def shortCandidates (g : Grammar) (cs : List Char) : List Meant :=
  g.names.filterMap fun n =>
    if n.1.toList = cs.take 2 then some ⟨n.2, n.1, .joined (cs.drop 2)⟩
    else if cs.isPrefixOf n.1.toList then some ⟨n.2, n.1, .none⟩
    else none

/-- Is an argument a number below zero? -/
def isNegative (cs : List Char) : Bool :=
  match cs with
  | '-' :: body =>
    let isDigit (c : Char) : Bool := (Text.digitValue? c).isSome
    let whole := body.takeWhile isDigit
    match body.dropWhile isDigit with
    | [] => !whole.isEmpty
    | '.' :: rest => !rest.isEmpty && rest.all isDigit
    | _ => false
  | _ => false

/-- The kind of an argument that is not behind two hyphens. -/
def kindOf (g : Grammar) (argument : String) : Except UsageProblem Kind :=
  let cs := argument.toList
  match cs with
  | '-' :: second :: _ =>
    let exactly (name : List Char) : Option OptionRule :=
      (g.names.find? fun n => n.1.toList == name).map (·.2)
    let (start, value) := splitValue cs
    match exactly cs, exactly start with
    | some rule, _ => .ok (.option ⟨rule, argument, .none⟩)
    | none, some rule => .ok (.option ⟨rule, String.ofList start, value⟩)
    | none, none =>
      match if second = '-' then longCandidates g cs else shortCandidates g cs with
      | [m] => .ok (.option m)
      | [] => .ok (if isNegative cs || cs.contains ' ' then .word else .unknown)
      | ms => .error (.ambiguous argument (ms.map (·.name)))
  | _ => .ok .word

/-- Arguments with their kinds. -/
abbrev Arguments := List (String × Kind)

/-- The kinds of all arguments. -/
def kinds (g : Grammar) : List String → Except UsageProblem Arguments
  | [] => .ok []
  | a :: as =>
    if a = "--" then .ok ((a, .mark) :: as.map fun a => (a, .word))
    else do
      let kind ← kindOf g a
      let others ← kinds g as
      .ok ((a, kind) :: others)

/-! ## §3. What the arguments say. -/

/-- What has been read: values under the keys of options, the operand, and what was not
recognized. -/
structure Found where
  values : List (String × String)
  operand : Option (List String)
  extras : List String

namespace Found

def empty : Found := ⟨[], none, []⟩

/-- The value of an option; the last one counts. -/
def value? (key : String) (f : Found) : Option String :=
  (List.find? (fun e => e.1 == key) f.values).map (·.2)

def has (key : String) (f : Found) : Bool := (f.value? key).isSome

def keep (key value : String) (f : Found) : Found := { f with values := (key, value) :: f.values }

def leave (arguments : List String) (f : Found) : Found :=
  { f with extras := f.extras ++ arguments }

end Found

/-- Takes an option with its value. -/
def take (rule : OptionRule) (value : String) (f : Found) : Except UsageProblem Found :=
  match rule.takes with
  | .help => .error .helpAsked
  | .integer =>
    match Number.readInt 10 value.toList with
    | .ok _ => .ok (f.keep rule.key value)
    | .error _ => .error (.notAnInteger rule.title value)
  | _ => .ok (f.keep rule.key value)

/-- Does an option take a value? -/
def OptionRule.isValued (o : OptionRule) : Bool := o.takes == .text || o.takes == .integer

/-- Takes the options that a short argument joins, the first of which has no value; letters that
are no option are left. -/
def takeJoined (g : Grammar) (rule : OptionRule) : List Char → Found → Except UsageProblem Found
  | [], f => take rule "" f
  | c :: cs, f =>
    if c = '-' then .error (.valueIgnored rule.title (String.ofList (c :: cs)))
    else
      match g.names.find? fun n => n.1.toList == ['-', c] with
      | some n =>
        if cs.head? = some '=' then .error (.valueIgnored n.2.title (String.ofList cs.tail))
        else
          match takeJoined g n.2 cs f with
          | .error .helpAsked => take rule "" f
          | .error p => .error p
          | .ok f => take rule "" f
      | none => take rule "" (f.leave [String.ofList ('-' :: c :: cs)])

/-- Takes the option at the front; gives the arguments behind it. -/
def takeOption (g : Grammar) (m : Meant) (behind : Arguments) (f : Found) :
    Except UsageProblem (Arguments × Found) :=
  let taken (value : String) : Except UsageProblem (Arguments × Found) :=
    (take m.rule value f).map fun f => (behind, f)
  match m.value with
  | .after value =>
    if m.rule.isValued then taken value else .error (.valueIgnored m.rule.title value)
  | .joined value =>
    if m.rule.isValued then taken (String.ofList value)
    else (takeJoined g m.rule value f).map fun f => (behind, f)
  | .none =>
    if m.rule.isValued then
      match behind with
      | (value, .word) :: behind => (take m.rule value f).map fun f => (behind, f)
      | _ => .error (.valueMissing m.rule.title)
    else taken ""

/-- How many arguments at the front an operand takes. -/
def operandLength (operand : Operand) (as : Arguments) : Nat :=
  let isMark (a : String × Kind) : Bool :=
    match a.2 with
    | .mark => true
    | _ => false
  let marks := (as.takeWhile isMark).length
  match as.drop marks with
  | (_, .word) :: behind =>
    match operand with
    | .single _ => marks + 1 + (behind.takeWhile isMark).length
    | .command _ _ => as.length
  | _ => 0

/-- Takes the operand at the front, if it is missing; gives the arguments behind it. -/
def takeOperand (g : Grammar) (as : Arguments) (f : Found) :
    Except UsageProblem (Arguments × Found) :=
  match g.operand, f.operand with
  | some operand, none =>
    let n := operandLength operand as
    let taken := (as.take n).map (·.1)
    if n = 0 then .ok (as, f)
    else
      match operand with
      | .single _ => .ok (as.drop n, { f with operand := some (taken.erase "--") })
      | .command name choices =>
        let command := taken.headD ""
        if choices.contains command then .ok (as.drop n, { f with operand := some taken })
        else .error (.unknownChoice name command choices)
  | _, _ => .ok (as, f)

/-- Reads arguments one after the other.  Each round takes an argument, so as much fuel as there
are arguments suffices. -/
def readFrom (g : Grammar) : Nat → Arguments → Found → Except UsageProblem Found
  | 0, _, f => .ok f
  | fuel + 1, as, f =>
    if as.any fun a => a.2.isOption then
      let words := as.takeWhile fun a => !a.2.isOption
      match takeOperand g as f with
      | .error p => .error p
      | .ok (rest, found) =>
        if words ≠ [] ∧ rest.length < as.length then readFrom g fuel rest found
        else
          let f := f.leave (words.map (·.1))
          match as.drop words.length with
          | (_, .option m) :: behind =>
            match takeOption g m behind f with
            | .error p => .error p
            | .ok (rest, f) => readFrom g fuel rest f
          | (a, _) :: behind => readFrom g fuel behind (f.leave [a])
          | [] => .ok f
    else
      (takeOperand g as f).map fun (rest, f) => f.leave (rest.map (·.1))

/-- The names of required options, and of the operand, that are missing. -/
def missing (g : Grammar) (f : Found) : List String :=
  g.rules.filterMap fun
    | some o => if o.required && !f.has o.key then some o.title else none
    | none =>
      match g.operand, f.operand with
      | some operand, none => some operand.name
      | _, _ => none

/-- Reads arguments; those that are not recognized are kept. -/
def Grammar.read (g : Grammar) (arguments : List String) : Except UsageProblem Found := do
  let as ← kinds g arguments
  let f ← readFrom g (as.length + 1) as Found.empty
  let names := missing g f
  if names = [] then .ok f else .error (.required names)

end ApiTools.CommandLine
