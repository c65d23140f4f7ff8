/-
  ApiTools.Fault
  ──────────────
  **WHAT CAN GO WRONG.**

  A `Fault` says why an operation has no answer: a setting is missing, a text
  is malformed, a value has the wrong kind.  Each is a cause with the data
  that belong to it; the wording is in `Fault.message` alone.
-/
import ApiTools.Value.Text
import ApiTools.Json.Problem
import ApiTools.Json.Writer
import ApiTools.Text.Encoding
import ApiTools.Http.UrlProblem

namespace ApiTools

/-! ## §1. Values of the wrong kind. -/

/-- A use that a value of some kind does not admit. -/
inductive Misuse where
  /-- taking a part of a value that has none -/
  | noParts (kind : String)
  /-- taking a named part of a value whose parts are numbered -/
  | numberedParts (kind : String)
  /-- going through the items of a value that has none -/
  | noItems (kind : String)
  /-- asking what a value contains that contains nothing -/
  | noMembers (kind : String)
  /-- using a value as a key that cannot be one -/
  | noKey (kind : String)
  /-- storing a part in a value that takes none -/
  | noStoring (kind : String)
  /-- looking for names in braces in something that is no text -/
  | noTemplate (kind : String)
  /-- splitting or joining something that is no text -/
  | noText (kind : String)
  /-- writing a value as JSON that JSON lacks -/
  | unwritable (problem : Json.WriteProblem)
  deriving DecidableEq

/-- The wording of a whole number that is too long to be written. -/
def tooLongMessage : String :=
  "Exceeds the limit (4300 digits) for integer string conversion; "
    ++ "use sys.set_int_max_str_digits() to increase the limit"

def Misuse.message : Misuse → String
  | noParts k => "'" ++ k ++ "' object is not subscriptable"
  | numberedParts k =>
    if k = "str" then "string indices must be integers, not 'str'"
    else (if k = "bytes" then "byte" else k) ++ " indices must be integers or slices, not str"
  | noItems k => "'" ++ k ++ "' object is not iterable"
  | noMembers k => "argument of type '" ++ k ++ "' is not iterable"
  | noKey k => "unhashable type: '" ++ k ++ "'"
  | noStoring k =>
    if k = "list" then "list indices must be integers or slices, not str"
    else "'" ++ k ++ "' object does not support item assignment"
  | noTemplate k =>
    if k = "bytes" then "cannot use a string pattern on a bytes-like object"
    else "expected string or bytes-like object, got '" ++ k ++ "'"
  | noText _ => "a bytes-like object is required, not 'str'"
  | unwritable (.unwritable k) => "Object of type " ++ k ++ " is not JSON serializable"
  | unwritable (.unwritableKey k) =>
    "keys must be str, int, float, bool or None, not " ++ k
  | unwritable .notFinite => "Out of range float values are not JSON compliant"
  | unwritable .tooManyDigits => tooLongMessage
  | unwritable .tooDeep => "maximum recursion depth exceeded"

/-! ## §2. Texts and values that are refused. -/

/-- Why a day or a time does not exist. -/
inductive CalendarProblem where
  | year (n : Nat)
  | month
  | day
  | hour
  | minute
  | second
  | offset (hours minutes : Nat) (west : Bool)
  deriving DecidableEq

/-- A length of time as the words that name it. -/
def durationText (hours minutes : Nat) (west : Bool) : String :=
  let total : Int := ((hours * 60 + minutes) * 60 : Nat)
  let seconds := if west then -total else total
  let days := Int.fdiv seconds 86400
  let rest := Int.fmod seconds 86400
  let parts := (if days = 0 then [] else ["days=" ++ toString days])
    ++ (if rest = 0 then [] else ["seconds=" ++ toString rest])
  "datetime.timedelta(" ++ joinTexts ", " parts ++ ")"

def CalendarProblem.message : CalendarProblem → String
  | year n => "year " ++ toString n ++ " is out of range"
  | month => "month must be in 1..12"
  | day => "day is out of range for month"
  | hour => "hour must be in 0..23"
  | minute => "minute must be in 0..59"
  | second => "second must be in 0..59"
  | offset h m w =>
    "offset must be a timedelta strictly between -timedelta(hours=24) and timedelta(hours=24), not "
      ++ durationText h m w ++ "."

/-- A value or text that an operation refuses. -/
inductive Refusal where
  | settingMissing (name : String)
  | integrationWithoutType (data : Value)
  | customWithoutName (id : Value)
  | customWithoutId (name : String)
  | notAnInteger (base : Nat) (text : String)
  | tooManyDigits (count : Nat)
  | notADecimal (text : String)
  | pairLength (index length : Nat)
  | calendar (problem : CalendarProblem)
  | unknownScheme (scheme url : String)
  | notFinite
  | notWritten
  | notAList (file : String)
  | argumentNotJson (name : String) (problem : Json.Malformed)
  | noCredential
  | noSuchCharacter
  | negativeConcurrency
  | nulInPath

def Refusal.message : Refusal → String
  | settingMissing name => name ++ " is not set"
  | integrationWithoutType data => "Integration has no type: " ++ data.quoted
  | customWithoutName id => "Custom integration " ++ id.quoted ++ " has no name"
  | customWithoutId name => "Custom integration " ++ name ++ " requires an integration id"
  | notAnInteger base t =>
    "invalid literal for int() with base " ++ toString base ++ ": " ++ Text.quoted t
  | tooManyDigits count =>
    "Exceeds the limit (4300 digits) for integer string conversion: value has " ++ toString count
      ++ " digits; use sys.set_int_max_str_digits() to increase the limit"
  | notADecimal t => "could not convert string to float: " ++ Text.quoted t
  | pairLength index length =>
    "dictionary update sequence element #" ++ toString index ++ " has length " ++ toString length
      ++ "; 2 is required"
  | calendar problem => problem.message
  | unknownScheme scheme url =>
    "Scheme " ++ Text.quoted scheme ++ " is not recognized in reference URL: " ++ url
  | notFinite => "Out of range float values are not JSON compliant"
  | notWritten => tooLongMessage
  | notAList file => "Integrations file must contain a JSON list: " ++ file
  | argumentNotJson name problem => "--" ++ name ++ " is not valid JSON: " ++ problem.message
  | noCredential => "A proxy credential is required (--token or $PROXY_TOKEN)"
  | noSuchCharacter => "chr() arg not in range(0x110000)"
  | negativeConcurrency => "Semaphore initial value must be >= 0"
  | nulInPath => "embedded null byte"

/-! ## §3. Files. -/

/-- Why a file cannot be read. -/
inductive FileProblem where
  | missing
  | isDirectory
  | notDirectory
  deriving DecidableEq

def FileProblem.message : FileProblem → String
  | missing => "[Errno 2] No such file or directory"
  | isDirectory => "[Errno 21] Is a directory"
  | notDirectory => "[Errno 20] Not a directory"

/-- Why a specification gives no document. -/
inductive Unreadable where
  | json (problem : Json.Malformed)
  | yaml
  | notAMapping (kind : String)

def Unreadable.message : Unreadable → String
  | json problem => problem.message
  | yaml => "<yaml error>"
  | notAMapping kind => "expected a mapping, got " ++ kind

/-! ## §4. Faults. -/

inductive Fault where
  | toolNotFound (name : String)
  | specUnreadable (file : String) (reason : Unreadable)
  | refused (cause : Refusal)
  | malformedJson (problem : Json.Malformed)
  /-- a referenced file that is neither JSON nor YAML -/
  | unknownFormat
  /-- a referenced file that holds no mapping -/
  | notAMapping
  | missingKey (key : Value)
  | missingDirectory (name : String)
  | notOpened (problem : FileProblem) (path : String)
  | misuse (cause : Misuse)
  /-- an integration that is neither a standard nor a custom one -/
  | unknownIntegration
  /-- a use of a value by a name that values of its kind do not have -/
  | noFeature (kind feature : String)
  | unencodable (problem : Text.NotAscii)
  /-- half of a character in a text that has to be written as octets -/
  | torn
  | undecodable (problem : Text.Undecodable)
  /-- a reference that leads nowhere -/
  | unresolved
  /-- the proxy could not be reached -/
  | unreachable (reason : String)
  | unusableUrl (problem : Http.UrlProblem)
  /-- an item of an empty text was needed -/
  | emptyText
  /-- a number that no character has, and that is too large to be asked for -/
  | numberTooLarge
  /-- a value that contains itself -/
  | endless
  /-- a value that nests more deeply than the interpreter goes -/
  | tooDeep

/-- The fault of a value that cannot be written as JSON. -/
def Json.WriteProblem.fault : Json.WriteProblem → Fault
  | notFinite => .refused .notFinite
  | tooManyDigits => .refused .notWritten
  | tooDeep => .tooDeep
  | p => .misuse (.unwritable p)

/-- The wording of characters that are not ASCII. -/
def notAsciiMessage (p : Text.NotAscii) : String :=
  if p.count = 1 then
    "'ascii' codec can't encode character '" ++ String.ofList (Text.numericEscape p.first)
      ++ "' in position " ++ toString p.start ++ ": ordinal not in range(128)"
  else
    "'ascii' codec can't encode characters in position " ++ toString p.start ++ "-"
      ++ toString (p.start + p.count - 1) ++ ": ordinal not in range(128)"

def Fault.message : Fault → String
  | toolNotFound name => "No request found for action " ++ name
  | specUnreadable file reason =>
    "Failed to parse specification " ++ file ++ ": " ++ reason.message
  | refused cause => cause.message
  | malformedJson problem => problem.message
  | unknownFormat => "Could not detect format of spec string!"
  | notAMapping => ""
  | missingKey key => key.quoted
  | missingDirectory name => "Specification directory not found: " ++ name
  | notOpened problem path => problem.message ++ ": " ++ Text.quoted path
  | misuse cause => cause.message
  | unknownIntegration => "Unknown integration kind: dict"
  | noFeature kind feature => "'" ++ kind ++ "' object has no attribute '" ++ feature ++ "'"
  | unencodable problem => notAsciiMessage problem
  | torn => "surrogates not allowed"
  | undecodable problem => problem.message
  | unresolved => "Cannot resolve reference"
  | unreachable reason => reason
  | unusableUrl problem => problem.message
  | emptyText => "string index out of range"
  | numberTooLarge => "number too large for a character"
  | endless => "value contains itself"
  | tooDeep => "maximum recursion depth exceeded"

/-! ## §5. Work that may fail. -/

section Outcomes

variable {ε α β : Type}

@[simp] theorem ok_bind (a : α) (f : α → Except ε β) : (Except.ok a >>= f) = f a := rfl

@[simp] theorem error_bind (e : ε) (f : α → Except ε β) :
    (Except.error e >>= f) = .error e := rfl

@[simp] theorem map_ok (f : α → β) (a : α) : Except.map f (.ok a : Except ε α) = .ok (f a) :=
  rfl

@[simp] theorem map_error (f : α → β) (e : ε) :
    Except.map f (.error e : Except ε α) = .error e := rfl

@[simp] theorem toOption_ok (a : α) : (Except.ok a : Except ε α).toOption = some a := rfl

@[simp] theorem toOption_error (e : ε) : (Except.error e : Except ε α).toOption = none :=
  rfl

/-- Work in two steps has an answer exactly when both steps have one. -/
theorem bind_eq_ok {x : Except ε α} {f : α → Except ε β} {b : β} :
    (x >>= f) = .ok b ↔ ∃ a, x = .ok a ∧ f a = .ok b := by
  cases x <;> simp

/-- A changed answer is the change of an answer. -/
theorem map_eq_ok {x : Except ε α} {f : α → β} {b : β} :
    x.map f = .ok b ↔ ∃ a, x = .ok a ∧ f a = b := by
  cases x <;> simp

theorem map_eq_error {x : Except ε α} {f : α → β} {e : ε} : x.map f = .error e ↔ x = .error e := by
  cases x <;> simp

end Outcomes

end ApiTools
