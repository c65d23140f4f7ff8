/-
  ApiTools.Value.Text
  ───────────────────
  **VALUES AS TEXT.**

  `Value.quoted` writes a value so that its kind can be told: texts in quotes,
  lists in brackets, mappings in braces.  `Value.text` is the same but for
  texts, days and times, which stand for themselves, a torn text with a
  replacement character for every half.  A whole number of more than 4300 digits
  cannot be said: values with one are not `isSayable`.
-/
import ApiTools.Number.Reader
import ApiTools.Value.Basic
import ApiTools.Text.Quoted

namespace ApiTools

/-- Texts with a separator between. -/
def joinTexts (separator : String) (ts : List String) : String := separator.intercalate ts

/-- The arguments that name a day. -/
def Date.arguments (d : Date) : List String := [toString d.year, toString d.month, toString d.day]

/-- A distance from UTC as days and seconds, of which the seconds are never negative. -/
def offsetArguments (minutes : Int) : String :=
  if minutes = 0 then "datetime.timezone.utc"
  else
    let seconds := minutes * 60
    let days := Int.fdiv seconds 86400
    let rest := Int.fmod seconds 86400
    let parts := (if days = 0 then [] else ["days=" ++ toString days])
      ++ (if rest = 0 then [] else ["seconds=" ++ toString rest])
    "datetime.timezone(datetime.timedelta(" ++ joinTexts ", " parts ++ "))"

/-- The arguments that name a time: seconds and microseconds only as far as they are needed. -/
def DateTime.arguments (t : DateTime) : List String :=
  t.date.arguments ++ [toString t.hour, toString t.minute]
    ++ (if t.second = 0 ∧ t.microsecond = 0 then [] else [toString t.second])
    ++ (if t.microsecond = 0 then [] else [toString t.microsecond])
    ++ (match t.offset with
        | none => []
        | some m => ["tzinfo=" ++ offsetArguments m])

namespace Value

mutual

/-- A value with its kind shown. -/
def quoted : Value → String
  | null => "None"
  | bool b => if b then "True" else "False"
  | int i => toString i
  | float x => Double.plain.render x
  | str s => Text.quoted s
  | torn t => Text.quotedTorn t
  | list xs => "[" ++ joinTexts ", " (quotedItems xs) ++ "]"
  | mapping es => "\x7b" ++ joinTexts ", " (quotedEntries es) ++ "\x7d"
  | tuple xs =>
    match quotedItems xs with
    | [only] => "(" ++ only ++ ",)"
    | texts => "(" ++ joinTexts ", " texts ++ ")"
  | bytes bs => Text.quotedOctets bs
  | date d => "datetime.date(" ++ joinTexts ", " d.arguments ++ ")"
  | datetime t => "datetime.datetime(" ++ joinTexts ", " t.arguments ++ ")"
  | set xs =>
    match quotedItems xs with
    | [] => "set()"
    | texts => "\x7b" ++ joinTexts ", " texts ++ "\x7d"

/-- The items of a list, each with its kind shown. -/
def quotedItems : List Value → List String
  | [] => []
  | v :: vs => quoted v :: quotedItems vs

/-- The entries of a mapping, each as key, colon and value. -/
def quotedEntries : List (Value × Value) → List String
  | [] => []
  | (k, v) :: es => (quoted k ++ ": " ++ quoted v) :: quotedEntries es

end

/-- A value as text: a text is its own. -/
def text : Value → String
  | str s => s
  | torn t => t.shown
  | date d => d.text
  | datetime t => t.text " "
  | v => v.quoted

mutual

/-- Can a value be made a text: are its whole numbers short, at whatever depth? -/
def isSayable : Value → Bool
  | int i => decide (Number.Short i)
  | list xs => areSayable xs
  | mapping es => entriesAreSayable es
  | tuple xs => areSayable xs
  | set xs => areSayable xs
  | _ => true

def areSayable : List Value → Bool
  | [] => true
  | v :: vs => isSayable v && areSayable vs

def entriesAreSayable : List (Value × Value) → Bool
  | [] => true
  | (k, v) :: es => isSayable k && isSayable v && entriesAreSayable es

end

end Value

end ApiTools
