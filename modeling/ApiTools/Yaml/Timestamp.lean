/-
  ApiTools.Yaml.Timestamp
  ───────────────────────
  **TIMESTAMPS.**

  A timestamp is a day, and perhaps a time of day with a fraction of a second
  and a distance from UTC.  Reading it checks the form only; whether the day
  and the time exist shows when the value is made.
-/
import ApiTools.Fault
import ApiTools.Number.Reader

namespace ApiTools.Yaml

/-! ## §1. The parts. -/

/-- The distance from UTC of a place. -/
structure Zone where
  west : Bool
  hours : Nat
  minutes : Nat

/-- A time of day as it is written. -/
structure ClockTime where
  hour : Nat
  minute : Nat
  second : Nat
  microsecond : Nat
  zone : Option Zone

/-- A day, and perhaps a time, as they are written. -/
structure Timestamp where
  year : Nat
  month : Nat
  day : Nat
  /-- do month and day have two digits each? -/
  padded : Bool
  time : Option ClockTime

namespace Timestamp

/-! ## §2. Reading. -/

/-- The number that ASCII digits denote. -/
def number (cs : List Char) : Nat := cs.foldl (fun n c => n * 10 + (c.toNat - 48)) 0

/-- A number of so many digits, and what follows it. -/
def digits? (least most : Nat) (cs : List Char) : Option (Nat × Nat × List Char) :=
  let ds := (cs.take most).takeWhile Char.isDigit
  if least ≤ ds.length then some (number ds, ds.length, cs.drop ds.length) else none

/-- What follows a character, if the text starts with it. -/
def after? (c : Char) : List Char → Option (List Char)
  | d :: rest => if d = c then some rest else none
  | [] => none

/-- The microseconds that the digits of a fraction denote; digits beyond the sixth do not
count. -/
def microseconds (ds : List Char) : Nat :=
  let six := ds.take 6
  number six * Nat.pow 10 (6 - six.length)

/-- The distance from UTC at the end of a text. -/
def zone? (cs : List Char) : Option (Option Zone) :=
  match cs with
  | [] => some none
  | _ =>
    match cs.dropWhile fun c => c == ' ' || c == '\t' with
    | ['Z'] => some (some ⟨false, 0, 0⟩)
    | sign :: rest => do
      if sign ≠ '+' ∧ sign ≠ '-' then none
      else
        let (hours, _, rest) ← digits? 1 2 rest
        match rest with
        | [] => some (some ⟨sign == '-', hours, 0⟩)
        | _ =>
          let rest ← after? ':' rest
          let (minutes, _, rest) ← digits? 2 2 rest
          if rest.isEmpty then some (some ⟨sign == '-', hours, minutes⟩) else none
    | [] => none

/-- The time of day at the end of a text. -/
def clockTime? (cs : List Char) : Option ClockTime := do
  let (hour, _, cs) ← digits? 1 2 cs
  let cs ← after? ':' cs
  let (minute, _, cs) ← digits? 2 2 cs
  let cs ← after? ':' cs
  let (second, _, cs) ← digits? 2 2 cs
  let (fraction, cs) :=
    match cs with
    | '.' :: rest => (rest.takeWhile Char.isDigit, rest.dropWhile Char.isDigit)
    | _ => ([], cs)
  let zone ← zone? cs
  some { hour, minute, second, microsecond := microseconds fraction, zone }

/-- What separates the day from the time, and what follows it. -/
def afterDay? (cs : List Char) : Option (List Char) :=
  match cs with
  | 'T' :: rest => some rest
  | 't' :: rest => some rest
  | c :: rest =>
    if c = ' ' ∨ c = '\t' then some (rest.dropWhile fun d => d == ' ' || d == '\t') else none
  | [] => none

/-- Reads a timestamp. -/
def read? (cs : List Char) : Option Timestamp := do
  let (year, _, cs) ← digits? 4 4 cs
  let cs ← after? '-' cs
  let (month, monthDigits, cs) ← digits? 1 2 cs
  let cs ← after? '-' cs
  let (day, dayDigits, cs) ← digits? 1 2 cs
  let padded := monthDigits == 2 && dayDigits == 2
  match cs with
  | [] => some { year, month, day, padded, time := none }
  | _ =>
    let cs ← afterDay? cs
    let time ← clockTime? cs
    some { year, month, day, padded, time := some time }

/-! ## §3. Days and times that exist. -/

/-- A day that exists. -/
def date (t : Timestamp) : Except CalendarProblem Date :=
  if t.year = 0 then .error (.year 0)
  else if t.month = 0 ∨ 12 < t.month then .error .month
  else if t.day = 0 ∨ daysInMonth t.year t.month < t.day then .error .day
  else .ok { year := t.year, month := t.month, day := t.day }

/-- The distance from UTC in minutes, which is less than a day. -/
def offset : Option Zone → Except CalendarProblem (Option Int)
  | none => .ok none
  | some z =>
    let minutes := z.hours * 60 + z.minutes
    if 1440 ≤ minutes then .error (.offset z.hours z.minutes z.west)
    else .ok (some (if z.west then -(minutes : Int) else minutes))

/-- A time of day that exists. -/
def dateTime (t : Timestamp) (c : ClockTime) : Except CalendarProblem DateTime := do
  let offset ← offset c.zone
  let date ← t.date
  if 24 ≤ c.hour then .error .hour
  else if 60 ≤ c.minute then .error .minute
  else if 60 ≤ c.second then .error .second
  else
    .ok { date, hour := c.hour, minute := c.minute, second := c.second
          microsecond := c.microsecond, offset }

/-- The value of a timestamp. -/
def value (t : Timestamp) : Except CalendarProblem Value :=
  match t.time with
  | none => t.date.map .date
  | some c => (t.dateTime c).map .datetime

end Timestamp

end ApiTools.Yaml
