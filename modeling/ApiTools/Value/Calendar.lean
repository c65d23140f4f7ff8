/-
  ApiTools.Value.Calendar
  ───────────────────────
  **DAYS AND TIMES OF THE GREGORIAN CALENDAR.**

  Days run from year 1 to year 9999.  A time of day may state its distance
  from UTC; two times that do are the same when they are the same instant.
-/

namespace ApiTools

/-- A day of the Gregorian calendar. -/
structure Date where
  year : Nat
  month : Nat
  day : Nat
  deriving DecidableEq

/-- A day and a time of day; `offset` is the distance from UTC in minutes, if the time states
one. -/
structure DateTime where
  date : Date
  hour : Nat
  minute : Nat
  second : Nat
  microsecond : Nat
  offset : Option Int
  deriving DecidableEq

/-! ## §1. Days. -/

def isLeapYear (year : Nat) : Bool :=
  year % 4 == 0 && (year % 100 != 0 || year % 400 == 0)

def daysInMonth (year month : Nat) : Nat :=
  if month = 2 then (if isLeapYear year then 29 else 28)
  else if month = 4 ∨ month = 6 ∨ month = 9 ∨ month = 11 then 30
  else 31

namespace Date

/-- The number of days before this one since the start of year 1. -/
def ordinal (d : Date) : Nat :=
  let y := d.year - 1
  let months := (List.range (d.month - 1)).map fun m => daysInMonth d.year (m + 1)
  y * 365 + y / 4 - y / 100 + y / 400 + months.foldl (· + ·) 0 + d.day - 1

end Date

/-! ## §2. Times. -/

namespace DateTime

/-- Microseconds since the start of year 1, as the time's own clock shows them. -/
def clock (t : DateTime) : Int :=
  ((((t.date.ordinal * 24 + t.hour) * 60 + t.minute) * 60 + t.second) * 1000000 + t.microsecond
    : Nat)

/-- The same instant, or, where neither states an offset, the same reading of the clock. -/
def sameInstant (s t : DateTime) : Bool :=
  match s.offset, t.offset with
  | none, none => s == t
  | some a, some b => s.clock - a * 60000000 == t.clock - b * 60000000
  | _, _ => false

end DateTime

/-! ## §3. Texts. -/

/-- A number with zeros in front, up to a width. -/
def zeroPadded (width n : Nat) : String :=
  let ds := Nat.toDigits 10 n
  String.ofList (List.replicate (width - ds.length) '0' ++ ds)

/-- Year, month and day, joined by hyphens. -/
def Date.text (d : Date) : String :=
  zeroPadded 4 d.year ++ "-" ++ zeroPadded 2 d.month ++ "-" ++ zeroPadded 2 d.day

/-- An offset from UTC, as `+02:00`. -/
def offsetText (minutes : Int) : String :=
  (if minutes < 0 then "-" else "+") ++ zeroPadded 2 (minutes.natAbs / 60) ++ ":"
    ++ zeroPadded 2 (minutes.natAbs % 60)

/-- Day and time with a separator between; microseconds only when there are any, and the offset
if the time states one. -/
def DateTime.text (separator : String) (t : DateTime) : String :=
  t.date.text ++ separator ++ zeroPadded 2 t.hour ++ ":" ++ zeroPadded 2 t.minute ++ ":"
    ++ zeroPadded 2 t.second
    ++ (if t.microsecond = 0 then "" else "." ++ zeroPadded 6 t.microsecond)
    ++ (match t.offset with
        | none => ""
        | some m => offsetText m)

end ApiTools
