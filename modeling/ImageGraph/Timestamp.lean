import ImageGraph.Decimal.Reading
import ImageGraph.Text.Blank

/-!
Moments in universal time, to the nanosecond. They are written in the internet date and time format
and read from it leniently: blanks may stand between the parts, and a part may have fewer digits.
-/

namespace ImageGraph

structure Timestamp where
  /-- Days since the first of January 1970. -/
  day : Int
  /-- Seconds since midnight. -/
  second : Nat
  /-- In a leap second a whole second is counted on top. -/
  nanos : Nat
  deriving Repr, DecidableEq

namespace Timestamp

def epoch : Timestamp := ⟨0, 0, 0⟩

/-- A calendar date. -/
structure Date where
  year : Int
  month : Nat
  day : Nat

/-- The day number of a date. Years are counted from March, so that a leap day comes last. -/
def Date.toDay (d : Date) : Int :=
  let year := if d.month ≤ 2 then d.year - 1 else d.year
  let month := (d.month + 9) % 12
  let inYear := (153 * month + 2) / 5 + d.day - 1
  let inEra := (year % 400) * 365 + year % 400 / 4 - year % 400 / 100 + inYear
  year / 400 * 146097 + inEra - 719468

/-- The date of a day number. -/
def Date.ofDay (day : Int) : Date :=
  let inEra := ((day + 719468) % 146097).toNat
  let yearOfEra := (inEra - inEra / 1460 + inEra / 36524 - inEra / 146096) / 365
  let inYear := inEra - (365 * yearOfEra + yearOfEra / 4 - yearOfEra / 100)
  let fromMarch := (5 * inYear + 2) / 153
  let month := (fromMarch + 2) % 12 + 1
  let year := yearOfEra + (day + 719468) / 146097 * 400
  ⟨if month ≤ 2 then year + 1 else year, month, inYear - (153 * fromMarch + 2) / 5 + 1⟩

def isLeapYear (year : Int) : Bool :=
  year % 4 = 0 && (year % 100 ≠ 0 || year % 400 = 0)

def daysInMonth (year : Int) (month : Nat) : Nat :=
  if month = 2 then if isLeapYear year then 29 else 28
  else if month ∈ [4, 6, 9, 11] then 30
  else 31

/-- Whether the calendar has the date. -/
def Date.isValid (d : Date) : Bool :=
  1 ≤ d.month && d.month ≤ 12 && 1 ≤ d.day && d.day ≤ daysInMonth d.year d.month

/-- The first and the last year that a timestamp may fall in. -/
def years : Int × Int := (-262143, 262142)

def inYears (year : Int) : Bool :=
  years.1 ≤ year && year ≤ years.2

/-- One to `width` digits. -/
def digits? (width : Nat) (s : List Char) : Option (Nat × List Char) :=
  match (s.take width).takeWhile Char.isDigit with
  | [] => none
  | digits => some (Decimal.value digits, s.drop digits.length)

/-- A number of at most two digits after blanks. -/
def part? (s : List Char) : Option (Nat × List Char) :=
  digits? 2 (Text.trimStart s)

/-- A given character. -/
def mark? (c : Char) : List Char → Option (List Char)
  | d :: s => if c = d then some s else none
  | [] => none

/-- A year: four digits at most, or any number of them after a sign. -/
def year? (s : List Char) : Option (Int × List Char) :=
  match Text.trimStart s with
  | '-' :: s => (digits? s.length s).map fun (n, s) => (-n, s)
  | '+' :: s => (digits? s.length s).map fun (n, s) => (n, s)
  | s => (digits? 4 s).map fun (n, s) => (n, s)

def date? (s : List Char) : Option (Date × List Char) := do
  let (year, s) ← year? s
  let s ← mark? '-' (Text.trimStart s)
  let (month, s) ← part? s
  let s ← mark? '-' (Text.trimStart s)
  let (day, s) ← part? s
  if inYears year && Date.isValid ⟨year, month, day⟩ then some (⟨year, month, day⟩, s) else none

/-- The nanoseconds after a point; digits beyond the ninth do not count. -/
def nanos? : List Char → Option (Nat × List Char)
  | '.' :: s =>
    match s.takeWhile Char.isDigit with
    | [] => none
    | digits =>
      some (Decimal.value ((digits ++ List.replicate 9 '0').take 9), s.drop digits.length)
  | s => some (0, s)

def nanosPerSecond : Nat := 1000000000

/-- The seconds and nanoseconds of a time of day. The sixtieth second of a minute is a leap
second. -/
def time? (s : List Char) : Option ((Nat × Nat) × List Char) := do
  let (hour, s) ← part? s
  let s ← mark? ':' (Text.trimStart s)
  let (minute, s) ← part? s
  let s ← mark? ':' (Text.trimStart s)
  let (second, s) ← part? s
  let (nanos, s) ← nanos? s
  if 23 < hour ∨ 59 < minute ∨ 60 < second then none
  else if second = 60 then some ((hour * 3600 + minute * 60 + 59, nanos + nanosPerSecond), s)
  else some ((hour * 3600 + minute * 60 + second, nanos), s)

/-- Exactly two digits. -/
def twoDigits? : List Char → Option (Nat × List Char)
  | a :: b :: s => if a.isDigit && b.isDigit then some (Decimal.value [a, b], s) else none
  | _ => none

/-- Hours and minutes, with colons or blanks or nothing between them, as seconds. -/
def hoursMinutes? (s : List Char) : Option (Nat × List Char) := do
  let (hours, s) ← twoDigits? s
  let (minutes, s) ← twoDigits? (s.dropWhile fun c => c = ':' || Text.isBlank c)
  if 59 < minutes ∨ 23 < hours then none else some (hours * 3600 + minutes * 60, s)

/-- The distance to universal time in seconds. -/
def offset? : List Char → Option (Int × List Char)
  | 'Z' :: s | 'z' :: s => some (0, s)
  | '+' :: s => (hoursMinutes? s).map fun (n, s) => ((n : Int), s)
  | '-' :: s | '−' :: s => (hoursMinutes? s).map fun (n, s) => (-(n : Int), s)
  | a :: b :: c :: s =>
    if [a, b, c].map Char.toLower = ['u', 't', 'c'] then some (0, s) else none
  | _ => none

/-- The mark between a date and a time of day. -/
def between? : List Char → Option (List Char)
  | 'T' :: s | 't' :: s | ' ' :: s => some s
  | _ => none

/-- The moment that a text names. -/
def parse? (text : String) : Option Timestamp := do
  let (date, s) ← date? text.toList
  let ((second, nanos), s) ← time? (← between? s)
  let (offset, s) ← offset? (Text.trimStart s)
  let seconds : Int := second - offset
  let day := date.toDay + seconds / 86400
  if Text.trimStart s = [] ∧ inYears (Date.ofDay day).year then
    some ⟨day, (seconds % 86400).toNat, nanos⟩
  else none

/-- A number with zeros in front up to the given width. -/
def padded (width n : Nat) : String :=
  let digits := toString n
  String.ofList (List.replicate (width - digits.length) '0') ++ digits

/-- A year outside of four digits has a sign. -/
def yearText (year : Int) : String :=
  if 0 ≤ year ∧ year ≤ 9999 then padded 4 year.toNat
  else (if year < 0 then "-" else "+") ++ padded 4 year.natAbs

/-- The fraction of a second in thousands, as few groups of three digits as it takes. -/
def fractionText (nanos : Nat) : String :=
  if nanos = 0 then ""
  else if nanos % 1000000 = 0 then "." ++ padded 3 (nanos / 1000000)
  else if nanos % 1000 = 0 then "." ++ padded 6 (nanos / 1000)
  else "." ++ padded 9 nanos

def text (t : Timestamp) : String :=
  let date := Date.ofDay t.day
  let second := t.second % 60 + t.nanos / nanosPerSecond
  yearText date.year ++ "-" ++ padded 2 date.month ++ "-" ++ padded 2 date.day ++ "T" ++
    padded 2 (t.second / 3600) ++ ":" ++ padded 2 (t.second / 60 % 60) ++ ":" ++
    padded 2 second ++ fractionText (t.nanos % nanosPerSecond) ++ "Z"

end Timestamp

end ImageGraph
