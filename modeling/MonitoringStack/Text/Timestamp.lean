import MonitoringStack.Text.Blank

namespace MonitoringStack

def isLeapYear (year : Int) : Bool :=
  year % 4 = 0 && (year % 100 ≠ 0 || year % 400 = 0)

def daysInMonth (year : Int) (month : Nat) : Nat :=
  match month with
  | 2 => if isLeapYear year then 29 else 28
  | 4 | 6 | 9 | 11 => 30
  | _ => 31

/-- A moment in UTC to the nanosecond. Second 60 is a leap second. -/
structure Timestamp where
  year : Int
  month : Nat
  day : Nat
  hour : Nat
  minute : Nat
  second : Nat
  nanosecond : Nat
  year_mem : -262143 ≤ year ∧ year ≤ 262142
  month_mem : 1 ≤ month ∧ month ≤ 12
  day_mem : 1 ≤ day ∧ day ≤ daysInMonth year month
  hour_lt : hour < 24
  minute_lt : minute < 60
  second_le : second ≤ 60
  nanosecond_lt : nanosecond < 1000000000
deriving DecidableEq

namespace Timestamp

def ofParts? (year : Int) (month day hour minute second nanosecond : Nat) : Option Timestamp :=
  if h : (-262143 ≤ year ∧ year ≤ 262142) ∧ (1 ≤ month ∧ month ≤ 12) ∧
      (1 ≤ day ∧ day ≤ daysInMonth year month) ∧ hour < 24 ∧ minute < 60 ∧ second ≤ 60 ∧
      nanosecond < 1000000000 then
    some ⟨year, month, day, hour, minute, second, nanosecond, h.1, h.2.1, h.2.2.1, h.2.2.2.1,
      h.2.2.2.2.1, h.2.2.2.2.2.1, h.2.2.2.2.2.2⟩
  else none

def nextDay (year : Int) (month day : Nat) : Int × Nat × Nat :=
  if day < daysInMonth year month then (year, month, day + 1)
  else if month < 12 then (year, month + 1, 1)
  else (year + 1, 1, 1)

def previousDay (year : Int) (month day : Nat) : Int × Nat × Nat :=
  if 1 < day then (year, month, day - 1)
  else if 1 < month then (year, month - 1, daysInMonth year (month - 1))
  else (year - 1, 12, 31)

def minutesBefore? (t : Timestamp) (minutes : Int) : Option Timestamp :=
  let m : Int := t.hour * 60 + t.minute - minutes
  let (year, month, day) :=
    if m < 0 then previousDay t.year t.month t.day
    else if m < 1440 then (t.year, t.month, t.day)
    else nextDay t.year t.month t.day
  let m := (m % 1440).toNat
  ofParts? year month day (m / 60) (m % 60) t.second t.nanosecond

def padded (width n : Nat) : String :=
  let s := toString n
  String.ofList (List.replicate (width - s.length) '0') ++ s

def yearText (year : Int) : String :=
  if 0 ≤ year ∧ year ≤ 9999 then padded 4 year.toNat
  else (if year < 0 then "-" else "+") ++ padded 4 year.natAbs

def secondsText (t : Timestamp) : String :=
  yearText t.year ++ "-" ++ padded 2 t.month ++ "-" ++ padded 2 t.day ++ "T" ++
    padded 2 t.hour ++ ":" ++ padded 2 t.minute ++ ":" ++ padded 2 t.second

/-- As many places as the fraction needs, in groups of three. -/
def fractionText (nanosecond : Nat) : String :=
  if nanosecond = 0 then ""
  else if nanosecond % 1000000 = 0 then "." ++ padded 3 (nanosecond / 1000000)
  else if nanosecond % 1000 = 0 then "." ++ padded 6 (nanosecond / 1000)
  else "." ++ padded 9 nanosecond

def text (t : Timestamp) : String :=
  t.secondsText ++ fractionText t.nanosecond ++ "Z"

def wholeSecondsText (t : Timestamp) : String := t.secondsText ++ "Z"

inductive Flaw where
  | tooShort
  | tooLong
  | invalid
  | outOfRange
  -- The distance from UTC leads out of the years that there are.
  | impossible
deriving DecidableEq

def Flaw.text : Flaw → String
  | .tooShort => "premature end of input"
  | .tooLong => "trailing input"
  | .invalid => "input contains invalid characters"
  | .outOfRange => "input is out of range"
  | .impossible => "no possible date and time matching input"

namespace Reader

open Text (dropBlanks)

def value (digits : List Char) : Nat :=
  digits.foldl (fun n c => n * 10 + (c.toNat - 48)) 0

def digits (width : Nat) (cs : List Char) : Except Flaw (List Char × List Char) :=
  match (cs.take width).takeWhile Char.isDigit with
  | [] => .error (if cs.isEmpty then .tooShort else .invalid)
  | ds => .ok (ds, cs.drop ds.length)

def mark (c : Char) : List Char → Except Flaw (List Char)
  | d :: rest => if c = d then .ok rest else .error .invalid
  | [] => .error .tooShort

def yearPart (cs : List Char) : Except Flaw (Int × List Char) := do
  let cs := dropBlanks cs
  let (sign, width, cs) := match cs with
    | '-' :: rest => ((-1 : Int), rest.length, rest)
    | '+' :: rest => (1, rest.length, rest)
    | rest => (1, 4, rest)
  let (ds, cs) ← digits width cs
  let n := sign * value ds
  if -0x80000000 ≤ n ∧ n ≤ 0x7FFFFFFF then return (n, cs) else throw Flaw.outOfRange

def twoDigits (low high : Nat) (cs : List Char) : Except Flaw (Nat × List Char) := do
  let (ds, cs) ← digits 2 (dropBlanks cs)
  if low ≤ value ds ∧ value ds ≤ high then return (value ds, cs) else throw Flaw.outOfRange

def fractionPart : List Char → Except Flaw (Nat × List Char)
  | '.' :: rest => do
    let (ds, rest) ← digits 9 rest
    return (value ds * Nat.pow 10 (9 - ds.length), rest.dropWhile Char.isDigit)
  | cs => .ok (0, cs)

def isOffsetBreak (c : Char) : Bool := c = ':' || Text.isBlank c

def pair : List Char → Except Flaw ((Char × Char) × List Char)
  | a :: b :: rest => if a.isDigit && b.isDigit then .ok ((a, b), rest) else .error .invalid
  | [a] => .error (if a.toNat < 0x80 then .tooShort else .invalid)
  | [] => .error .tooShort

def offsetPart (cs : List Char) : Except Flaw (Int × List Char) := do
  match cs with
  | [] => throw Flaw.tooShort
  | c :: rest =>
    if c = 'Z' || c = 'z' then return (0, rest)
    else if (cs.take 3).map Char.toUpper = ['U', 'T', 'C'] then return (0, cs.drop 3)
    else if c = '+' || c = '-' || c = '−' then
      let ((a, b), rest) ← pair rest
      let ((d, e), rest) ← pair (rest.dropWhile isOffsetBreak)
      if '6' ≤ d then throw Flaw.outOfRange
      let n : Int := value [a, b] * 60 + value [d, e]
      return (if c = '+' then n else -n, rest)
    else throw Flaw.invalid

def dateBreak : List Char → Except Flaw (List Char)
  | 'T' :: rest | 't' :: rest | ' ' :: rest => .ok rest
  | [] => .error .tooShort
  | _ => .error .invalid

end Reader

open Text (dropBlanks) in
open Reader in
/-- A date, a time and a distance from UTC. Blanks may stand before each part, and a blank may
stand for the `T`. -/
def read (text : String) : Except Flaw Timestamp := do
  let (year, cs) ← yearPart text.toList
  let cs ← mark '-' (dropBlanks cs)
  let (month, cs) ← twoDigits 1 12 cs
  let cs ← mark '-' (dropBlanks cs)
  let (day, cs) ← twoDigits 1 31 cs
  let cs ← dateBreak cs
  let (hour, cs) ← twoDigits 0 23 cs
  let cs ← mark ':' (dropBlanks cs)
  let (minute, cs) ← twoDigits 0 59 cs
  let cs ← mark ':' (dropBlanks cs)
  let (second, cs) ← twoDigits 0 60 cs
  let (nanosecond, cs) ← fractionPart cs
  let (offset, cs) ← offsetPart (dropBlanks cs)
  if !(dropBlanks cs).isEmpty then throw Flaw.tooLong
  match ofParts? year month day hour minute second nanosecond with
  | none => throw Flaw.outOfRange
  | some t =>
    if 1440 ≤ offset.natAbs then throw Flaw.outOfRange
    match t.minutesBefore? offset with
    | none => throw Flaw.impossible
    | some t => return t

def read? (text : String) : Option Timestamp := (read text).toOption

def flaw? (text : String) : Option Flaw :=
  match read text with
  | .ok _ => none
  | .error flaw => some flaw

end Timestamp

end MonitoringStack
