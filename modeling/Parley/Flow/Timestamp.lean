/-!
# Points in time

A `Timestamp` counts minutes from the start of 1970 in universal time, with seconds and nanoseconds
beside them; the second 60 is a leap second.  Texts give a date, a time and an offset.
-/

namespace Parley

/-- A point in time. -/
structure Timestamp where
  minutes : Int
  second : Nat
  nano : Nat
  deriving DecidableEq, Inhabited

namespace Timestamp

/-- The number of days from the start of 1970 to a date.  Years begin in March, so that the leap day
comes last; four hundred years have 146097 days. -/
def daysOfDate (year : Int) (month day : Nat) : Int :=
  let y := if month ≤ 2 then year - 1 else year
  let era := y.fdiv 400
  let yoe := (y - era * 400).toNat
  let shifted := (month + 9) % 12
  let doy := (153 * shifted + 2) / 5 + day - 1
  let doe := yoe * 365 + yoe / 4 - yoe / 100 + doy
  era * 146097 + doe - 719468

/-- The date that comes a number of days after the start of 1970. -/
def dateOfDays (days : Int) : Int × Nat × Nat :=
  let z := days + 719468
  let era := z.fdiv 146097
  let doe := (z - era * 146097).toNat
  let yoe := (doe - doe / 1460 + doe / 36524 - doe / 146096) / 365
  let doy := doe - (365 * yoe + yoe / 4 - yoe / 100)
  let shifted := (5 * doy + 2) / 153
  let day := doy - (153 * shifted + 2) / 5 + 1
  let month := if shifted < 10 then shifted + 3 else shifted - 9
  ((yoe : Int) + era * 400 + (if month ≤ 2 then 1 else 0), month, day)

def isLeapYear (year : Int) : Bool :=
  year % 4 = 0 && (year % 100 ≠ 0 || year % 400 = 0)

def daysInMonth (year : Int) (month : Nat) : Nat :=
  if month = 2 then (if isLeapYear year then 29 else 28)
  else if month = 4 ∨ month = 6 ∨ month = 9 ∨ month = 11 then 30
  else 31

/-! ### Reading -/

def ofDigits (ds : List Char) : Nat := ds.foldl (fun n c => 10 * n + (c.toNat - '0'.toNat)) 0

/-- Read one or two digits. -/
def twoDigits? : List Char → Option (Nat × List Char)
  | a :: b :: r =>
      if a.isDigit then
        if b.isDigit then some (ofDigits [a, b], r) else some (ofDigits [a], b :: r)
      else none
  | [a] => if a.isDigit then some (ofDigits [a], []) else none
  | [] => none

/-- Read a certain character, with blanks before and after it. -/
def sign? (c : Char) (cs : List Char) : Option (List Char) :=
  match cs.dropWhile Char.isWhitespace with
  | d :: r => if c = d then some (r.dropWhile Char.isWhitespace) else none
  | [] => none

/-- Read the parts of a second after a point. -/
def nanos? : List Char → Option (Nat × List Char)
  | '.' :: r =>
      let ds := r.takeWhile Char.isDigit
      if ds = [] then none
      else
        let kept := ds.take 9
        some (ofDigits kept * Nat.pow 10 (9 - kept.length), r.dropWhile Char.isDigit)
  | r => some (0, r)

/-- Read an offset in minutes. -/
def offset? (cs : List Char) : Option Int :=
  let word := cs.map Char.toUpper
  if word = ['Z'] ∨ word = ['U', 'T', 'C'] then some 0
  else
    match cs with
    | s :: a :: b :: r =>
        if (s = '+' ∨ s = '-') ∧ a.isDigit ∧ b.isDigit then
          let digits := r.dropWhile fun c => c = ':' || c.isWhitespace
          let sign : Int := if s = '-' then -1 else 1
          match digits with
          | [] => some (sign * (60 * ofDigits [a, b] : Nat))
          | [c, d] =>
              if c.isDigit ∧ d.isDigit ∧ ofDigits [c, d] < 60 ∧ ofDigits [a, b] < 24 then
                some (sign * (60 * ofDigits [a, b] + ofDigits [c, d] : Nat))
              else none
          | _ => none
        else none
    | _ => none

/-- Read a year: digits, with a sign before more than four. -/
def year? (cs : List Char) : Option (Int × List Char) :=
  let (neg, signed, r) := match cs with
    | '-' :: r => (true, true, r)
    | '+' :: r => (false, true, r)
    | r => (false, false, r)
  let ds := if signed then r.takeWhile Char.isDigit else (r.takeWhile Char.isDigit).take 4
  if ds = [] then none
  else some (if neg then -(ofDigits ds : Int) else ofDigits ds, r.drop ds.length)

/-- Read a point in time. -/
def parse? (text : String) : Option Timestamp := do
  let (year, r) ← year? text.toList
  let r ← sign? '-' r
  let (month, r) ← twoDigits? r
  let r ← sign? '-' r
  let (day, r) ← twoDigits? r
  let r ← match r with
    | c :: r => if c = 'T' ∨ c = 't' ∨ c = ' ' then some r else none
    | [] => none
  let (hour, r) ← twoDigits? r
  let r ← sign? ':' r
  let (minute, r) ← twoDigits? r
  let r ← sign? ':' r
  let (second, r) ← twoDigits? r
  let (nano, r) ← nanos? r
  let offset ← offset? (r.dropWhile Char.isWhitespace)
  if 1 ≤ month ∧ month ≤ 12 ∧ 1 ≤ day ∧ day ≤ daysInMonth year month ∧ hour < 24 ∧ minute < 60
      ∧ second ≤ 60 ∧ year.natAbs ≤ 262142 then
    some ⟨daysOfDate year month day * 1440 + (60 * hour + minute : Nat) - offset, second, nano⟩
  else none

/-! ### Writing -/

/-- Digits with zeros in front up to a width. -/
def padded (width n : Nat) : String :=
  let ds := toString n
  String.ofList (List.replicate (width - ds.length) '0') ++ ds

def yearText (year : Int) : String :=
  if 0 ≤ year ∧ year ≤ 9999 then padded 4 year.toNat
  else if 0 ≤ year then "+" ++ padded 4 year.toNat
  else "-" ++ padded 4 year.natAbs

/-- The parts of a second: none, or three, six or nine digits. -/
def nanoText (nano : Nat) : String :=
  if nano = 0 then ""
  else if nano % 1000000 = 0 then "." ++ padded 3 (nano / 1000000)
  else if nano % 1000 = 0 then "." ++ padded 6 (nano / 1000)
  else "." ++ padded 9 nano

/-- The text of a point in time, in universal time. -/
def text (t : Timestamp) : String :=
  let days := t.minutes.fdiv 1440
  let rest := (t.minutes - days * 1440).toNat
  let (year, month, day) := dateOfDays days
  yearText year ++ "-" ++ padded 2 month ++ "-" ++ padded 2 day ++ "T" ++
    padded 2 (rest / 60) ++ ":"
    ++ padded 2 (rest % 60) ++ ":" ++ padded 2 t.second ++ nanoText t.nano ++ "Z"

end Timestamp

end Parley
