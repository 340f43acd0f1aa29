import Parley.Flow.Timestamp
import Parley.Number.Decimal
import Parley.Toml.Text

/-!
# Numbers and dates

Digits may be grouped with single underscores.  A whole number is within 64 bits with a sign, and a
number with a point or an exponent is a double; one that is too large is refused.  Dates and times
are checked against the calendar.
-/

namespace Parley.Toml.Scan

/-! ### Numbers -/

/-- An optional sign: whether it is a minus. -/
def sign : Scan Bool :=
  (do char '-'; pure true) <|> (do char '+'; pure false) <|> pure false

/-- Digits with single underscores between them. -/
def digits (p : Char → Bool) : Scan (List Char) := do
  let d ← one p
  let r ← several (one p <|> (do char '_'; one p))
  pure (d :: r)

/-- The digits of a whole number, without leading zeros. -/
def wholeDigits : Scan (List Char) :=
  (do
    let d ← one fun c => c.isDigit && c ≠ '0'
    let r ← several (one Char.isDigit <|> (do char '_'; one Char.isDigit))
    pure (d :: r))
  <|> ((· :: []) <$> one Char.isDigit)

/-- A whole number within 64 bits. -/
def int64 (i : Int) : Scan Int := if -Nat.pow 2 63 ≤ i ∧ i < Nat.pow 2 63 then pure i else failure

/-- A whole number in a base that its first characters tell. -/
def based (mark : String) (base : Nat) (p : Char → Bool) : Scan Int := do
  word mark
  let ds ← digits p
  int64 (ds.foldl (fun n c => base * n + (Json.hexValue? c).getD 0) 0 : Nat)

/-- A whole number. -/
def integer : Scan Int :=
  based "0x" 16 isHex
  <|> based "0o" 8 (fun c => '0' ≤ c && c ≤ '7')
  <|> based "0b" 2 (fun c => c = '0' || c = '1')
  <|> (do
    let neg ← sign
    let n := Decimal.ofDigits (← wholeDigits)
    int64 (if neg then -(n : Int) else n))

/-- The exponent of a number. -/
def exponent : Scan Int := do
  let _ ← one fun c => c = 'e' || c = 'E'
  let neg ← sign
  let n := Decimal.ofDigits (← digits Char.isDigit)
  pure (if neg then -(n : Int) else n)

/-- A point and the digits after it. -/
def fraction : Scan (List Char) := do
  char '.'
  digits Char.isDigit

/-- A number with a point or an exponent. -/
def decimal : Scan Binary64 := do
  let neg ← sign
  let whole ← wholeDigits
  let (part, e) ← (([], ·) <$> exponent) <|> (do
    let part ← fraction
    let e ← optional exponent
    pure (part, e.getD 0))
  let x := Binary64.ofDecimal ⟨neg, Decimal.ofDigits (whole ++ part), e - (part.length : Int)⟩
  if x = .infinity false then failure
  pure x

/-- Infinity, or what is no number. -/
def special : Scan Binary64 := do
  let neg ← sign
  let x ← (do word "inf"; pure (Binary64.infinity false)) <|> (do word "nan"; pure Binary64.nan)
  pure (if neg then x.neg else x)

/-! ### Dates and times -/

/-- A number of so many digits, between two bounds. -/
def fixed (count lo hi : Nat) : Scan Nat := fun cs =>
  let ds := cs.take count
  let n := Decimal.ofDigits ds
  if ds.length = count ∧ ds.all Char.isDigit ∧ lo ≤ n ∧ n ≤ hi then
    some (n, cs.drop count) else none

def date : Scan Unit := do
  let year ← fixed 4 0 9999
  char '-'
  let month ← fixed 2 1 12
  char '-'
  let _ ← fixed 2 1 (Timestamp.daysInMonth year month)

def hourAndMinute : Scan Unit := do
  let _ ← fixed 2 0 23
  char ':'
  let _ ← fixed 2 0 59

def time : Scan Unit := do
  hourAndMinute
  char ':'
  let _ ← fixed 2 0 60
  let _ ← optional (do
    char '.'
    let _ ← one Char.isDigit
    let _ ← spanning Char.isDigit)

/-- An offset from universal time. -/
def offset : Scan Unit :=
  (do let _ ← one fun c => c = 'Z' || c = 'z')
  <|> (do
    let _ ← one fun c => c = '+' || c = '-'
    hourAndMinute)

/-- A date, a time, or both. -/
def moment : Scan Unit :=
  (do
    date
    let _ ← optional (do
      let _ ← one fun c => c = 'T' || c = 't' || c = ' '
      time
      optional offset))
  <|> time

end Parley.Toml.Scan
