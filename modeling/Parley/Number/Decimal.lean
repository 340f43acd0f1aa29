import Parley.Number.Binary64

/-!
# Decimals

A `Decimal` is `±digits · 10^exponent`.

* `Binary64.ofDecimal`: the double nearest to a decimal;
* `Binary64.shortest`: the decimal with the fewest digits that reads back, and the nearest of those;
* `Decimal.read?`: the decimal that a text writes;
* `Decimal.Style`, `Binary64.text`: where a number is written positionally and how an exponent
  looks.
-/

namespace Parley

/-- The number `±digits · 10^exponent`. -/
structure Decimal where
  neg : Bool
  digits : Nat
  exponent : Int
  deriving DecidableEq, Inhabited

namespace Decimal

/-- The digits of a whole number, without leading zeros; zero has the digit `0`. -/
def digitChars (n : Nat) : List Char := Nat.toDigits 10 n

/-- The value of a digit; other characters count as zero. -/
def digitValue (c : Char) : Nat := if c.isDigit then c.toNat - '0'.toNat else 0

/-- The whole number that a list of digits writes. -/
def ofDigits (cs : List Char) : Nat := cs.foldl (fun n c => 10 * n + digitValue c) 0

/-- Remove trailing zeros of a whole number, counting them. -/
def stripZeros (n : Nat) : Nat × Nat :=
  if h : n ≠ 0 ∧ n % 10 = 0 then
    let r := stripZeros (n / 10)
    (r.1, r.2 + 1)
  else (n, 0)
termination_by n
decreasing_by omega

/-- The same number with no trailing zero among its digits. -/
def normal (d : Decimal) : Decimal :=
  let s := stripZeros d.digits
  ⟨d.neg, s.1, d.exponent + s.2⟩

/-- An optional sign in front of a text. -/
def splitSign : List Char → Bool × List Char
  | '-' :: r => (true, r)
  | '+' :: r => (false, r)
  | r => (false, r)

/-- The exponent part that ends a decimal: nothing, or `e` and an integer. -/
def readExponent? : List Char → Option Int
  | [] => some 0
  | c :: r =>
      if c = 'e' ∨ c = 'E' then
        let (neg, ds) := splitSign r
        if ds ≠ [] ∧ ds.all Char.isDigit then
          some (if neg then -(ofDigits ds : Int) else ofDigits ds)
        else none
      else none

/-- Read an optional sign, digits with at most one point and at least one digit, and an optional
exponent. -/
def read? (cs : List Char) : Option Decimal :=
  let (neg, r) := splitSign cs
  let whole := r.takeWhile Char.isDigit
  let r := r.dropWhile Char.isDigit
  let (frac, r) :=
    match r with
    | '.' :: r => (r.takeWhile Char.isDigit, r.dropWhile Char.isDigit)
    | r => ([], r)
  if whole = [] ∧ frac = [] then none
  else
    (readExponent? r).map fun e => ⟨neg, ofDigits (whole ++ frac), e - (frac.length : Int)⟩

end Decimal

namespace Binary64

/-- The double nearest to a decimal.  Decimals from `10^310` on are infinite and those below
`10^-330` are zero, whatever their digits. -/
def ofDecimal (d : Decimal) : Binary64 :=
  let top := (Decimal.digitChars d.digits).length + d.exponent
  if d.digits = 0 ∨ top < -330 then ofMagnitude d.neg 0
  else if 310 < top then infinity d.neg
  else if 0 ≤ d.exponent then round d.neg (d.digits * Nat.pow 10 d.exponent.toNat * one) 1
  else round d.neg (d.digits * one) (Nat.pow 10 (-d.exponent).toNat)

/-- Read a number as a host program writes one: a decimal, or `inf`, `infinity` or `nan` in any
case, with an optional sign. -/
def read? (cs : List Char) : Option Binary64 :=
  match Decimal.read? cs with
  | some d => some (ofDecimal d)
  | none =>
      let (neg, r) := Decimal.splitSign cs
      let word := String.ofList (r.map Char.toLower)
      if word = "inf" ∨ word = "infinity" then some (infinity neg)
      else if word = "nan" then some nan
      else none

/-! ### The shortest decimal -/

/-- The exponent of the leading decimal digit of `u` units, for `u ≠ 0`. -/
def leading (u : Nat) : Int :=
  if one ≤ u then ((Decimal.digitChars (u / one)).length : Int) - 1
  else -((Decimal.digitChars ((one - 1) / u)).length : Int)

/-- The two neighbours of `u` units among the multiples of `10^g`, the nearer one first; of two
equally near ones the even multiple comes first. -/
def neighbours (u : Nat) (g : Int) : List Nat :=
  let num := if 0 ≤ g then u else u * Nat.pow 10 (-g).toNat
  let den := if 0 ≤ g then one * Nat.pow 10 g.toNat else one
  let q := num / den
  let r := num % den
  if 2 * r < den ∨ (2 * r = den ∧ q % 2 = 0) then [q, q + 1] else [q + 1, q]

/-- The neighbour with `n` digits that reads back as `x`, if there is one. -/
def withDigits? (x : Binary64) (neg : Bool) (u : Nat) (n : Nat) : Option Decimal :=
  let g := leading u - (n : Int) + 1
  ((neighbours u g).map (Decimal.mk neg · g)).find? fun d => ofDecimal d = x

/-- The decimal with the fewest digits that reads back as `x`, the nearest of those.  Seventeen
digits are always enough; the exact value stands behind them, so that the result reads back without
an appeal to that fact. -/
def shortest (x : Binary64) : Decimal :=
  match x.value with
  | .finite neg u =>
      if u = 0 then ⟨neg, 0, 0⟩
      else
        match (List.range' 1 17).findSome? (withDigits? x neg u) with
        | some d => d.normal
        | none => Decimal.normal ⟨neg, u * Nat.pow 5 scale, -(scale : Int)⟩
  | _ => ⟨x.isNegative, 0, 0⟩

end Binary64

/-! ### Written numbers -/

/-- Where numbers are written positionally, and how the other ones look.  `low` and `high` bound the
exponent of the leading digit; `point` asks for `.0` after a whole number. -/
structure Decimal.Style where
  low : Option Int
  high : Option Int
  point : Bool
  plus : Bool
  deriving DecidableEq

namespace Decimal.Style

/-- Numbers in documents: positional from `0.00001` to below `10^16`, and exponents carry a sign. -/
def document : Style := ⟨some (-5), some 15, true, true⟩

/-- Numbers in messages: positional, whole numbers without a point. -/
def plain : Style := ⟨none, none, false, false⟩

/-- Numbers in settings: positional, always with a point. -/
def pointed : Style := ⟨none, none, true, false⟩

/-- Numbers inside a quoted token: positional from `0.0001` to below `10^16`. -/
def token : Style := ⟨some (-4), some 15, true, false⟩

def isPositional (s : Style) (lead : Int) : Bool :=
  s.low.all (fun l => decide (l ≤ lead)) && s.high.all (fun h => decide (lead ≤ h))

end Decimal.Style

namespace Decimal

/-- Digits with a point: `lead` is the exponent of the first digit. -/
def positional (ds : List Char) (lead : Int) (point : Bool) : List Char :=
  if lead < 0 then
    ['0', '.'] ++ List.replicate (-lead - 1).toNat '0' ++ ds
  else
    let whole := lead.toNat + 1
    let fraction := ds.drop whole
    let front := ds.take whole ++ List.replicate (whole - ds.length) '0'
    if fraction = [] then front ++ (if point then ['.', '0'] else [])
    else front ++ ['.'] ++ fraction

/-- Digits with an exponent. -/
def scientific (ds : List Char) (lead : Int) (plus : Bool) : List Char :=
  let mantissa :=
    match ds with
    | [] => []
    | [d] => [d]
    | d :: r => d :: '.' :: r
  let sign := if lead < 0 then ['-'] else if plus then ['+'] else []
  mantissa ++ ['e'] ++ sign ++ digitChars lead.natAbs

/-- Write a decimal in a style. -/
def text (d : Decimal) (s : Style) : List Char :=
  let ds := digitChars d.digits
  let lead := (ds.length : Int) - 1 + d.exponent
  let body :=
    if d.digits = 0 then positional ['0'] 0 s.point
    else if s.isPositional lead then positional ds lead s.point
    else scientific ds lead s.plus
  (if d.neg then ['-'] else []) ++ body

end Decimal

namespace Binary64

/-- The text of a number in a style. -/
def text (x : Binary64) (s : Decimal.Style) : String :=
  match x.value with
  | .nan => "NaN"
  | .infinite neg => if neg then "-inf" else "inf"
  | .finite _ _ => String.ofList ((shortest x).text s)

end Binary64

end Parley
