/-!
# Double-precision numbers

A `Binary64` is held by its sixty-four bits, so equality of numbers is equality of bit patterns and
is decidable.  Every finite double is a whole multiple of `2^-1074`; `units` counts these, and all
arithmetic is exact arithmetic on units followed by one rounding.

* `Value`, `value`: what a bit pattern stands for;
* `round`: the double nearest to a quotient of units, a half going to the even neighbour;
* `ofNat`, `ofInt`, `add`, `mul`, `div`;
* `rank`: an integer that orders the doubles other than NaN; `lt`, `le`, `eq` compare ranks;
* `toSingle`: the nearest single-precision number.
-/

namespace Parley

/-- A double-precision number, held by its bits. -/
structure Binary64 where
  bits : UInt64
  deriving DecidableEq, Inhabited

namespace Binary64

/-- The number that a bit pattern stands for.  A finite number is `±units · 2^-1074`. -/
inductive Value
  | nan
  | infinite (neg : Bool)
  | finite (neg : Bool) (units : Nat)
  deriving DecidableEq

/-- The place of the point in `units`. -/
def scale : Nat := 1074

/-- One, counted in units. -/
def one : Nat := Nat.pow 2 scale

/-- The magnitude bits of infinity. -/
def infinityBits : Nat := 2047 * Nat.pow 2 52

/-- The units of a finite number with these magnitude bits.  Below `2^53` the two agree; above, the
exponent field doubles the step with each increment. -/
def unitsOfBits (n : Nat) : Nat :=
  let step := Nat.pow 2 52
  if n < step then n else (step + n % step) * Nat.pow 2 (n / step - 1)

/-- Decode the bits. -/
def value (x : Binary64) : Value :=
  let n := x.bits.toNat % Nat.pow 2 63
  let neg := decide (Nat.pow 2 63 ≤ x.bits.toNat)
  if n < infinityBits then .finite neg (unitsOfBits n)
  else if n = infinityBits then .infinite neg
  else .nan

/-- Put a sign in front of magnitude bits. -/
def ofMagnitude (neg : Bool) (n : Nat) : Binary64 :=
  ⟨UInt64.ofNat (if neg then Nat.pow 2 63 + n else n)⟩

def nan : Binary64 := ⟨0x7FF8000000000000⟩

def infinity (neg : Bool) : Binary64 := ofMagnitude neg infinityBits

def zero : Binary64 := ⟨0⟩

/-- The nearest whole number to `num / den`, a half going to the even neighbour. -/
def divHalfEven (num den : Nat) : Nat :=
  let q := num / den
  let r := num % den
  if 2 * r < den then q
  else if den < 2 * r then q + 1
  else q + q % 2

/-- The magnitude bits of the double nearest to `num / den` units. -/
def roundBits (num den : Nat) : Nat :=
  let k := (num / den).log2 - 52
  min (k * Nat.pow 2 52 + divHalfEven num (den * Nat.pow 2 k)) infinityBits

/-- The double nearest to `±num / den` units; what is too large becomes infinite. -/
def round (neg : Bool) (num den : Nat) : Binary64 :=
  ofMagnitude neg (roundBits num den)

/-- The double nearest to a whole number. -/
def ofNat (n : Nat) : Binary64 := round false (n * one) 1

/-- The double nearest to an integer. -/
def ofInt (i : Int) : Binary64 := round (i < 0) (i.natAbs * one) 1

/-! ### Classification and order -/

def isNaN (x : Binary64) : Bool := x.value = .nan

def isFinite (x : Binary64) : Bool :=
  match x.value with
  | .finite _ _ => true
  | _ => false

def isNegative (x : Binary64) : Bool :=
  match x.value with
  | .nan => false
  | .infinite neg => neg
  | .finite neg _ => neg

/-- Signed units, with a fixed magnitude above all finite ones for the infinities. -/
def rank (x : Binary64) : Option Int :=
  match x.value with
  | .nan => none
  | .infinite neg => some (if neg then -Nat.pow 2 2098 else Nat.pow 2 2098)
  | .finite neg u => some (if neg then -(u : Int) else u)

/-- `x < y`; false when either is NaN. -/
def lt (x y : Binary64) : Bool :=
  match x.rank, y.rank with
  | some a, some b => a < b
  | _, _ => false

/-- `x ≤ y`; false when either is NaN. -/
def le (x y : Binary64) : Bool :=
  match x.rank, y.rank with
  | some a, some b => a ≤ b
  | _, _ => false

/-- Numeric equality: both zeros are equal, and NaN equals nothing. -/
def eq (x y : Binary64) : Bool :=
  match x.rank, y.rank with
  | some a, some b => a = b
  | _, _ => false

/-- The integer that a finite whole number stands for. -/
def toInt? (x : Binary64) : Option Int :=
  match x.value with
  | .finite neg u =>
      if u % one = 0 then some (if neg then -((u / one : Nat) : Int) else (u / one : Nat)) else none
  | _ => none

/-! ### Arithmetic -/

def neg (x : Binary64) : Binary64 := ⟨x.bits ^^^ 0x8000000000000000⟩

/-- Round a signed quotient of units; an exact zero takes the given sign. -/
def roundInt (zeroNeg : Bool) (num : Int) (den : Nat) : Binary64 :=
  round (if num = 0 then zeroNeg else num < 0) num.natAbs den

/-- Signed units of a finite number. -/
def signed (neg : Bool) (u : Nat) : Int := if neg then -(u : Int) else u

def add (x y : Binary64) : Binary64 :=
  match x.value, y.value with
  | .finite s u, .finite t v => roundInt (s && t) (signed s u + signed t v) 1
  | .nan, _ | _, .nan => nan
  | .infinite s, .infinite t => if s = t then infinity s else nan
  | .infinite s, .finite _ _ => infinity s
  | .finite _ _, .infinite t => infinity t

def mul (x y : Binary64) : Binary64 :=
  match x.value, y.value with
  | .finite s u, .finite t v => round (s != t) (u * v) one
  | .nan, _ | _, .nan => nan
  | .infinite s, .infinite t => infinity (s != t)
  | .infinite s, .finite t v => if v = 0 then nan else infinity (s != t)
  | .finite s u, .infinite t => if u = 0 then nan else infinity (s != t)

def div (x y : Binary64) : Binary64 :=
  match x.value, y.value with
  | .finite s u, .finite t v =>
      if v = 0 then (if u = 0 then nan else infinity (s != t)) else round (s != t) (u * one) v
  | .nan, _ | _, .nan => nan
  | .infinite _, .infinite _ => nan
  | .infinite s, .finite t _ => infinity (s != t)
  | .finite s _, .infinite t => ofMagnitude (s != t) 0

instance : NatCast Binary64 := ⟨ofNat⟩

instance : Add Binary64 := ⟨add⟩

instance : Mul Binary64 := ⟨mul⟩

instance : Div Binary64 := ⟨div⟩

instance : LE Binary64 := ⟨fun x y => x.le y = true⟩

instance : DecidableLE Binary64 := fun x y => inferInstanceAs (Decidable (x.le y = true))

/-! ### Single precision -/

/-- The nearest single-precision number, as a double: twenty-four significant bits, steps of at
least `2^-149`, and infinity from `2^128` on. -/
def toSingle (x : Binary64) : Binary64 :=
  match x.value with
  | .finite neg u =>
      let k := max (u.log2 - 23) (scale - 149)
      let rounded := divHalfEven u (Nat.pow 2 k) * Nat.pow 2 k
      if rounded < Nat.pow 2 (128 + scale) then round neg rounded 1 else infinity neg
  | _ => x

end Binary64

end Parley
