import Parley.Json.Basic

/-!
# JSON tokens

`Token.scan` cuts a text into tokens, up to its end or to the first place that starts no token.

A number is read digit by digit into a significand of at most sixty-four bits; the digits that do
not fit are dropped and counted.  The significand is then scaled by one rounded multiplication or
division by a power of ten (`scaleTen`).
-/

namespace Parley.Json

/-- Why a JSON text was refused: it is no JSON, it ends too early, or it does not fit what was asked
for. -/
inductive Fault
  | malformed
  | truncated
  | mismatch
  deriving DecidableEq, Repr, Inhabited

/-- A token.  A number out of range and a string with half a surrogate pair are well formed but have
no value. -/
inductive Token
  | openArray
  | closeArray
  | openObject
  | closeObject
  | colon
  | comma
  | null
  | bool (b : Bool)
  | number (n : Option Number)
  | string (s : Option String)
  deriving DecidableEq, Inhabited

/-- How a sequence of tokens ends: with the text, or at a text that is no token.  `inString` tells
whether that text opened a string. -/
inductive Ending
  | clean
  | broken (fault : Fault) (inString : Bool)
  deriving DecidableEq, Inhabited

/-! ### Numbers -/

/-- The power of ten as a double. -/
def powTen (k : Nat) : Binary64 := .ofDecimal ⟨false, 1, k⟩

/-- Scale by a power of ten with one rounding, after as many divisions by `10^308` as a very small
number needs; none when the result is out of range. -/
def scaleTen (x : Binary64) (e : Int) : Option Binary64 :=
  if h : e.natAbs ≤ 308 then
    if 0 ≤ e then
      let y := x.mul (powTen e.natAbs)
      if y.isFinite then some y else none
    else some (x.div (powTen e.natAbs))
  else if x.eq .zero then some x
  else if 0 ≤ e then none
  else scaleTen (x.div (powTen 308)) (e + 308)
termination_by e.natAbs
decreasing_by omega

/-- A significand and the number of digits it left out. -/
structure Significand where
  value : Nat
  dropped : Nat
  deriving DecidableEq

def maxSignificand : Nat := Nat.pow 2 64 - 1

/-- Read digits before the point: from the first that does not fit on, all are dropped. -/
def readWhole (ds : List Char) : Significand :=
  ds.foldl (fun s c =>
    let next := 10 * s.value + Decimal.digitValue c
    if s.dropped = 0 ∧ next ≤ maxSignificand then ⟨next, 0⟩ else ⟨s.value, s.dropped + 1⟩) ⟨0, 0⟩

/-- Read digits after the point: the first that does not fit ends them.  Returns the significand and
the number of digits read. -/
def readFraction : Nat → List Char → Nat × Nat
  | v, [] => (v, 0)
  | v, c :: r =>
      let next := 10 * v + Decimal.digitValue c
      if next ≤ maxSignificand then
        let (w, k) := readFraction next r
        (w, k + 1)
      else (v, 0)

/-- The number with these digits; none when it is out of range. -/
def numberOf (neg : Bool) (whole : List Char) (fraction : Option (List Char))
    (exponent : Option Int) :
    Option Number :=
  let s := readWhole whole
  let scaled (v : Nat) (e : Int) : Option Number :=
    (scaleTen (.ofNat v) e).map fun x => .float (if neg then x.neg else x)
  match fraction, exponent with
  | none, none =>
      if s.dropped ≠ 0 then scaled s.value s.dropped
      else if !neg then some (.int s.value)
      else if s.value = 0 ∨ Nat.pow 2 63 < s.value then some (.float (Binary64.ofNat s.value).neg)
      else some (.int (-(s.value : Int)))
  | fraction, exponent =>
      let (v, k) := readFraction s.value (fraction.getD [])
      scaled v ((s.dropped : Int) - k + exponent.getD 0)

/-- The result of reading a token: the token and the text after it, or a fault. -/
inductive Scan (α : Type)
  | found (value : α) (rest : List Char)
  | fault (f : Fault)

/-- Read an exponent after its letter. -/
def scanExponent (cs : List Char) : Scan Int :=
  let (neg, r) := Decimal.splitSign cs
  match r with
  | [] => .fault .truncated
  | c :: _ =>
      if c.isDigit then
        let ds := r.takeWhile Char.isDigit
        .found (if neg then -(Decimal.ofDigits ds : Int) else Decimal.ofDigits ds)
          (r.dropWhile Char.isDigit)
      else .fault .malformed

/-- Read an optional exponent and put the number together. -/
def scanScaled (neg : Bool) (whole : List Char) (fraction : Option (List Char)) :
    List Char → Scan (Option Number)
  | 'e' :: r | 'E' :: r =>
      match scanExponent r with
      | .found e r => .found (numberOf neg whole fraction (some e)) r
      | .fault f => .fault f
  | r => .found (numberOf neg whole fraction none) r

/-- Read what follows the whole digits of a number. -/
def scanFraction (neg : Bool) (whole : List Char) : List Char → Scan (Option Number)
  | '.' :: r =>
      match r with
      | [] => .fault .truncated
      | c :: _ =>
          if c.isDigit then
            scanScaled neg whole (some (r.takeWhile Char.isDigit)) (r.dropWhile Char.isDigit)
          else .fault .malformed
  | r => scanScaled neg whole none r

/-- Read a number after its sign. -/
def scanUnsigned (neg : Bool) : List Char → Scan (Option Number)
  | [] => .fault .truncated
  | c :: r =>
      if c = '0' then
        match r with
        | d :: _ => if d.isDigit then .fault .malformed else scanFraction neg [c] r
        | [] => scanFraction neg [c] r
      else if c.isDigit then
        scanFraction neg (c :: r.takeWhile Char.isDigit) (r.dropWhile Char.isDigit)
      else .fault .malformed

/-! ### Strings -/

def hexValue? (c : Char) : Option Nat :=
  if c.isDigit then some (c.toNat - '0'.toNat)
  else if 'a' ≤ c ∧ c ≤ 'f' then some (c.toNat - 'a'.toNat + 10)
  else if 'A' ≤ c ∧ c ≤ 'F' then some (c.toNat - 'A'.toNat + 10)
  else none

/-- The number that four hexadecimal digits write. -/
def hexFour? (a b c d : Char) : Option Nat := do
  let a ← hexValue? a
  let b ← hexValue? b
  let c ← hexValue? c
  let d ← hexValue? d
  pure (((a * 16 + b) * 16 + c) * 16 + d)

/-- A part of a string: a character as it stands or a code unit given by its number. -/
inductive Piece
  | char (c : Char)
  | unit (n : Nat)

/-- Join code units to characters; a half of a surrogate pair alone has no character. -/
def joinPieces : List Piece → Option (List Char)
  | [] => some []
  | .char c :: r => (joinPieces r).map (c :: ·)
  | .unit n :: r =>
      if 0xD800 ≤ n ∧ n < 0xDC00 then
        match r with
        | .unit m :: s =>
            if 0xDC00 ≤ m ∧ m < 0xE000 then
              (joinPieces s).map (Char.ofNat (0x10000 + (n - 0xD800) * 0x400 + (m - 0xDC00)) :: ·)
            else none
        | _ => none
      else if 0xDC00 ≤ n ∧ n < 0xE000 then none
      else (joinPieces r).map (Char.ofNat n :: ·)

/-- The character that a short escape stands for. -/
def unescape? (c : Char) : Option Char :=
  if c = '"' ∨ c = '\\' ∨ c = '/' then some c
  else if c = 'b' then some (Char.ofNat 8)
  else if c = 'f' then some (Char.ofNat 12)
  else if c = 'n' then some '\n'
  else if c = 'r' then some '\r'
  else if c = 't' then some '\t'
  else none

/-- The fault of an escape by number that is not followed by four hexadecimal digits: it is cut
short when fewer than four bytes are left. -/
def numberedFault (rest : List Char) : Fault :=
  if rest.foldr (fun c n => c.utf8Size + n) 0 < 4 then .truncated else .malformed

/-- Read a string after its opening quote. -/
def scanString : List Char → Scan (List Piece)
  | [] => .fault .truncated
  | c :: r =>
      if c = '"' then .found [] r
      else if c = '\\' then
        match r with
        | [] => .fault .truncated
        | 'u' :: a :: b :: c :: d :: s =>
            match hexFour? a b c d with
            | none => .fault (numberedFault (a :: b :: c :: d :: s))
            | some n =>
                match scanString s with
                | .found ps t => .found (.unit n :: ps) t
                | .fault f => .fault f
        | e :: s =>
            if e = 'u' then .fault (numberedFault s)
            else
              match unescape? e with
              | none => .fault .malformed
              | some x =>
                  match scanString s with
                  | .found ps t => .found (.char x :: ps) t
                  | .fault f => .fault f
      else if c.toNat < 32 then .fault .malformed
      else
        match scanString r with
        | .found ps t => .found (.char c :: ps) t
        | .fault f => .fault f

/-! ### Words -/

/-- Read the rest of a word. -/
def scanWord : List Char → List Char → Scan Unit
  | [], r => .found () r
  | _ :: _, [] => .fault .truncated
  | w :: ws, c :: r => if c = w then scanWord ws r else .fault .malformed

/-! ### Tokens -/

/-- A token, the text after it, or the way the text breaks off. -/
inductive Step
  | token (t : Token) (rest : List Char)
  | stop (e : Ending)

namespace Scan

/-- The same scan with another value. -/
def toStep {α : Type} (s : Scan α) (f : α → Token) (inString : Bool) : Step :=
  match s with
  | .found a r => .token (f a) r
  | .fault e => .stop (.broken e inString)

end Scan

/-- The token that a character is by itself. -/
def punctuation? (c : Char) : Option Token :=
  if c = '[' then some .openArray
  else if c = ']' then some .closeArray
  else if c = '\x7b' then some .openObject
  else if c = '\x7d' then some .closeObject
  else if c = ':' then some .colon
  else if c = ',' then some .comma
  else none

/-- The word that a letter begins: its other letters and its token. -/
def word? (c : Char) : Option (List Char × Token) :=
  if c = 'n' then some (['u', 'l', 'l'], .null)
  else if c = 't' then some (['r', 'u', 'e'], .bool true)
  else if c = 'f' then some (['a', 'l', 's', 'e'], .bool false)
  else none

/-- Read the first token of a text that does not start with a blank. -/
def Token.first : List Char → Step
  | [] => .stop .clean
  | c :: r =>
      match punctuation? c, word? c with
      | some t, _ => .token t r
      | none, some (w, t) => (scanWord w r).toStep (fun _ => t) false
      | none, none =>
          if c = '"' then
            (scanString r).toStep (fun ps => .string ((joinPieces ps).map String.ofList)) true
          else if c = '-' then (scanUnsigned true r).toStep .number false
          else if c.isDigit then (scanUnsigned false (c :: r)).toStep .number false
          else .stop (.broken .malformed false)

/-- The blanks between tokens. -/
def isSpace (c : Char) : Bool := c = ' ' || c = '\n' || c = '\t' || c = '\r'

/-! A token takes at least one character, so that scanning comes to an end. -/

theorem length_dropWhile_le {α : Type} (p : α → Bool) (l : List α) :
    (l.dropWhile p).length ≤ l.length := (List.dropWhile_sublist p).length_le

theorem splitSign_length (cs : List Char) : (Decimal.splitSign cs).2.length ≤ cs.length := by
  unfold Decimal.splitSign
  split <;> simp

theorem scanExponent_length {cs r : List Char} {e : Int} (h : scanExponent cs = .found e r) :
    r.length ≤ cs.length := by
  unfold scanExponent at h
  have hs := splitSign_length cs
  generalize Decimal.splitSign cs = p at h hs
  obtain ⟨neg, q⟩ := p
  simp only at h hs
  split at h
  · simp at h
  · split at h
    · simp only [Scan.found.injEq] at h
      rw [← h.2]
      exact Nat.le_trans (length_dropWhile_le _ _) hs
    · simp at h

theorem scanScaled_length {neg : Bool} {whole cs r : List Char} {fraction : Option (List Char)}
    {n : Option Number} (h : scanScaled neg whole fraction cs = .found n r) :
    r.length ≤ cs.length := by
  unfold scanScaled at h
  split at h
  · split at h
    · rename_i he
      have := scanExponent_length he
      simp_all
      omega
    · simp at h
  · split at h
    · rename_i he
      have := scanExponent_length he
      simp_all
      omega
    · simp at h
  · simp_all

theorem scanFraction_length {neg : Bool} {whole cs r : List Char} {n : Option Number}
    (h : scanFraction neg whole cs = .found n r) : r.length ≤ cs.length := by
  unfold scanFraction at h
  split at h
  · split at h
    · simp at h
    · rename_i c s
      split at h
      · have h₁ := scanScaled_length h
        have h₂ := length_dropWhile_le Char.isDigit (c :: s)
        simp only [List.length_cons] at *
        omega
      · simp at h
  · exact scanScaled_length h

theorem scanUnsigned_length {neg : Bool} {cs r : List Char} {n : Option Number}
    (h : scanUnsigned neg cs = .found n r) : r.length < cs.length := by
  unfold scanUnsigned at h
  split at h
  · simp at h
  · split at h
    · split at h
      · split at h
        · simp at h
        · have := scanFraction_length h
          simp only [List.length_cons] at *
          omega
      · have := scanFraction_length h
        simp only [List.length_cons] at *
        omega
    · split at h
      · have := scanFraction_length h
        have := length_dropWhile_le Char.isDigit ‹List Char›
        simp only [List.length_cons] at *
        grind
      · simp at h

theorem scanString_length {cs r : List Char} {ps : List Piece} (h : scanString cs = .found ps r) :
    r.length < cs.length := by
  fun_induction scanString cs generalizing ps r <;> simp_all <;> grind

theorem scanWord_length {ws cs r : List Char} (h : scanWord ws cs = .found () r) :
    r.length ≤ cs.length := by
  fun_induction scanWord ws cs <;> simp_all
  omega

theorem toStep_token {α : Type} {s : Scan α} {f : α → Token} {b : Bool} {t : Token} {r : List Char}
    (h : s.toStep f b = .token t r) : ∃ a, s = .found a r := by
  cases s <;> simp_all [Scan.toStep]

theorem Token.first_length {cs r : List Char} {t : Token} (h : Token.first cs = .token t r) :
    r.length < cs.length := by
  have hstring {s : List Char} {f : List Piece → Token} {b : Bool}
      (h : (scanString s).toStep f b = .token t r) : r.length < s.length :=
    have ⟨_, ha⟩ := toStep_token h
    scanString_length ha
  have hnumber {neg : Bool} {s : List Char} {f : Option Number → Token} {b : Bool}
      (h : (scanUnsigned neg s).toStep f b = .token t r) : r.length < s.length :=
    have ⟨_, ha⟩ := toStep_token h
    scanUnsigned_length ha
  have hword {ws s : List Char} {f : Unit → Token} {b : Bool}
      (h : (scanWord ws s).toStep f b = .token t r) : r.length ≤ s.length :=
    have ⟨_, ha⟩ := toStep_token h
    scanWord_length ha
  unfold Token.first at h
  grind

/-- The tokens of a text and how they end. -/
def Token.scan (cs : List Char) : List Token × Ending :=
  match _h : Token.first (cs.dropWhile isSpace) with
  | .token t r =>
      let (ts, e) := Token.scan r
      (t :: ts, e)
  | .stop e => ([], e)
termination_by cs.length
decreasing_by
  exact Nat.lt_of_lt_of_le (Token.first_length _h) (length_dropWhile_le _ _)

end Parley.Json
