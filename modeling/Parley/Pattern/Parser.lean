import Parley.Pattern.Basic
import Parley.Pattern.Property

/-!
# Reading patterns

The notation has groups, alternatives, repetition, classes with set operations, flags and escapes.
There are no back-references and no look-around.  Each step of the reader takes at least one
character, so a number of steps that grows with the length of the text is enough.

* `Pattern.parse?`: the pattern of a text, or why it has none;
* `Pattern.Error.message`.
-/

namespace Parley.Pattern

/-- Why a text is no pattern. -/
inductive Error
  | malformed
  | tooLarge
  deriving DecidableEq, Repr

/-- The largest pattern, in bytes of its compiled form. -/
def sizeLimit : Nat := 10485760

/-- The deepest nesting of a pattern. -/
def nestLimit : Nat := 250

def Error.message : Error → String
  | .malformed => "regex parse error"
  | .tooLarge => "Compiled regex exceeds size limit of " ++ toString sizeLimit ++ " bytes."

structure Flags where
  ignoreCase : Bool := false
  multiLine : Bool := false
  dotAll : Bool := false
  crlf : Bool := false
  unicode : Bool := true
  extended : Bool := false

/-- A part of a pattern: how deep it nests, how large it is, and whether it can be repeated. -/
structure Part where
  pattern : Pattern
  depth : Nat
  size : Nat
  repeatable : Bool

/-- Text to be read. -/
abbrev Input := List Char

/-! ### Blanks and comments -/

/-- Skip a comment. -/
def skipComment : Input → Input
  | [] => []
  | c :: r => if c = '\n' then r else skipComment r

theorem skipComment_length (cs : Input) : (skipComment cs).length ≤ cs.length := by
  fun_induction skipComment cs <;> simp_all
  omega

/-- Skip blanks and comments. -/
def skipBlanks : Input → Input
  | [] => []
  | c :: r =>
      if Text.isBlank c then skipBlanks r
      else if c = '#' then skipBlanks (skipComment r)
      else c :: r
termination_by cs => cs.length
decreasing_by
  · simp
  · have := skipComment_length r
    simp
    omega

/-- Skip blanks and comments where the flags ask for it. -/
def Flags.skip (f : Flags) (cs : Input) : Input := if f.extended then skipBlanks cs else cs

/-! ### Sets under flags -/

/-- A set of ranges, ignoring case where the flags ask for it. -/
def Flags.set (f : Flags) (r : Text.Ranges) : CharSet :=
  if f.ignoreCase then
    if f.unicode then .folded r
    else
      let swapped := r.flatMap fun (a, b) =>
        let lower := (max a 0x41 + 32, min b 0x5a + 32)
        let upper := (max a 0x61 - 32, min b 0x7a - 32)
        [lower, upper].filter fun p => p.1 ≤ p.2 ∧ 0x41 ≤ p.1 ∧ p.2 ≤ 0x7a
      .ranges (r ++ swapped)
  else .ranges r

def Flags.literal (f : Flags) (c : Char) : CharSet := f.set [(c.toNat, c.toNat)]

/-- A named set; without Unicode only the ASCII part can be told, and no complement. -/
def Flags.named (f : Flags) (unicode : CharSet) (ascii : Text.Ranges) (negated : Bool) :
    Option CharSet :=
  if f.unicode then some (if negated then .compl unicode else unicode)
  else if negated then none
  else some (.ranges ascii)

/-- The characters that a point matches. -/
def Flags.dot (f : Flags) : Option CharSet :=
  if !f.unicode then none
  else if f.dotAll then some .all
  else if f.crlf then some (.compl (.ranges [(0xa, 0xa), (0xd, 0xd)]))
  else some (.compl (.ranges [(0xa, 0xa)]))

def Flags.lineStart (f : Flags) : Assertion :=
  if f.multiLine then (if f.crlf then .lineStartCRLF else .lineStart) else .textStart

def Flags.lineEnd (f : Flags) : Assertion :=
  if f.multiLine then (if f.crlf then .lineEndCRLF else .lineEnd) else .textEnd

def Flags.wordRanges (f : Flags) : Text.Ranges :=
  if f.unicode then Text.wordRanges else asciiWordRanges

/-! ### Escapes -/

/-- What an escape stands for. -/
inductive Escape
  | literal (c : Char)
  | set (s : CharSet)
  | look (a : Assertion)

def isMeta (c : Char) : Bool :=
  c ∈ ['\\', '.', '+', '*', '?', '(', ')', '|', '[', ']', '\x7b', '\x7d', '^', '$', '#',
    '&', '-', '~']

/-- A character that a backslash leaves as it is. -/
def isEscapable (c : Char) : Bool :=
  isMeta c || (c.toNat < 0x80 && !c.isAlphanum && c ≠ '<' && c ≠ '>')

/-- The value of a hexadecimal digit. -/
def hexDigit? (c : Char) : Option Nat :=
  if c.isDigit then some (c.toNat - '0'.toNat)
  else if 'a' ≤ c ∧ c ≤ 'f' then some (c.toNat - 'a'.toNat + 10)
  else if 'A' ≤ c ∧ c ≤ 'F' then some (c.toNat - 'A'.toNat + 10)
  else none

/-- The character that hexadecimal digits number. -/
def hexChar? (ds : List Char) : Option Char := do
  if ds = [] then none
  let n ← ds.foldlM (fun n c => (hexDigit? c).map (16 * n + ·)) 0
  if n < 0xD800 ∨ (0xE000 ≤ n ∧ n < 0x110000) then some (Char.ofNat n) else none

/-- Read a character by number, `n` digits or digits in braces. -/
def hexEscape? (f : Flags) (n : Nat) (cs : Input) : Option (Escape × Input) :=
  match f.skip cs with
  | '\x7b' :: r =>
      let digits := r.takeWhile (· ≠ '\x7d')
      match r.dropWhile (· ≠ '\x7d') with
      | [] => none
      | _ :: rest =>
          (hexChar? (if f.extended then digits.filter (!Text.isBlank ·) else digits)).map
            fun c => (.literal c, rest)
  | r =>
      if n ≤ r.length then (hexChar? (r.take n)).map fun c => (.literal c, r.drop n) else none

/-- Read a property after `\p` or `\P`. -/
def propertyEscape? (f : Flags) (negated : Bool) (cs : Input) : Option (Escape × Input) :=
  let finish (name : List Char) (rest : Input) : Option (Escape × Input) :=
    if f.unicode then
      (property? name).map fun s => (.set (if negated then .compl s else s), rest)
    else none
  match f.skip cs with
  | [] => none
  | '\x7b' :: r =>
      match r.dropWhile (· ≠ '\x7d') with
      | [] => none
      | _ :: rest => finish (r.takeWhile (· ≠ '\x7d')) rest
  | c :: r => if c = '\\' then none else finish [c] r

/-- Read the name in braces that may follow `\b`; other braces are a repetition. -/
def boundaryEscape? (f : Flags) (cs : Input) : Option (Escape × Input) :=
  let w := f.wordRanges
  let plain := some (Escape.look (.wordBoundary w false), cs)
  let isNameChar (c : Char) : Bool := c.isAlpha || c = '-'
  match cs with
  | '\x7b' :: r =>
      match f.skip r with
      | [] => none
      | c :: s =>
          if isNameChar c then
            match (c :: s).dropWhile isNameChar with
            | '\x7d' :: rest =>
                match String.ofList ((c :: s).takeWhile isNameChar) with
                | "start" => some (.look (.wordStart w), rest)
                | "end" => some (.look (.wordEnd w), rest)
                | "start-half" => some (.look (.wordStartHalf w), rest)
                | "end-half" => some (.look (.wordEndHalf w), rest)
                | _ => none
            | _ => none
          else plain
  | _ => plain

/-- Read an escape after its backslash. -/
def escape? (f : Flags) : Input → Option (Escape × Input)
  | [] => none
  | c :: r =>
      let named (s : CharSet) (ascii : Text.Ranges) (negated : Bool) : Option (Escape × Input) :=
        (f.named s ascii negated).map fun s => (.set s, r)
      if isEscapable c then some (.literal c, r)
      else
        match c with
        | 'x' => hexEscape? f 2 r
        | 'u' => hexEscape? f 4 r
        | 'U' => hexEscape? f 8 r
        | 'p' => propertyEscape? f false r
        | 'P' => propertyEscape? f true r
        | 'd' => named .digit asciiDigitRanges false
        | 'D' => named .digit asciiDigitRanges true
        | 's' => named .blank asciiBlankRanges false
        | 'S' => named .blank asciiBlankRanges true
        | 'w' => named .word asciiWordRanges false
        | 'W' => named .word asciiWordRanges true
        | 'a' => some (.literal (Char.ofNat 7), r)
        | 'f' => some (.literal (Char.ofNat 12), r)
        | 't' => some (.literal '\t', r)
        | 'n' => some (.literal '\n', r)
        | 'r' => some (.literal '\r', r)
        | 'v' => some (.literal (Char.ofNat 11), r)
        | 'A' => some (.look .textStart, r)
        | 'z' => some (.look .textEnd, r)
        | 'b' => boundaryEscape? f r
        | 'B' => some (.look (.wordBoundary f.wordRanges true), r)
        | '<' => some (.look (.wordStart f.wordRanges), r)
        | '>' => some (.look (.wordEnd f.wordRanges), r)
        | _ => none

/-! ### Classes -/

/-- Operations between sets. -/
inductive SetOp
  | inter
  | diff
  | symmDiff

def SetOp.apply : SetOp → CharSet → CharSet → CharSet
  | .inter, s, t => .inter s t
  | .diff, s, t => .diff s t
  | .symmDiff, s, t => .symmDiff s t

/-- A class being read: the operation waiting for its right side, the union so far, and how deep the
classes inside nest. -/
structure ClassState where
  pending : Option (SetOp × CharSet)
  union : CharSet
  depth : Nat

namespace ClassState

def start : ClassState := ⟨none, .ranges [], 0⟩

def add (st : ClassState) (s : CharSet) : ClassState := { st with union := .union st.union s }

/-- The set read so far. -/
def current (st : ClassState) : CharSet :=
  match st.pending with
  | none => st.union
  | some (op, left) => op.apply left st.union

/-- Begin the right side of an operation. -/
def operate (st : ClassState) (op : SetOp) : ClassState :=
  ⟨some (op, st.current), .ranges [], st.depth⟩

end ClassState

/-- Read the dashes that a class may begin with. -/
def leadingDashes (f : Flags) : Nat → ClassState → Input → ClassState × Bool × Input
  | 0, st, cs => (st, false, cs)
  | n + 1, st, cs =>
      match f.skip cs with
      | '-' :: r =>
          let (st, _, rest) := leadingDashes f n (st.add (f.literal '-')) r
          (st, true, rest)
      | r => (st, false, r)

/-- Read a name such as `[:alpha:]` after its opening bracket. -/
def bracketedName? (f : Flags) : Input → Option (CharSet × Input)
  | ':' :: r =>
      let (negated, r) := match r with
        | '^' :: s => (true, s)
        | s => (false, s)
      match r.dropWhile (· ≠ ':') with
      | ':' :: ']' :: rest =>
          (bracketName? (String.ofList (r.takeWhile (· ≠ ':')))).bind fun s =>
            if negated && !f.unicode then none
            else some (if negated then .compl (f.set s) else f.set s, rest)
      | _ => none
  | _ => none

/-- Read one item of a class: a character or an escape. -/
def classItem? (f : Flags) : Input → Option (Escape × Input)
  | [] => none
  | '\\' :: r => escape? f r
  | c :: r => some (.literal c, r)

/-- The set of an item that is no end of a range. -/
def itemSet? (f : Flags) : Escape → Option CharSet
  | .literal c => some (f.literal c)
  | .set s => some s
  | .look _ => none

/-- Read an item or a range. -/
def classRange? (f : Flags) (cs : Input) : Option (CharSet × Input) := do
  let (first, r) ← classItem? f cs
  match f.skip r with
  | [] => none
  | '-' :: s =>
      match f.skip s with
      | [] => none
      | ']' :: _ => (itemSet? f first).map (·, '-' :: s)
      | '-' :: _ => (itemSet? f first).map (·, '-' :: s)
      | s =>
          let (last, rest) ← classItem? f s
          match first, last with
          | .literal a, .literal b =>
              if a ≤ b then some (f.set [(a.toNat, b.toNat)], rest) else none
          | _, _ => none
  | r => (itemSet? f first).map (·, r)

mutual

/-- Read a class after its opening bracket. -/
def classFrom (f : Flags) : Nat → Input → Option (CharSet × Nat × Input)
  | 0, _ => none
  | n + 1, cs =>
      let cs := f.skip cs
      let (negated, cs) := match cs with
        | '^' :: r => (true, r)
        | r => (false, r)
      if negated && !f.unicode then none
      else
        let (st, dashed, cs) := leadingDashes f cs.length .start cs
        let (st, cs) := match dashed, f.skip cs with
          | false, ']' :: r => (st.add (f.literal ']'), r)
          | _, r => (st, r)
        match classItems f n st cs with
        | none => none
        | some (s, depth, rest) => some (if negated then .compl s else s, depth + 1, rest)

/-- Read the items of a class up to its closing bracket. -/
def classItems (f : Flags) : Nat → ClassState → Input → Option (CharSet × Nat × Input)
  | 0, _, _ => none
  | n + 1, st, cs =>
      match f.skip cs with
      | [] => none
      | ']' :: r => some (st.current, st.depth, r)
      | '[' :: r =>
          match bracketedName? f r with
          | some (s, rest) => classItems f n (st.add s) rest
          | none =>
              match classFrom f n r with
              | none => none
              | some (s, depth, rest) =>
                  classItems f n { st.add s with depth := max st.depth (depth + 1) } rest
      | '&' :: '&' :: r => classItems f n (st.operate .inter) r
      | '-' :: '-' :: r => classItems f n (st.operate .diff) r
      | '~' :: '~' :: r => classItems f n (st.operate .symmDiff) r
      | r =>
          match classRange? f r with
          | none => none
          | some (s, rest) => classItems f n (st.add s) rest

end

/-! ### Groups -/

/-- What stands after the opening bracket of a group. -/
inductive GroupStart
  | capture (name : Option String) (rest : Input)
  | plain (f : Flags) (rest : Input)
  | setFlags (f : Flags) (rest : Input)

/-- Set one flag by its letter. -/
def Flags.setFlag? (f : Flags) (c : Char) (on : Bool) : Option Flags :=
  match c with
  | 'i' => some { f with ignoreCase := on }
  | 'm' => some { f with multiLine := on }
  | 's' => some { f with dotAll := on }
  | 'U' => some f
  | 'u' => some { f with unicode := on }
  | 'R' => some { f with crlf := on }
  | 'x' => some { f with extended := on }
  | _ => none

/-- Read flag letters up to a colon or a closing bracket.  `seen` holds the letters so far, last
first. -/
def flagsFrom (f : Flags) (seen : List Char) (on : Bool) :
    Input → Option (Flags × Char × List Char × Input)
  | [] => none
  | c :: r =>
      if c = ':' ∨ c = ')' then
        if seen.head? = some '-' then none else some (f, c, seen, r)
      else if c ∈ seen then none
      else if c = '-' then flagsFrom f (c :: seen) false r
      else
        match f.setFlag? c on with
        | none => none
        | some f => flagsFrom f (c :: seen) on r

/-- Read the name of a group up to its closing angle bracket. -/
def groupName? (cs : Input) : Option (String × Input) :=
  let name := cs.takeWhile (· ≠ '>')
  match name, cs.dropWhile (· ≠ '>') with
  | c :: r, _ :: rest =>
      let start := c = '_' || Text.isAlphabetic c
      let rest' := r.all fun c =>
        c = '_' || c = '.' || c = '[' || c = ']' || Text.isAlphanumeric c
      if start && rest' then some (String.ofList (c :: r), rest) else none
  | _, _ => none

/-- Read what stands after the opening bracket of a group. -/
def groupStart? (f : Flags) (cs : Input) : Option GroupStart :=
  match f.skip cs with
  | '?' :: '=' :: _ => none
  | '?' :: '!' :: _ => none
  | '?' :: '<' :: '=' :: _ => none
  | '?' :: '<' :: '!' :: _ => none
  | '?' :: 'P' :: '<' :: r => (groupName? r).map fun (n, rest) => .capture (some n) rest
  | '?' :: '<' :: r => (groupName? r).map fun (n, rest) => .capture (some n) rest
  | '?' :: r =>
      match flagsFrom f [] true r with
      | none => none
      | some (g, c, seen, rest) =>
          if c = ':' then some (.plain g rest)
          else if seen = [] then none
          else some (.setFlags g rest)
  | r => some (.capture none r)

/-! ### Repetition -/

/-- Read a decimal number, with blanks around it. -/
def count? (cs : Input) : Option Nat × Input :=
  let r := cs.dropWhile Text.isBlank
  let ds := r.takeWhile Char.isDigit
  let n := ds.foldl (fun n c => 10 * n + (c.toNat - '0'.toNat)) 0
  let rest := (r.dropWhile Char.isDigit).dropWhile Text.isBlank
  (if ds ≠ [] ∧ n < Nat.pow 2 32 then some n else none, rest)

/-- Read a repetition by number after its opening brace: the least number, and the greatest if there
is one. -/
def range? (f : Flags) (cs : Input) : Option (Nat × Option Nat × Input) :=
  match count? (f.skip cs) with
  | (first, ',' :: r) =>
      match f.skip r with
      | '\x7d' :: rest => first.map fun n => (n, none, rest)
      | r =>
          match first, count? r with
          | some n, (some m, '\x7d' :: rest) => if n ≤ m then some (n, some m, rest) else none
          | _, _ => none
  | (some n, '\x7d' :: rest) => some (n, some n, rest)
  | _ => none

/-- Skip the question mark that makes a repetition reluctant. -/
def skipLazy : Input → Input
  | '?' :: r => r
  | r => r

/-- A part repeated. -/
def Part.repeated (p : Part) (n : Nat) (m : Option Nat) : Option Part :=
  let copies := m.elim (n + 1) id
  let size := p.size * max copies 1 + 64
  if !p.repeatable then none
  else if sizeLimit < size then some ⟨.empty, p.depth + 1, size, true⟩
  else
    let tail := match m with
      | none => .star p.pattern
      | some m => p.pattern.upTo (m - n)
    let whole := if n = 0 then tail else Pattern.cat (p.pattern.power n) tail
    some ⟨whole, p.depth + 1, size, true⟩

/-! ### Patterns -/

/-- Parts one after the other, given last first. -/
def sequence (parts : List Part) : Part :=
  match parts with
  | [] => ⟨.empty, 0, 0, false⟩
  | [p] => p
  | _ =>
      ⟨(parts.foldl (fun q p => Pattern.cat p.pattern q) .empty),
        (parts.map Part.depth).foldl max 0 + 1, parts.foldr (fun p n => p.size + n) 0, true⟩

/-- Alternatives, given last first. -/
def alternatives (parts : List Part) : Part :=
  match parts with
  | [] => ⟨.empty, 0, 0, false⟩
  | [p] => p
  | p :: r =>
      ⟨r.foldl (fun q p => Pattern.alt p.pattern q) p.pattern,
        ((p :: r).map Part.depth).foldl max 0 + 1,
          (p :: r).foldr (fun p n => p.size + n) 0 + 64, true⟩

def Part.ofSet (s : CharSet) (depth : Nat) : Part :=
  ⟨.leaf s false, depth, 32 + 60 * s.weight, true⟩

def Part.ofEscape (f : Flags) : Escape → Part
  | .literal c => .ofSet (f.literal c) 0
  | .set s => .ofSet s 0
  | .look a => ⟨.look a, 0, 32, true⟩

/-- What has been read of a group: the names of all groups so far, finished alternatives and the
parts of the current one, both last first. -/
structure Reading where
  names : List String
  done : List Part
  parts : List Part

namespace Reading

def push (st : Reading) (p : Part) : Reading := { st with parts := p :: st.parts }

/-- Repeat the last part. -/
def repeatLast (st : Reading) (n : Nat) (m : Option Nat) : Option Reading :=
  match st.parts with
  | [] => none
  | p :: r => (p.repeated n m).map fun q => { st with parts := q :: r }

def finish (st : Reading) : Part := alternatives (sequence st.parts :: st.done)

end Reading

/-- Read alternatives up to a closing bracket or the end of the text. -/
def group (n : Nat) (f : Flags) (st : Reading) (cs : Input) : Option (Part × List String × Input) :=
  match n with
  | 0 => none
  | n + 1 =>
      match f.skip cs with
      | [] => some (st.finish, st.names, [])
      | ')' :: r => some (st.finish, st.names, ')' :: r)
      | '|' :: r => group n f ⟨st.names, sequence st.parts :: st.done, []⟩ r
      | '(' :: r =>
          match groupStart? f r with
          | none => none
          | some (.setFlags g rest) => group n g (st.push ⟨.empty, 0, 0, false⟩) rest
          | some (.plain g rest) =>
              match group n g ⟨st.names, [], []⟩ rest with
              | some (p, names, ')' :: rest) =>
                  group n f ({ st with names := names }.push ⟨p.pattern, p.depth + 1, p.size, true⟩)
                    rest
              | _ => none
          | some (.capture name rest) =>
              if name.any (· ∈ st.names) then none
              else
                match group n f ⟨name.toList ++ st.names, [], []⟩ rest with
                | some (p, names, ')' :: rest) =>
                    group n f
                      ({ st with names := names }.push ⟨p.pattern, p.depth + 1, p.size, true⟩)
                      rest
                | _ => none
      | '[' :: r =>
          match classFrom f (2 * r.length + 2) r with
          | none => none
          | some (s, depth, rest) => group n f (st.push (.ofSet s depth)) rest
      | '*' :: r => (st.repeatLast 0 none).bind fun st => group n f st (skipLazy r)
      | '+' :: r => (st.repeatLast 1 none).bind fun st => group n f st (skipLazy r)
      | '?' :: r => (st.repeatLast 0 (some 1)).bind fun st => group n f st (skipLazy r)
      | '\x7b' :: r =>
          match st.parts, range? f r with
          | _ :: _, some (a, b, rest) =>
              (st.repeatLast a b).bind fun st => group n f st (skipLazy (f.skip rest))
          | _, _ => none
      | '\\' :: r =>
          match escape? f r with
          | none => none
          | some (e, rest) => group n f (st.push (.ofEscape f e)) rest
      | '.' :: r => f.dot.bind fun s => group n f (st.push (.ofSet s 0)) r
      | '^' :: r => group n f (st.push ⟨.look f.lineStart, 0, 32, true⟩) r
      | '$' :: r => group n f (st.push ⟨.look f.lineEnd, 0, 32, true⟩) r
      | c :: r => group n f (st.push (.ofSet (f.literal c) 0)) r

/-- Read a pattern. -/
def parse? (text : String) : Except Error Pattern :=
  let cs := text.toList
  match group (cs.length + 1) {} ⟨[], [], []⟩ cs with
  | some (p, _, []) =>
      if nestLimit < p.depth then .error .malformed
      else if sizeLimit < p.size then .error .tooLarge
      else .ok p.pattern
  | _ => .error .malformed

end Parley.Pattern
