/-!
# References to variables

A text may refer to variables of the environment as `$`, `{`, a name, `}`.  A name ends at the first
closing brace and may hold any other character; an opening brace that is never closed takes the rest
of the text as its name.

* `Piece`, `pieces`: a text as characters and references;
* `expand`: the text with each variable that is set replaced by its value;
* `names`: the variables that a text refers to.
-/

namespace Parley.Reference

/-- A part of a text: a character, or a reference with its name.  A reference that is not `closed`
is the last part of its text. -/
inductive Piece
  | char (c : Char)
  | reference (name : List Char) (closed : Bool)
  deriving DecidableEq

/-- How a reference is written. -/
def written (name : List Char) : List Char := ['$', '\x7b'] ++ name ++ ['\x7d']

/-- The characters of a name, up to a closing brace. -/
def nameOf (cs : List Char) : List Char := cs.takeWhile (· ≠ '\x7d')

/-- What follows a name and its closing brace. -/
def afterName (cs : List Char) : List Char := (cs.dropWhile (· ≠ '\x7d')).drop 1

theorem length_afterName_le (cs : List Char) : (afterName cs).length ≤ cs.length := by
  have h := (List.dropWhile_sublist (fun c : Char => decide (c ≠ '\x7d')) (l := cs)).length_le
  simp only [afterName, List.length_drop]
  omega

/-- The parts of a text. -/
def pieces : List Char → List Piece
  | '$' :: '\x7b' :: r => .reference (nameOf r) (r.contains '\x7d') :: pieces (afterName r)
  | c :: r => .char c :: pieces r
  | [] => []
termination_by cs => cs.length
decreasing_by
  · have := length_afterName_le r
    simp only [List.length_cons]
    omega
  · simp

/-- What a part becomes: a variable that is set becomes its value, one that is not set stays a
reference. -/
def Piece.expansion (env : String → Option String) : Piece → List Char
  | .char c => [c]
  | .reference name _ => ((env (String.ofList name)).map String.toList).getD (written name)

/-- Replace the references to variables that are set.  Values are not read for references again. -/
def expand (env : String → Option String) (text : String) : String :=
  String.ofList ((pieces text.toList).flatMap (Piece.expansion env))

/-- The variables that a text refers to. -/
def names (text : String) : List String :=
  (pieces text.toList).filterMap fun
    | .char _ => none
    | .reference name _ => some (String.ofList name)

end Parley.Reference
