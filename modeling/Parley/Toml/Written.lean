import Parley.Text.Quoted
import Parley.Toml.Value

/-!
# Written settings files

A text is written in the plainest quotes that hold it: double quotes if nothing in it needs an
escape, else single quotes, else three of either kind, else with escapes.  Numbers with a point
always show one.

* `textOf`, `floatOf`: values;
* `tableText`: a table with its keys.
-/

namespace Parley.Toml

/-- The longest run of a character. -/
def longestRun (q : Char) (cs : List Char) : Nat :=
  (cs.foldl (fun (best, run) c =>
    let run := if c = q then run + 1 else 0
    (max best run, run)) (0, 0)).1

/-- A control character that no quotes can hold as it is. -/
def isControl (c : Char) : Bool := (c.toNat < 32 && c ≠ '\t' && c ≠ '\n') || c.toNat = 127

/-- A character between double quotes, when `run` quotes stand before it and `long` tells of
three. -/
def escaped (long : Bool) (run : Nat) (c : Char) : List Char :=
  if c = '"' then (if long && run < 2 then [c] else ['\\', c])
  else if c = '\\' then ['\\', '\\']
  else if c = '\n' then (if long then [c] else ['\\', 'n'])
  else if c = '\t' then ['\\', 't']
  else if c = '\r' then ['\\', 'r']
  else if c.toNat = 8 then ['\\', 'b']
  else if c.toNat = 12 then ['\\', 'f']
  else if isControl c then
    let ds := (Text.hexChars c.toNat).map Char.toUpper
    ['\\', 'u'] ++ List.replicate (4 - ds.length) '0' ++ ds
  else [c]

/-- The characters of a text between double quotes; the third of three quotes is escaped. -/
def escapedFrom (long : Bool) : Nat → List Char → List Char
  | _, [] => []
  | run, c :: r =>
      let next := if c = '"' ∧ long ∧ run < 2 then run + 1 else 0
      escaped long run c ++ escapedFrom long next r

/-- A text in quotes. -/
def textOf (s : String) : String :=
  let cs := s.toList
  let control := cs.any isControl
  let several := cs.contains '\n'
  let doubles := longestRun '"' cs
  let singles := longestRun '\'' cs
  let double (long : Bool) : String :=
    let q := if long then "\"\"\"" ++ (if several then "\n" else "") else "\""
    q ++ String.ofList (escapedFrom long 0 cs) ++ (if long then "\"\"\"" else "\"")
  if !control && !cs.contains '\\' && doubles = 0 && !several then double false
  else if !control && singles = 0 && !several then "'" ++ s ++ "'"
  else if !control && !cs.contains '\\' && doubles ≤ 2 then double true
  else if !control && singles ≤ 2 then "'''" ++ (if several then "\n" else "") ++ s ++ "'''"
  else double several

/-- A number with a point. -/
def floatOf (x : Binary64) : String := if x.isNaN then "nan" else x.text .pointed

/-- A table with its keys and their written values. -/
def tableText (name : String) (entries : List (String × String)) : String :=
  "[" ++ name ++ "]\n" ++ String.join (entries.map fun (k, v) => k ++ " = " ++ v ++ "\n")

end Parley.Toml
