import Parley.Toml.Value

/-!
# Settings files as tables

A file is a sequence of statements, one a line: a key with its value, or the header of a table.  The
statements are applied one after the other to the table that holds all others.

* `Statement`, `Scan.statements`;
* `Draft`, `Draft.apply`: the tables so far, and where the next key belongs;
* `parse?`: the table that a text writes.
-/

namespace Parley.Toml

/-- What a line says. -/
inductive Statement
  | assign (path : List String) (key : String) (value : Value)
  | openTable (path : List String) (key : String)
  | openElement (path : List String) (key : String)

namespace Scan

/-- The header of a table. -/
def header : Scan Statement := do
  let element ← (do word "[["; pure true) <|> (do char '['; pure false)
  let (path, name) ← key
  word (if element then "]]" else "]")
  lineEnd
  pure (if element then .openElement path name else .openTable path name)

/-- A key with its value. -/
def assignment : Scan Statement := do
  let (path, name) ← key
  char '='
  blanks
  let v ← value
  lineEnd
  pure (.assign path name v)

/-- A line, with the blanks after it; a blank line and a comment say nothing. -/
def line : Scan (Option Statement) := do
  let s ← (do comment; lineBreak <|> ending; pure none) <|> (do lineBreak; pure none)
    <|> (some <$> header) <|> (some <$> assignment)
  blanks
  pure s

/-- All statements of a text, which may start with a byte order mark. -/
def statements : Scan (List Statement) := do
  let _ ← optional (char (Char.ofNat 0xFEFF))
  blanks
  let lines ← several line
  ending
  pure (lines.filterMap id)

end Scan

/-- The tables so far, and the path of the one that was opened last. -/
structure Draft where
  root : Members := []
  current : List String := []

namespace Draft

/-- Open a table: it is new, or headers have passed through it. -/
def openTable (key : String) (ms : Members) : Option Members :=
  match ms.get? key with
  | none => some (ms.set key (.table .declared []))
  | some (.table .passed inner) => some (ms.set key (.table .declared inner))
  | some _ => none

/-- Open one more table of a name. -/
def openElement (key : String) (ms : Members) : Option Members :=
  match ms.get? key with
  | none => some (ms.set key (.tables [] []))
  | some (.tables earlier last) => some (ms.set key (.tables (earlier ++ [last]) []))
  | some _ => none

/-- The effect of a statement; none when it repeats a key or extends what is complete. -/
def apply (d : Draft) : Statement → Option Draft
  | .assign path key v =>
      (Members.alter .passed (fun here ms => Members.assign path key v here ms) d.current .declared
        d.root).map fun root => { d with root }
  | .openTable path key =>
      (Members.alter .passed (fun _ ms => openTable key ms) path .declared d.root).map fun root =>
        ⟨root, path ++ [key]⟩
  | .openElement path key =>
      (Members.alter .passed (fun _ ms => openElement key ms) path .declared d.root).map fun root =>
        ⟨root, path ++ [key]⟩

end Draft

/-- The members of the table that a text writes. -/
def parse? (text : String) : Option (List (String × Value)) := do
  let statements ← Scan.statements.all text.toList
  let d ← statements.foldlM Draft.apply {}
  pure (Members.toValues d.root)

end Parley.Toml
