import Parley.Publish.Basic

/-!
# What an invocation runs in

An invocation reaches the world around it through a `Terminal`, which may be that of a machine or a
model of one.  `Disk` is such a model: files by path, and the lines that were printed.
-/

namespace Parley

/-- What stands at a path. -/
inductive Content
  | absent
  | directory
  | text (s : String)
  deriving DecidableEq, Inhabited

/-- What can be done besides computing. -/
structure Terminal (m : Type → Type) where
  /-- What stands at a path. -/
  read : String → m Content
  /-- Replace the text at a path. -/
  write : String → String → m Unit
  /-- Print a text and end the line. -/
  print : String → m Unit
  /-- All of the standard input. -/
  input : m String
  /-- The value of a variable of the environment. -/
  env : String → m (Option String)
  /-- What is new about a publication. -/
  stamp : m Stamp

/-- Files in memory.  Paths are taken from `home`, and files are found under full paths without
dots. -/
structure Disk where
  home : String
  files : List (String × String) := []
  «variables» : List (String × String) := []
  input : String := ""
  printed : List String := []

namespace Disk

/-- The names on the way to a place, innermost first, after one more name. -/
def enter (place : List String) (name : String) : List String :=
  if name = "" ∨ name = "." then place
  else if name = ".." then place.drop 1
  else name :: place

/-- The full path of a path. -/
def fullPath (d : Disk) (path : String) : String :=
  let path := if path.startsWith "/" then path else d.home ++ "/" ++ path
  "/" ++ "/".intercalate ((path.splitOn "/").foldl enter []).reverse

/-- What stands at a path.  A directory is there if something lies in it. -/
def read (d : Disk) (path : String) : Content :=
  let full := d.fullPath path
  let inner := if full = "/" then full else full ++ "/"
  if path = "" then .absent
  else
    match d.files.lookup full with
    | some s => .text s
    | none =>
        if ((d.home ++ "/") :: d.files.map (·.1)).any fun p => p.startsWith inner then .directory
        else .absent

/-- Replace the text at a path. -/
def write (d : Disk) (path text : String) : Disk :=
  let full := d.fullPath path
  { d with files := (full, text) :: d.files.filter (·.1 ≠ full) }

/-- The model of a machine with a disk on which all publications look alike. -/
def terminal (stamp : Stamp) : Terminal (StateM Disk) where
  read path := do pure ((← get).read path)
  write path text := modify fun d => d.write path text
  print line := modify fun d => { d with printed := d.printed ++ [line] }
  input := do pure (← get).input
  env name := do pure ((← get).«variables».lookup name)
  stamp := pure stamp

end Disk

end Parley
