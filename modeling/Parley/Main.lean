import Std.Time.DateTime.Timestamp
import Parley.Invocation.Run

/-!
# The program

Runs an invocation on the machine: exit code 1 stands for a complaint, and 2 for arguments that ask
for nothing.
-/

namespace Parley.Machine

/-- What stands at a path of the machine. -/
def read (path : String) : IO Content := do
  try
    let s ← IO.FS.readFile path
    pure (.text s)
  catch e =>
    match e with
    | .noFileOrDirectory .. => pure .absent
    | _ => pure .directory

/-- Replace a file, in a directory that is made if it is missing. -/
def write (path text : String) : IO Unit := do
  let parent := "/".intercalate (path.splitOn "/").dropLast
  if parent ≠ "" then IO.FS.createDirAll parent
  IO.FS.writeFile path text

/-- The rest of a stream. -/
partial def readAll (stream : IO.FS.Stream) (before : String) : IO String := do
  let line ← stream.getLine
  if line = "" then pure before else readAll stream (before ++ line)

/-- Hexadecimal digits picked at random. -/
def randomDigits (n : Nat) : IO String := do
  let ds ← (List.range n).mapM fun _ => do pure (Nat.digitChar (← IO.rand 0 15))
  pure (String.ofList ds)

/-- A random identifier in five groups. -/
def randomId : IO String := do
  let a ← randomDigits 8
  let b ← randomDigits 4
  let c ← randomDigits 3
  let d := Nat.digitChar (← IO.rand 8 11)
  let e ← randomDigits 3
  let f ← randomDigits 12
  pure ("-".intercalate [a, b, "4" ++ c, String.ofList [d] ++ e, f])

/-- The time now. -/
def now : IO Timestamp := do
  let nanos := (← Std.Time.Timestamp.now).toNanosecondsSinceUnixEpoch.val
  let seconds := nanos / 1000000000
  pure ⟨seconds / 60, (seconds % 60).toNat, (nanos % 1000000000).toNat⟩

/-- The machine as a terminal. -/
def terminal : Terminal IO where
  read := read
  write := write
  print line := IO.println line
  input := do readAll (← IO.getStdin) ""
  env name := do IO.getEnv name
  stamp := do pure ⟨← randomId, ← now⟩

end Parley.Machine

def usage : String :=
  "Usage: dialflow [-c FILE] [-t TENANT] check|merge|apply|replay|config ..."

def main (args : List String) : IO UInt32 := do
  match Parley.Invocation.ofArguments? args with
  | none =>
      IO.eprintln usage
      pure 2
  | some invocation =>
      match ← (invocation.run Parley.Machine.terminal).run with
      | .ok () => pure 0
      | .error complaint =>
          IO.eprintln complaint.report
          pure 1
