import Parley.Config.Toml
import Parley.Service.Failure

/-!
# Why an invocation fails

A complaint has a message and the causes behind it, nearest first; `Complaint.report` shows them
all.
-/

namespace Parley

/-- Why an invocation fails. -/
inductive Complaint
  | settings (error : SettingsError)
  | unreadable (path : String)
  | unopened (path : String)
  | isDirectory
  | misfit (path : String)
  | turnMisfit (line : Nat)
  | flowMisfit (path : String)
  | uncompiled (path : String) (error : CompileError)
  | unmerged (error : CompileError)
  | notDatabase
  | storeUnopened (path : String)
  | publish (error : PublishError)
  | service (failure : Failure)

/-- What is behind an error of a graph. -/
def CompileError.causes : CompileError → List String
  | .guard _ e => [e.message]
  | _ => []

namespace Complaint

def message : Complaint → String
  | .settings e => e.message
  | .unreadable path => "Failed to read " ++ path
  | .unopened path => "Failed to open " ++ path
  | .isDirectory => "Is a directory (os error 21)"
  | .misfit path => "Invalid JSON in " ++ path
  | .turnMisfit line => "Line " ++ toString line ++ ": invalid extraction input"
  | .flowMisfit path => path ++ " does not compile"
  | .uncompiled path _ => path ++ " does not compile"
  | .unmerged e => e.message
  | .notDatabase => "Database error: file is not a database"
  | .storeUnopened path => "Database error: unable to open database file: " ++ path
  | .publish e => e.message
  | .service f => f.message

/-- What is behind a complaint, nearest first. -/
def causes : Complaint → List String
  | .uncompiled _ e => e.message :: e.causes
  | .unmerged e => e.causes
  | .publish (.compile e) => e.message :: e.causes
  | .service (.compile e) => e.causes
  | _ => []

/-- A cause, indented; all its lines but the first stand under its text. -/
def shownCause (label : String) (cause : String) : String :=
  let under := "\n" ++ String.ofList (List.replicate (4 + label.length) ' ')
  "    " ++ label ++ under.intercalate (cause.splitOn "\n")

/-- The message of a complaint and what is behind it; several causes are numbered. -/
def report (c : Complaint) : String :=
  let causes := match c.causes with
    | [] => []
    | [cause] => ["", "Caused by:", shownCause "" cause]
    | causes => "" :: "Caused by:" :: causes.mapIdx fun i cause =>
      shownCause (toString i ++ ": ") cause
  "\n".intercalate (("Error: " ++ c.message) :: causes)

end Complaint

end Parley
