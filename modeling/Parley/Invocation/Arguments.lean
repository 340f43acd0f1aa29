/-!
# Arguments of the program

An option has a long name and may have a letter; its value follows it, after `=` or as the next
argument.  What is no option is a plain argument, as is everything after `--`.

* `Switch`, `Arguments`, `Arguments.split`;
* `Job`: what is asked for;
* `Invocation`, `Invocation.ofArguments?`.
-/

namespace Parley

/-- An option: its names, and whether it has a value and may be repeated. -/
structure Switch where
  name : String
  letter : Option Char := none
  hasValue : Bool := true
  repeats : Bool := false

/-- The options and the plain arguments, in order. -/
structure Arguments where
  options : List (String × String) := []
  plain : List String := []

namespace Arguments

/-- The values given to an option. -/
def values (a : Arguments) (name : String) : List String :=
  (a.options.filter (·.1 = name)).map (·.2)

/-- The value given to an option. -/
def value? (a : Arguments) (name : String) : Option String := (a.values name).head?

def withOption (s : Switch) (v : String) (a : Arguments) : Arguments :=
  { a with options := (s.name, v) :: a.options }

def withPlain (arg : String) (a : Arguments) : Arguments := { a with plain := arg :: a.plain }

/-- The option that an argument names, with the value attached to it. -/
def option? (switches : List Switch) (arg : String) : Option (Option Switch × Option String) :=
  match arg.toList with
  | '-' :: '-' :: cs =>
      let value := (cs.dropWhile (· ≠ '=')).drop 1
      let s := switches.find? fun s => s.name.toList = cs.takeWhile (· ≠ '=')
      some (s, if cs.contains '=' then some (String.ofList value) else none)
  | '-' :: c :: r =>
      let s := switches.find? fun s => s.letter = some c
      let value := match r with
        | '=' :: r => r
        | r => r
      some (s, if r = [] then none else some (String.ofList value))
  | _ => none

/-- Whether an argument may be the value of an option. -/
def isValue (arg : String) : Bool := arg = "-" || !arg.startsWith "-"

/-- Split arguments.  With `leading`, the first plain argument ends the options, and `--` may
not. -/
def split (switches : List Switch) (leading : Bool) : List String → Option Arguments
  | [] => some {}
  | arg :: rest =>
      if arg = "--" then (if leading then none else some { plain := rest })
      else
        match option? switches arg with
        | none =>
            if leading then some { plain := arg :: rest }
            else (split switches leading rest).map (withPlain arg)
        | some (none, _) => none
        | some (some s, value) =>
            if !s.hasValue then
              if value.isNone then (split switches leading rest).map (withOption s "") else none
            else
              match value with
              | some v => (split switches leading rest).map (withOption s v)
              | none =>
                  match rest with
                  | v :: rest =>
                      if isValue v then (split switches leading rest).map (withOption s v) else none
                  | [] => none

/-- Split arguments; an option that may not be repeated is given once at most. -/
def ofList? (switches : List Switch) (leading : Bool) (args : List String) : Option Arguments := do
  let a ← split switches leading args
  if switches.all fun s => s.repeats || (a.values s.name).length ≤ 1 then some a else none

end Arguments

/-- What is asked for. -/
inductive Job
  | check (flow : String) (exported : Bool)
  | merge (layers : List String)
  | apply (flow edits : String) (description : Option String) (messages : List String)
  | replay (flow turns : String) (context : Option String)
  | settings
  | version
  deriving DecidableEq

/-- A job, with the file of its settings and the tenant that it is done for. -/
structure Invocation where
  settingsPath : String := "dialflow.toml"
  tenant : Option String := none
  job : Job
  deriving DecidableEq

namespace Job

/-- The job of a name and the arguments after it. -/
def ofArguments? (name : String) (args : List String) : Option Job :=
  match name with
  | "check" => do
      let a ← Arguments.ofList? [{ name := "export", hasValue := false }] false args
      match a.plain with
      | [flow] => some (.check flow (a.value? "export").isSome)
      | _ => none
  | "merge" => do
      let a ← Arguments.ofList? [] false args
      if a.plain = [] then none else some (.merge a.plain)
  | "apply" => do
      let switches : List Switch :=
        [{ name := "description", letter := some 'd' }, { name := "say", repeats := true }]
      let a ← Arguments.ofList? switches false args
      match a.plain with
      | [flow, edits] => some (.apply flow edits (a.value? "description") (a.values "say"))
      | _ => none
  | "replay" => do
      let a ← Arguments.ofList? [{ name := "context" }] false args
      match a.plain with
      | [flow, turns] => some (.replay flow turns (a.value? "context"))
      | _ => none
  | "config" => do
      let a ← Arguments.ofList? [] false args
      if a.plain = [] then some .settings else none
  | _ => none

end Job

/-- The options before the name of a job. -/
def leadingSwitches : List Switch := [
  { name := "config", letter := some 'c' },
  { name := "tenant", letter := some 't' },
  { name := "version", letter := some 'V', hasValue := false, repeats := true }]

/-- What the arguments of the program ask for. -/
def Invocation.ofArguments? (args : List String) : Option Invocation := do
  let a ← Arguments.ofList? leadingSwitches true args
  if (a.value? "version").isSome then some { job := .version }
  else
    match a.plain with
    | [] => none
    | name :: rest =>
        let job ← Job.ofArguments? name rest
        some { settingsPath := (a.value? "config").getD "dialflow.toml", tenant :=
          a.value? "tenant", job }

end Parley
