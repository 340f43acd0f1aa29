import Parley.Invocation.Arguments
import Parley.Invocation.Complaint
import Parley.Invocation.Terminal
import Parley.Edit.Codec
import Parley.Graph.Export
import Parley.Publish.Response
import Parley.Service.Basic
import Parley.Store.Codec
import Parley.Text.Blank

/-!
# Running an invocation

A job reads files, prints what it finds out, and may publish to the store that the settings name.
What was printed before a complaint stays printed.

* `Invocation.check`, `merge`, `apply`, `replay`: the jobs;
* `Invocation.run`: the settings and the job of an invocation.
-/

namespace Parley

/-- Something done for an invocation, which may end in a complaint. -/
abbrev Attempt (m : Type → Type) (α : Type) := ExceptT Complaint m α

namespace Invocation

variable {m : Type → Type} [Monad m]

/-- A value, or a complaint. -/
def ofExcept {ε α : Type} (complain : ε → Complaint) : Except ε α → Attempt m α
  | .ok a => pure a
  | .error e => throw (complain e)

/-- The text of a file. -/
def text (t : Terminal m) (path : String) : Attempt m String := do
  match ← t.read path with
  | .text s => pure s
  | _ => throw (.unreadable path)

/-- The value in a file. -/
def value {α : Type} (t : Terminal m) (r : Json.Reader α) (path : String) : Attempt m α := do
  let s ← text t path
  ofExcept (fun _ => .misfit path) (r.ofText s)

/-! ### Settings and the store -/

/-- The settings in a file, or the usual ones if there is no file. -/
def settings (t : Terminal m) (path : String) : Attempt m Settings := do
  match ← t.read path with
  | .absent => pure {}
  | .directory => throw (.settings (.notFound path))
  | .text s => do
      let values ← (Reference.names s).mapM fun name => do pure (name, ← t.env name)
      ofExcept .settings (Settings.ofFile (fun name => (values.lookup name).join) s)

/-- A store with one of these paths is gone when the program ends. -/
def isPassing (path : String) : Bool := path = "" || path = ":memory:"

/-- The path of the file that holds the store, if there is one. -/
def storePath (t : Terminal m) (s : StoreSettings) : Attempt m (Option String) := do
  let path := s.resolved (← t.env "HOME")
  pure (if s.backend = .memory ∨ isPassing path then none else some path)

/-- The store that the settings name. -/
def openStore (t : Terminal m) (s : StoreSettings) : Attempt m Store := do
  match ← storePath t s with
  | none => pure { backend := s.backend }
  | some path =>
      match ← t.read path with
      | .absent | .text "" => pure { backend := s.backend }
      | .directory => throw (.storeUnopened path)
      | .text text => ofExcept (fun _ => .notDatabase) (Store.reader.ofText text)

/-- Keep the store for the next run. -/
def keepStore (t : Terminal m) (s : StoreSettings) (store : Store) : Attempt m Unit := do
  match ← storePath t s with
  | none => pure ()
  | some path => t.write path store.toJson.compact

/-! ### Jobs -/

/-- The name and the version of the program. -/
def versionText : String := "dialflow 0.1.0"

/-- Compile a flow and print whether it is sound, or what it compiles to. -/
def check (t : Terminal m) (path : String) (exported : Bool) : Attempt m Unit := do
  let s ← text t path
  let flow ← ofExcept (fun _ => .flowMisfit path) (Flow.reader.ofText s)
  let g ← ofExcept (.uncompiled path) (Host.builtin.compile flow)
  t.print
    (if exported then g.exportText
    else
      g.id ++ " v" ++ toString g.version ++ ": ok (" ++ toString g.areas.length ++ " scope(s), "
        ++ toString g.warnings.length ++ " warning(s))")

/-- Merge layers and print the flow that they make. -/
def merge (t : Terminal m) (paths : List String) : Attempt m Unit := do
  let layers ← paths.mapM (value t Layer.reader)
  let merged ← ofExcept .unmerged (do
    let merged ← Layer.merge layers
    let _ ← Host.builtin.compile merged.flow
    pure merged)
  t.print merged.flow.toJson.pretty

/-- Publish edits of a flow, which is published itself if the store does not hold it yet, and print
the response and the messages for the user. -/
def apply (t : Terminal m) (s : StoreSettings) (tenant : TenantId) (flowPath editsPath : String)
    (description : Option String) (messages : List String) : Attempt m Unit := do
  let flow ← value t Flow.reader flowPath
  let edits ← value t (.list Edit.reader) editsPath
  let store ← openStore t s
  let author ← t.env "USER"
  let (store, current) ← match store.latest ⟨tenant, flow.id⟩ with
    | .error fault => throw (.service (.store fault))
    | .ok (some current) => pure (store, current)
    | .ok none => do
        let (store, created) := (Publisher.create .builtin (← t.stamp) tenant flow author).run store
        pure (store, ← ofExcept .publish created.result)
  let request : EditRequest :=
    { tenant, flow := current.id, baseVersion := current.version, edits, description, author }
  let (store, applied) := (Publisher.apply .builtin (← t.stamp) request).run store
  keepStore t s store
  t.print (PublishResponse.ofResult applied.result).toJson.pretty
  if messages ≠ [] then
    (reconcilePublication messages applied.result).forM fun line => t.print line

/-- Run one command of the replayed thread and print its outcome. -/
def step (t : Terminal m) (s : ServiceSettings) (tenant : TenantId) (service : Service)
    (command : Command) : Attempt m Service := do
  let (service, reply) := service.execute s ⟨tenant, "replay"⟩ command
  match ← ofExcept .service reply with
  | .outcome o => t.print o.toJson.compact
  | .closed _ => pure ()
  pure service

/-- The lines of a text, without their ends. -/
def lines (text : String) : List String :=
  let parts := text.splitOn "\n"
  let whole :=
    parts.dropLast.map fun line => if line.endsWith "\r" then (line.dropEnd 1).toString else line
  match parts.getLast? with
  | none | some "" => whole
  | some last => whole ++ [last]

/-- The text that holds the turns of a conversation. -/
def turnsText (t : Terminal m) (path : String) : Attempt m String := do
  if path = "-" then t.input
  else
    match ← t.read path with
    | .text s => pure s
    | .directory => throw .isDirectory
    | .absent => throw (.unopened path)

/-- Start a conversation and process the turns of a file, one a line, printing each outcome. -/
def replay (t : Terminal m) (s : Settings) (tenant : TenantId) (flowPath turnsPath : String)
    (contextPath : Option String) : Attempt m Unit := do
  let flow ← value t Flow.reader flowPath
  let context ← match contextPath with
    | none => pure []
    | some path => value t .jsonObject path
  let (service, created) :=
    Service.publish {} (Publisher.create .builtin (← t.stamp) tenant flow none)
  let created ← ofExcept .publish created
  let serviceSettings : ServiceSettings := ⟨.builtin, .ofSettings s, s.lanes.graphCache⟩
  let service ← step t serviceSettings tenant service (.start created.id context)
  let numbered := (lines (← turnsText t turnsPath)).mapIdx fun i line => (i + 1, line)
  let _ ← numbered.foldlM (fun service (i, line) => do
    if Text.isBlankText line then pure service
    else
      let input ← ofExcept (fun _ => .turnMisfit i) (TurnInput.reader.ofText line)
      step t serviceSettings tenant service (.operate (.turn input))) service

/-- Do a job for a tenant. -/
def perform (t : Terminal m) (s : Settings) (tenant : TenantId) : Job → Attempt m Unit
  | .check flow exported => check t flow exported
  | .merge layers => merge t layers
  | .apply flow edits description messages => apply t s.store tenant flow edits description messages
  | .replay flow turns context => replay t s tenant flow turns context
  | .settings => t.print s.fileText
  | .version => t.print versionText

/-- Run an invocation.  The version is told without a look at the settings. -/
def run (i : Invocation) (t : Terminal m) : Attempt m Unit := do
  if i.job = .version then t.print versionText
  else
    let s ← settings t i.settingsPath
    let tenant := i.tenant.getD (((← t.env "DIALFLOW_TENANT")).getD "default")
    perform t s tenant i.job

end Invocation

end Parley
