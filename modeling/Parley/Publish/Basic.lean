import Parley.Edit.Basic
import Parley.Graph.Compile
import Parley.Layer.Merge
import Parley.Service.Event
import Parley.Store.Plan

/-!
# Publishing versions

A new version of a flow is computed from the store, compiled, stamped and then published as the
successor of the version that it was computed from.  Each operation is a plan of store calls that
ends in a `Report`: the version that was published, or why none was, and the event that announces
it.

* `PublishError`, `Stamp`, `EditRequest`;
* `Publisher.create`, `Publisher.apply`, `Publisher.rollback`, `Publisher.publishLayers`.
-/

namespace Parley

/-- Why no version was published. -/
inductive PublishError
  | stale (base current : Version)
  | edit (error : EditError)
  | unknownFlow (name : String)
  | compile (error : CompileError)
  | store (fault : StoreFault)

def PublishError.message : PublishError → String
  | .stale base current =>
      "Stale version: edits were computed against v" ++ toString base ++ " but the flow is at v"
        ++ toString current
  | .edit e => e.message
  | .unknownFlow name => "Flow not found: " ++ name
  | .compile e => "Edited flow does not compile: " ++ e.message
  | .store fault => "Storage failure: " ++ fault.message

/-- What is new about each publication. -/
structure Stamp where
  changeId : String
  createdAt : Timestamp

/-- A batch of edits, computed against a version of a flow. -/
structure EditRequest where
  tenant : TenantId
  flow : FlowId
  baseVersion : Version
  edits : List Edit
  description : Option String := none
  author : Option String := none

/-- What an operation leads to, and the events that tell of it. -/
structure Report (α : Type) where
  result : Except PublishError α
  events : List Event

namespace Publisher

/-- The flow as the next version after another one. -/
def stamped (stamp : Stamp) (base : Option Version) (description : String) (author : Option String)
    (f : Flow) : Flow :=
  let version := base.elim 1 (· + 1)
  { f with
    version := version
    record := some ⟨version, base, description, author, stamp.changeId, stamp.createdAt⟩ }

/-- Compile a flow and publish it as the successor of a version. -/
def publishNext (host : Host) (stamp : Stamp) (tenant : TenantId) (f : Flow) (base : Option Version)
    (description : String) (author : Option String) : Plan (Except PublishError Flow) :=
  match host.compile f with
  | .error e => pure (.error (.compile e))
  | .ok _ =>
      let next := stamped stamp base description author f
      .publish tenant next base fun r => pure (
        match r with
        | .ok .published => .ok next
        | .ok (.stale current) => .error (.stale (base.getD 0) current)
        | .error fault => .error (.store fault))

/-- The event that tells of a result. -/
def announcement (tenant : TenantId) (flow : FlowId) (base : Version) :
    Except PublishError Flow → Event
  | .ok f => .published tenant flow f.version (f.record.elim "" VersionRecord.description)
  | .error e => .rejected tenant flow base e.message

/-- A result with the event that tells of it. -/
def report (tenant : TenantId) (flow : FlowId) (base : Version)
    (result : Except PublishError Flow) :
    Report Flow :=
  ⟨result, [announcement tenant flow base result]⟩

/-- Publish the first version of a flow. -/
def create (host : Host) (stamp : Stamp) (tenant : TenantId) (f : Flow) (author : Option String) :
    Plan (Report Flow) := do
  let result ← publishNext host stamp tenant f none "initial version" author
  pure (report tenant f.id 0 result)

/-- The last version of a flow. -/
def current (key : FlowKey) : Plan (Except PublishError Flow) :=
  .latest key fun r => pure (
    match r with
    | .ok (some f) => .ok f
    | .ok none => .error (.unknownFlow key.flow)
    | .error fault => .error (.store fault))

/-- A version of a flow. -/
def earlier (key : FlowKey) (v : Version) : Plan (Except PublishError Flow) :=
  .load key v fun r => pure (
    match r with
    | .ok (some f) => .ok f
    | .ok none => .error (.unknownFlow (key.flow ++ " v" ++ toString v))
    | .error fault => .error (.store fault))

/-- What is said about a version: its description, or else a summary of the edits. -/
def describe (r : EditRequest) : String :=
  r.description.getD ("; ".intercalate (r.edits.map Edit.shown))

/-- Apply a batch of edits and publish the result. -/
def applied (host : Host) (stamp : Stamp) (r : EditRequest) : Plan (Except PublishError Flow) := do
  match ← current ⟨r.tenant, r.flow⟩ with
  | .error e => pure (.error e)
  | .ok f =>
      if f.version ≠ r.baseVersion then pure (.error (.stale r.baseVersion f.version))
      else
        match f.edit r.edits with
        | .error e => pure (.error (.edit e))
        | .ok next =>
            publishNext host stamp r.tenant next (some f.version) (describe r) r.author

/-- Apply a batch of edits, publish the result and tell of it. -/
def apply (host : Host) (stamp : Stamp) (r : EditRequest) : Plan (Report Flow) := do
  pure (report r.tenant r.flow r.baseVersion (← applied host stamp r))

/-- Publish what an earlier version held. -/
def rolledBack (host : Host) (stamp : Stamp) (key : FlowKey) (target : Version)
    (author : Option String) :
    Plan (Except PublishError Flow) := do
  match ← current key with
  | .error e => pure (.error e)
  | .ok f =>
      match ← earlier key target with
      | .error e => pure (.error e)
      | .ok content =>
          publishNext host stamp key.tenant content (some f.version)
            ("rollback to v" ++ toString target)
            author

/-- The version that a published one replaced. -/
def predecessor : Except PublishError Flow → Version
  | .ok f => (f.record.bind VersionRecord.predecessor).getD 0
  | .error _ => 0

/-- Publish what an earlier version held, and tell of it. -/
def rollback (host : Host) (stamp : Stamp) (key : FlowKey) (target : Version)
    (author : Option String) :
    Plan (Report Flow) := do
  let result ← rolledBack host stamp key target author
  pure (report key.tenant key.flow (predecessor result) result)

/-- Merge layers and publish the result as the successor of a version.  Layers that do not merge
into a flow that compiles publish nothing and are not told of. -/
def publishLayers (host : Host) (stamp : Stamp) (tenant : TenantId) (layers : List Layer)
    (base : Option Version) (author : Option String) : Plan (Report Merged) := do
  match Layer.merge layers >>= fun m => (host.compile m.flow).map fun _ => m with
  | .error e => pure ⟨.error (.compile e), []⟩
  | .ok merged =>
      let description := "merge of " ++ toString layers.length ++ " layer(s), "
        ++ toString merged.conflicts.length ++ " conflict(s)"
      let result ← publishNext host stamp tenant merged.flow base description author
      let told := report tenant merged.flow.id (base.getD 0) result
      pure ⟨told.result.map (Merged.mk · merged.conflicts), told.events⟩

end Publisher

end Parley
