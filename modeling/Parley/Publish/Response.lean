import Parley.Feedback.Basic
import Parley.Publish.Basic

/-!
# Answers to authors

* `ActionResult.ofPublication`: a publication as the result of an action;
* `PublishResponse`: a publication as an authoring tool sees it.
-/

namespace Parley

/-- How an error is told to the user. -/
def PublishError.failureKind : PublishError → FailureKind
  | .stale _ _ => .conflict
  | .store _ => .internal
  | .edit _ | .unknownFlow _ | .compile _ => .invalid

/-- A publication as the result of an action. -/
def ActionResult.ofPublication : Except PublishError Flow → ActionResult
  | .ok f =>
      let result := ((ActionResult.success []).withDetail "flow" f.id).withDetail "version"
        (toString f.version)
      f.record.elim result fun r => result.withDetail "description" r.description
  | .error e => .failure e.failureKind e.message

/-- The messages for the user after a publication, given the drafts. -/
def reconcilePublication (drafts : List String) (result : Except PublishError Flow) : List String :=
  (ActionResult.ofPublication result).reconcile drafts

/-- What an authoring tool is told. -/
inductive PublishResponse
  | published (version : Version) (conflicts : List Conflict)
  | refused (message : String)

namespace PublishResponse

def ofResult : Except PublishError Flow → PublishResponse
  | .ok f => .published f.version []
  | .error e => .refused e.message

def ofMergeResult : Except PublishError Merged → PublishResponse
  | .ok merged => .published merged.flow.version merged.conflicts
  | .error e => .refused e.message

def toJson : PublishResponse → Json
  | .published version conflicts =>
      .object (
        [("success", .bool true), ("new_version", .nat version)]
          ++ if conflicts.isEmpty then [] else
            [("conflicts", .array (conflicts.map Conflict.toJson))])
  | .refused message => .object [("success", .bool false), ("error", .string message)]

end PublishResponse

end Parley
