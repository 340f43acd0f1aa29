import Parley.Feedback.Draft
import Parley.Json.Reader

/-!
# Messages that tell the truth

Messages for the user are drafted before an action runs.  Afterwards they are reconciled with its
result: a failure is told in fixed words and none of the drafts stays; after a success the drafts
are filled in, and those that name unknown details give way to one summary.

* `FailureKind`, `ActionResult`;
* `ActionResult.reconcile`: the messages for the user.
-/

namespace Parley

inductive FailureKind
  | timeout
  | conflict
  | invalid
  | internal
  deriving DecidableEq, Inhabited

namespace FailureKind

def name : FailureKind → String
  | .timeout => "timeout"
  | .conflict => "conflict"
  | .invalid => "invalid"
  | .internal => "internal"

def ofName? : String → Option FailureKind
  | "timeout" => some .timeout
  | "conflict" => some .conflict
  | "invalid" => some .invalid
  | "internal" => some .internal
  | _ => none

/-- What the user is told. -/
def explanation : FailureKind → String
  | .timeout =>
      "Sorry, that took too long to respond and did not go through. Nothing was changed, so it "
        ++ "is safe to try again."
  | .conflict =>
      "Someone else changed this flow at the same time, so your changes were not saved. Please "
        ++ "review the latest version and try again."
  | .invalid =>
      "Those changes could not be applied because they would leave the flow incomplete. Nothing "
        ++ "was changed."
  | .internal =>
      "Something went wrong on our side and your changes were not saved. Please try again in a "
        ++ "moment."

end FailureKind

/-- How an action ended.  The reason of a failure is not for the user. -/
inductive ActionResult
  | success (details : Dict String)
  | failure (kind : FailureKind) (reason : String)
  deriving DecidableEq, Inhabited

namespace ActionResult

def isSuccess : ActionResult → Bool
  | .success _ => true
  | .failure _ _ => false

/-- The result with one more detail; a failure stays as it is. -/
def withDetail (r : ActionResult) (key value : String) : ActionResult :=
  match r with
  | .success details => .success (details.insert key value)
  | r => r

/-- What is said of a success when no draft says it. -/
def summary (details : Dict String) : String :=
  match details.get? "flow", details.get? "version" with
  | some flow, some version =>
      "Your changes to " ++ flow ++ " are live as version " ++ version
        ++ (details.get? "description").elim "" (": " ++ ·) ++ "."
  | _, _ => "Your request went through."

/-- Fill in drafts in order; the first that names unknown details gives way to a summary, and later
ones of that kind are left out. -/
def fillDrafts (details : Dict String) (summarized : Bool) : List String → List String
  | [] => []
  | draft :: r =>
      match Draft.fill? details draft with
      | some text => text :: fillDrafts details summarized r
      | none =>
          if summarized then fillDrafts details true r
          else summary details :: fillDrafts details true r

/-- The messages for the user, given the drafts. -/
def reconcile (drafts : List String) : ActionResult → List String
  | .failure kind _ => [kind.explanation]
  | .success details =>
      if drafts.isEmpty then [summary details] else fillDrafts details false drafts

open Json

def toJson : ActionResult → Json
  | .success details =>
      .object [("result", .string "success"), ("details", .object (details.mapValues .string))]
  | .failure kind reason =>
      .object [("result", .string "failure"), ("kind", .string kind.name),
        ("internal", .string reason)]

def recordOf? : String → Option (Record ActionResult)
  | "success" => some (.success <$> .defaulted "details" (.dict .text) [])
  | "failure" =>
      some (.failure <$> .required "kind" (.choice FailureKind.ofName?) <*> .required
        "internal" .text)
  | _ => none

def reader : Reader ActionResult := Record.tagged "result" recordOf?

end ActionResult

end Parley
