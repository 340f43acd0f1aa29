import Parley.Publish.Response
import Parley.Conversation.Fault

/-!
# Why the service refuses a command
-/

namespace Parley

/-- Why a command is refused. -/
inductive Failure
  | compile (error : CompileError)
  | store (fault : StoreFault)
  | conversation (fault : ConversationFault)
  | flowNotFound (key : FlowKey) (version : Option Version)
  | conversationNotFound (key : ThreadKey)
  | threadTaken (thread : ThreadId)
  | unwritten (reason : String)
  | laneClosed
  | laneDropped

namespace Failure

def message : Failure → String
  | .compile e => e.message
  | .store fault => fault.message
  | .conversation fault => "Invalid state: " ++ fault.message
  | .flowNotFound key version =>
      "Flow not found: " ++ key.tenant ++ "/" ++ key.flow
        ++ version.elim "" fun v => " " ++ shownVersion v
  | .conversationNotFound key => "Conversation not found: " ++ key.tenant ++ "/" ++ key.thread
  | .threadTaken thread => "Invalid state: thread " ++ thread ++ " already has a conversation"
  | .unwritten reason => "Database error: " ++ reason
  | .laneClosed => "Invalid state: conversation lane is closed"
  | .laneDropped => "Invalid state: conversation lane dropped the turn"

/-- How a failure is told to the user. -/
def kind : Failure → FailureKind
  | .compile _ => .invalid
  | _ => .internal

end Failure

end Parley
