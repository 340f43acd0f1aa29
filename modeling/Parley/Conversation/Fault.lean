import Parley.Flow.Basic

/-!
# What a conversation cannot do
-/

namespace Parley

/-- Why a conversation does not go on. -/
inductive ConversationFault
  | otherGraph (flow : FlowId) (version : Version) (given : FlowId) (givenVersion : Version)
  | missingScope (scope : ScopeId)
  | missingNode (node : NodeId) (scope : ScopeId)
  | strayExit (node : NodeId)
  | notEscalated
  | notInScope (node : NodeId) (scope : ScopeId)
  | pathNotOffered (path : PathId) (flow : FlowId)
  | otherFlow (flow next : FlowId)
  | notNewer (next version : Version)
  | subgraphGone (scope : ScopeId) (caller : NodeId) (next : Version)
  | nodeGone (node : NodeId) (next : Version)
  deriving DecidableEq

/-- A version as messages show it. -/
def shownVersion (v : Version) : String := "v" ++ toString v

def ConversationFault.message : ConversationFault → String
  | .otherGraph flow version given givenVersion =>
      "conversation is pinned to " ++ flow ++ " " ++ shownVersion version ++ ", got " ++
        given ++ " "
        ++ shownVersion givenVersion
  | .missingScope scope => "scope " ++ scope.shown ++ " not found"
  | .missingNode node scope => "node '" ++ node ++ "' not found in scope " ++ scope.shown
  | .strayExit node => "exit from '" ++ node ++ "' outside a subgraph"
  | .notEscalated => "conversation is not escalated"
  | .notInScope node scope => "node '" ++ node ++ "' is not in scope " ++ scope.shown
  | .pathNotOffered path flow => "path '" ++ path ++ "' is not offered by flow " ++ flow
  | .otherFlow flow next => "cannot re-pin " ++ flow ++ " onto flow " ++ next
  | .notNewer next version =>
      "cannot re-pin: " ++ shownVersion next ++ " is not newer than " ++ shownVersion version
  | .subgraphGone scope caller next =>
      "cannot re-pin: subgraph " ++ scope.shown ++ " entered from '" ++ caller ++ "' is gone in "
        ++ shownVersion next
  | .nodeGone node next => "cannot re-pin: node '" ++ node ++ "' is gone in " ++ shownVersion next

end Parley
