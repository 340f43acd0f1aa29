import Parley.Conversation.State
import Parley.Graph.Basic

/-!
# Who owns an answer

The node that owns a key is looked for in the current scope, then in the scopes around it, the root,
the scopes of the locked path, and at last in all other scopes in lexical order.
-/

namespace Parley

namespace Graph

/-- The scopes that forks enter for a path, in the order in which the forks stand. -/
def pathScopes (g : Graph) (path : PathId) : List ScopeId :=
  (g.areas.flatMap fun a => a.steps.filterMap fun s => s.pathScope? path).eraseDups

/-- All scopes in lexical order of their addresses. -/
def sortedScopes (g : Graph) : List ScopeId :=
  g.scopeIds.mergeSort fun a b => decide (a.text ≤ b.text)

end Graph

namespace Conversation

/-- The scopes in which a key is looked for, in order. -/
def searchOrder (g : Graph) (c : Conversation) : List ScopeId :=
  (c.scope :: c.position.stack.map Frame.scope ++ [ScopeId.root]
    ++ c.path.locked?.elim [] g.pathScopes ++ g.sortedScopes).eraseDups

/-- The node that owns a key, with its scope. -/
def owner? (g : Graph) (c : Conversation) (key : AnswerKey) : Option (Area × Step) :=
  (c.searchOrder g).findSome? fun scope =>
    (g.area? scope).bind fun area => (area.ownerOf? key).map (area, ·)

end Conversation

end Parley
