import Parley.Text.Split

/-!
# Scopes

A scope is a graph inside a flow: the root, or a subgraph addressed by the names on the way to it
with slashes between them.
-/

namespace Parley

/-- The address of a graph inside a flow; the root has the empty address. -/
structure ScopeId where
  text : String
  deriving DecidableEq, Inhabited

namespace ScopeId

def root : ScopeId := ⟨""⟩

def isRoot (s : ScopeId) : Bool := s.text = ""

/-- The address that a text means, slashes around it aside. -/
def ofText (text : String) : ScopeId :=
  let slash (c : Char) : Bool := c = '/'
  ⟨String.ofList (((text.toList.dropWhile slash).reverse.dropWhile slash).reverse)⟩

/-- The subgraph of a name in a scope. -/
def child (s : ScopeId) (name : String) : ScopeId :=
  if s.isRoot then ⟨name⟩ else ⟨s.text ++ "/" ++ name⟩

/-- The scope around a scope. -/
def parent? (s : ScopeId) : Option ScopeId :=
  if s.isRoot then none
  else some ⟨String.ofList (Text.joinWith '/' (Text.splitOn '/' s.text.toList).dropLast)⟩

/-- The names on the way from the root. -/
def segments (s : ScopeId) : List String :=
  ((Text.splitOn '/' s.text.toList).filter fun p => !p.isEmpty).map String.ofList

/-- The scope as messages show it. -/
def shown (s : ScopeId) : String := if s.isRoot then "<root>" else s.text

end ScopeId

end Parley
