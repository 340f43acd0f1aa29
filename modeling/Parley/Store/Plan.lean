import Parley.Store.Basic

/-!
# Plans of store calls

A plan says which call to make next, given what the calls before it returned.  Several plans may run
against one store, their calls in any order; `run` makes the calls of one plan without a pause.
-/

namespace Parley

/-- A sequence of store calls that ends in a value. -/
inductive Plan (α : Type) : Type
  | done (a : α)
  | latest (key : FlowKey) (next : Except StoreFault (Option Flow) → Plan α)
  | load (key : FlowKey) (version : Version) (next : Except StoreFault (Option Flow) → Plan α)
  | publish (tenant : TenantId) (flow : Flow) (expected : Option Version)
      (next : Except StoreFault Publication → Plan α)

namespace Plan

variable {α β : Type}

/-- Continue a plan with what it ends in. -/
def bind : Plan α → (α → Plan β) → Plan β
  | done a, f => f a
  | latest key next, f => latest key fun r => bind (next r) f
  | load key version next, f => load key version fun r => bind (next r) f
  | publish tenant flow expected next, f => publish tenant flow expected fun r => bind (next r) f

instance : Monad Plan where
  pure := done
  bind := bind

/-- Make the next call; a plan that is done stays as it is. -/
def step (s : Store) : Plan α → Store × Plan α
  | done a => (s, done a)
  | latest key next => (s, next (s.latest key))
  | load key version next => (s, next (s.load key version))
  | publish tenant flow expected next =>
      match s.publish tenant flow expected with
      | .ok (s, p) => (s, next (.ok p))
      | .error fault => (s, next (.error fault))

/-- Make all calls of a plan. -/
def run (s : Store) : Plan α → Store × α
  | done a => (s, a)
  | latest key next => run s (next (s.latest key))
  | load key version next => run s (next (s.load key version))
  | publish tenant flow expected next =>
      match s.publish tenant flow expected with
      | .ok (s, p) => run s (next (.ok p))
      | .error fault => run s (next (.error fault))

end Plan

end Parley
