import Parley.Config.Basic
import Parley.Conversation.Codec
import Parley.Json.Printer
import Parley.Table

/-!
# The store

A store holds the versions of each flow and the conversations of all threads.  Versions are only
ever appended, and a publication says which version it expects to find on top.  A store may keep
what it is given as values or as written documents; the latter are read again on each look-up, and
number their versions with signed integers of 64 bits.

* `Store`, `StoreFault`;
* `Store.latest`, `Store.load`, `Store.history`, `Store.publish`;
* `Store.conversation`, `Store.save`, `Store.delete`.
-/

namespace Parley

abbrev TenantId := String

abbrev ThreadId := String

/-- A flow of a tenant. -/
structure FlowKey where
  tenant : TenantId
  flow : FlowId
  deriving DecidableEq, Inhabited

/-- A conversation of a tenant. -/
structure ThreadKey where
  tenant : TenantId
  thread : ThreadId
  deriving DecidableEq, Inhabited

/-- Versions of each flow, oldest first, and conversations. -/
structure Store where
  backend : Backend := .memory
  flows : Table FlowKey (List Flow) := []
  conversations : Table ThreadKey Conversation := []

/-- Why a store refuses a call. -/
inductive StoreFault
  | versionTooLarge
  | unreadable (fault : Json.Fault)
  | notSuccessor (flow : FlowId) (version : Version) (current : Option Version)

def faultText : Json.Fault → String
  | .malformed => "malformed document"
  | .truncated => "document ends too early"
  | .mismatch => "document does not fit"

def StoreFault.message : StoreFault → String
  | .versionTooLarge => "Database error: number too large to fit in target type"
  | .unreadable fault => "JSON error: " ++ faultText fault
  | .notSuccessor flow version current =>
      "Invalid state: flow " ++ flow ++ " cannot publish v" ++ toString version ++ " after "
        ++ current.elim "nothing" fun v => "v" ++ toString v

/-- What becomes of a publication. -/
inductive Publication
  | published
  | stale (current : Version)
  deriving DecidableEq

namespace Store

/-- What is found of a flow that was kept. -/
def kept (s : Store) (f : Flow) : Except StoreFault Flow :=
  match s.backend with
  | .memory => .ok f
  | .sqlite => (Flow.reader.ofText f.toJson.compact).mapError .unreadable

/-- What is found of a conversation that was kept. -/
def keptConversation (s : Store) (c : Conversation) : Except StoreFault Conversation :=
  match s.backend with
  | .memory => .ok c
  | .sqlite => (Conversation.reader.ofText c.toJson.compact).mapError .unreadable

/-- Refuse version numbers that the store cannot hold. -/
def checkVersion (s : Store) (v : Version) : Except StoreFault Unit :=
  match s.backend with
  | .memory => .ok ()
  | .sqlite => if v < Nat.pow 2 63 then .ok () else .error .versionTooLarge

/-- The versions of a flow, oldest first. -/
def versions (s : Store) (key : FlowKey) : List Flow := (s.flows.get? key).getD []

/-- The last version of a flow. -/
def latest (s : Store) (key : FlowKey) : Except StoreFault (Option Flow) :=
  (s.versions key).getLast?.mapM s.kept

/-- A version of a flow. -/
def load (s : Store) (key : FlowKey) (v : Version) : Except StoreFault (Option Flow) := do
  s.checkVersion v
  ((s.versions key).find? fun f => f.version = v).mapM s.kept

/-- The records of the versions of a flow, oldest first. -/
def history (s : Store) (key : FlowKey) : Except StoreFault (List VersionRecord) := do
  let flows ← (s.versions key).mapM s.kept
  pure (flows.filterMap Flow.record)

/-- Append a version, if the expected one is on top and the new one directly follows it. -/
def publish (s : Store) (tenant : TenantId) (f : Flow) (expected : Option Version) :
    Except StoreFault (Store × Publication) :=
  let key : FlowKey := ⟨tenant, f.id⟩
  let current := (s.versions key).getLast?.map Flow.version
  if current ≠ expected then .ok (s, .stale (current.getD 0))
  else if f.version ≠ current.elim 1 (· + 1) then .error (.notSuccessor f.id f.version current)
  else do
    s.checkVersion f.version
    pure ({ s with flows := s.flows.set key (s.versions key ++ [f]) }, .published)

/-- The conversation of a thread. -/
def conversation (s : Store) (key : ThreadKey) : Except StoreFault (Option Conversation) :=
  (s.conversations.get? key).mapM s.keptConversation

/-- The store once the conversation of a thread has been written to it.  A database may refuse to
write, which leaves the store as it was: see `Service.write`. -/
def save (s : Store) (key : ThreadKey) (c : Conversation) : Store :=
  { s with conversations := s.conversations.set key c }

/-- The store once the conversation of a thread has been deleted, and whether there was one.  That
may be refused as well. -/
def delete (s : Store) (key : ThreadKey) : Store × Bool :=
  ({ s with conversations := s.conversations.erase key }, (s.conversations.get? key).isSome)

end Store

end Parley
