import Parley.Store.Basic

/-!
# Stores as documents

A store is written as the versions of each flow and the conversation of each thread, so that it can
be kept in a file between two runs.
-/

namespace Parley.Store

open Json

def flowsJson (key : FlowKey) (versions : List Flow) : Json :=
  .object [("tenant", .string key.tenant), ("flow", .string key.flow),
    ("versions", .array (versions.map Flow.toJson))]

def conversationJson (key : ThreadKey) (c : Conversation) : Json :=
  .object [("tenant", .string key.tenant), ("thread", .string key.thread),
    ("conversation", c.toJson)]

/-- A store as a document. -/
def toJson (s : Store) : Json :=
  .object [
    ("flows", .array (s.flows.map fun (key, versions) => flowsJson key versions)),
    ("conversations", .array (s.conversations.map fun (key, c) => conversationJson key c))]

def flowsReader : Reader (FlowKey × List Flow) :=
  ((fun tenant flow versions => (⟨tenant, flow⟩, versions))
    <$> Record.required "tenant" .text
    <*> Record.required "flow" .text
    <*> Record.required "versions" (.list Flow.reader)).reader

def conversationReader : Reader (ThreadKey × Conversation) :=
  ((fun tenant thread c => (⟨tenant, thread⟩, c))
    <$> Record.required "tenant" .text
    <*> Record.required "thread" .text
    <*> Record.required "conversation" Conversation.reader).reader

/-- The store that a document holds, to be kept as documents again. -/
def reader : Reader Store :=
  ((fun flows conversations => { backend := .sqlite, flows, conversations })
    <$> Record.required "flows" (.list flowsReader)
    <*> Record.required "conversations" (.list conversationReader)).reader

end Parley.Store
