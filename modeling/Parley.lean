import Parley.Main
import Parley.Samples
import Parley.Script
import Parley.Service.Lane
import Parley.Proofs.Conversation.Placement
import Parley.Proofs.Conversation.Answers
import Parley.Proofs.Conversation.Budget
import Parley.Proofs.Json.Members
import Parley.Proofs.Edit.Basic
import Parley.Proofs.Store.Kept
import Parley.Proofs.Store.Versions
import Parley.Proofs.Publish.Request
import Parley.Proofs.Publish.Interleaving
import Parley.Proofs.Graph.Cycle
import Parley.Proofs.Graph.WellFormed
import Parley.Proofs.Publish.Atomic
import Parley.Proofs.Service.Act
import Parley.Proofs.Service.Histories
import Parley.Proofs.Graph.Rank
import Parley.Proofs.Conversation.Termination
import Parley.Proofs.Conversation.CallStack
import Parley.Proofs.Collections
import Parley.Proofs.Service.Refinement
import Parley.Proofs.Layer.Declared
import Parley.Proofs.Layer.Scopes
import Parley.Proofs.Layer.Precedence
import Parley.Proofs.Layer.Settings
import Parley.Proofs.Layer.Disputes
import Parley.Proofs.Guard.Shown
import Parley.Proofs.Conversation.Locking
import Parley.Proofs.Conversation.Ownership
import Parley.Proofs.Guard.Evaluation
import Parley.Proofs.Conversation.DeadEnds
import Parley.Proofs.Conversation.Suspension
import Parley.Proofs.Conversation.Passages
import Parley.Proofs.Conversation.Votes
import Parley.Proofs.Json.Compact
import Parley.Proofs.Flow.Restored
import Parley.Proofs.Conversation.Restored
import Parley.Proofs.Store.Restored
import Parley.Proofs.Layer.Restored
import Parley.Proofs.Graph.Reordered
import Parley.Proofs.Layer.Complete
import Parley.Proofs.Graph.Addresses
import Parley.Proofs.Graph.Warnings
import Parley.Proofs.Conversation.Warned
import Parley.Proofs.Service.Independence
import Parley.Proofs.Json.Figures
import Parley.Proofs.Store.Found
import Parley.Proofs.Service.Progress
import Parley.Proofs.Service.Events
import Parley.Proofs.Service.Accounts
import Parley.Proofs.Service.Locks
import Parley.Proofs.Publish.Announced
import Parley.Proofs.Flow.EdgeNames
import Parley.Proofs.Store.EdgeNames
import Parley.Proofs.Publish.EdgeNames
import Parley.Proofs.Guard.EdgeGuards
import Parley.Proofs.Conversation.Selection
import Parley.Proofs.Service.InOrder
import Parley.Proofs.Conversation.Refusal
import Parley.Proofs.Conversation.ProposalOrder
import Parley.Proofs.Conversation.Presence
import Parley.Proofs.Conversation.SearchOrder
import Parley.Proofs.Text.Splitting
import Parley.Proofs.Text.Lowered
import Parley.Proofs.Graph.CycleReports
import Parley.Proofs.Graph.Exported
import Parley.Proofs.Graph.Lexical
import Parley.Proofs.Conversation.Repinned
import Parley.Proofs.Layer.Writes
import Parley.Proofs.Layer.Origins
import Parley.Proofs.Layer.Rearranged
import Parley.Proofs.Layer.Reapplied
import Parley.Proofs.Layer.Removals
import Parley.Proofs.Edit.Scopes
import Parley.Proofs.Number.Rounding
import Parley.Proofs.Number.Shortest
import Parley.Proofs.Guard.Comparing
import Parley.Proofs.Guard.Numerals
import Parley.Proofs.Edit.Entry
import Parley.Proofs.Layer.Patched
import Parley.Proofs.Guard.Connectives
import Parley.Proofs.Guard.Dependence
import Parley.Proofs.Conversation.Eligibility
import Parley.Proofs.Conversation.Signals
import Parley.Proofs.Conversation.Convergence
import Parley.Proofs.Guard.Calls
import Parley.Proofs.Number.Whole
import Parley.Proofs.Validator.Rules
import Parley.Proofs.Validator.Integers
import Parley.Proofs.Validator.Settled
import Parley.Proofs.Feedback.Placeholders
import Parley.Proofs.Feedback.Messages
import Parley.Proofs.Config.Expansion
import Parley.Proofs.Config.Accepted
import Parley.Proofs.Guard.Height
import Parley.Proofs.Graph.ScopeTree
