import Parley.Graph.Compile
import Parley.Proofs.Edit.Scopes

/-!
# The entry under edits

A scope that declares its entry keeps it until an edit sets another one.  In a scope that declares
none, the first node is the entry.  It stays the entry until an edit removes it, which is not
refused: only an entry that is declared is guarded.

* `Change.isRemoved`, `Change.added`, `Change.lasting`: the nodes that last, in the order in which
  they stand;
* `Change.foldl_idsAfter`: these are the nodes that changes leave;
* `Flow.KeepsEntry`, `Flow.edit_keepsEntry`: the entry of each scope after edits none of which sets
  it.
-/

namespace Parley

namespace Change

/-- Whether one of these changes removes a node. -/
def isRemoved (id : NodeId) : List Change → Bool
  | [] => false
  | .removeNode id' :: r => id' = id || isRemoved id r
  | _ :: r => isRemoved id r

/-- The nodes that changes add and that no later one removes. -/
def added : List Change → List NodeId
  | [] => []
  | .addNode n :: r => if isRemoved n.id r then added r else n.id :: added r
  | _ :: r => added r

/-- The nodes that were there and that no change removes, and those that are added to them. -/
def lasting (ids : List NodeId) (cs : List Change) : List NodeId :=
  (ids.filter fun id => !isRemoved id cs) ++ added cs

theorem foldl_idsAfter (cs : List Change) (ids : List NodeId) :
    cs.foldl idsAfter ids = lasting ids cs := by
  induction cs generalizing ids with
  | nil => simp [lasting, added, isRemoved]
  | cons c r ih =>
    rw [List.foldl_cons, ih]
    unfold lasting
    cases c with
    | addNode n =>
      -- the new node lasts if nothing removes it later
      have hnew : [n.id].filter (fun id => !isRemoved id r) ++ added r =
          added (.addNode n :: r) := by
        cases hlast : isRemoved n.id r <;> simp [added, hlast]
      rw [idsAfter, List.filter_append, List.append_assoc, hnew]
      rfl
    | removeNode id =>
      rw [idsAfter, List.filter_filter]
      refine congrArg (· ++ added r) (List.filter_congr fun id' _ => ?_)
      rw [isRemoved, Bool.not_or, Bool.and_comm, decide_not, decide_eq_decide.2 eq_comm]
    | updateNode p | addEdge e | removeEdge source target | setEntry id => rfl

/-- A first node that no change removes stays the first. -/
theorem head?_lasting {cs : List Change} {ids : List NodeId} {id : NodeId}
    (hid : ids.head? = some id) (hcs : isRemoved id cs = false) :
    (lasting ids cs).head? = ids.head? := by
  obtain ⟨r, rfl⟩ := List.head?_eq_some_iff.1 hid
  rw [lasting, List.filter_cons_of_pos (by rw [hcs]; rfl)]
  rfl

end Change

namespace Flow

/-- What becomes of the entry of a scope under changes that do not set it. -/
structure KeepsEntry (cs : List Change) (f f' : Flow) : Prop where
  /-- It is the declared entry, or else the first of the nodes that last. -/
  entryNode : f'.entryNode? = f.entry.or (Change.lasting (f.nodes.map Node.id) cs).head?
  /-- So it is the same if it is declared or the first of these nodes is the one that was the first
  before, -/
  same_iff : f'.entryNode? = f.entryNode? ↔
    f.entry.isSome = true ∨ (Change.lasting (f.nodes.map Node.id) cs).head? =
      (f.nodes.map Node.id).head?
  /-- which it is if no change removes it. -/
  same : ∀ id, (f.nodes.map Node.id).head? = some id → Change.isRemoved id cs = false →
      f'.entryNode? = f.entryNode?

variable {f f' : Flow} {cs : List Change}

theorem Keeps.keepsEntry (h : Keeps cs f f') (hcs : ∀ id, Change.setEntry id ∉ cs) :
    KeepsEntry cs f f' := by
  have hdeclared : f'.entry = f.entry := by
    refine h.entry ?_
    rintro c hc id rfl
    exact hcs id hc
  have hentry : f'.entryNode? = f.entry.or (Change.lasting (f.nodes.map Node.id) cs).head? := by
    rw [entryNode?, hdeclared, ← List.head?_map, h.ids, Change.foldl_idsAfter]
  have hsame : f'.entryNode? = f.entryNode? ↔
      f.entry.isSome = true ∨ (Change.lasting (f.nodes.map Node.id) cs).head? =
        (f.nodes.map Node.id).head? := by
    rw [hentry, entryNode?, List.head?_map]
    cases f.entry <;> simp
  exact ⟨hentry, hsame, fun id hid hkept => hsame.2 (.inr (Change.head?_lasting hid hkept))⟩

theorem Keeps.rel_keepsEntry (hcs : ∀ id, Change.setEntry id ∉ cs) : ∀ {o o' : Option Flow},
    Option.Rel (Keeps cs) o o' → Option.Rel (KeepsEntry cs) o o'
  | _, _, .none => .none
  | _, _, .some h => .some (h.keepsEntry hcs)

/-- **Edits that do not set the entry of a scope keep it, unless none is declared and they remove
it.** -/
theorem edit_keepsEntry {edits : List Edit} (h : f.edit edits = .ok f') {path : List String}
    (hpath : ∀ id, Change.setEntry id ∉ Edit.changesAt path edits) :
    Option.Rel (KeepsEntry (Edit.changesAt path edits)) (f.descend? path) (f'.descend? path) :=
  Keeps.rel_keepsEntry hpath (Becomes.rel_keeps (edit_becomes h path))

end Flow

/-! ### Entries that stay and entries that move -/

namespace Samples

/-- Whether the entry is set. -/
def setsEntry : Change → Bool
  | .setEntry _ => true
  | _ => false

theorem setEntry_not_mem {cs : List Change} (h : cs.all (fun c => !setsEntry c) = true)
    (id : NodeId) :
    Change.setEntry id ∉ cs := fun hid => nomatch List.all_eq_true.1 h _ hid

/-- The entry of a subgraph stays, where only the one of the flow is set. -/
theorem recording_keepsEntry :
    qualification.edit recording = .ok recordedFlow ∧
      (∀ id, Change.setEntry id ∉ Edit.changesAt ["smb"] recording) ∧
      Option.Rel (Flow.KeepsEntry (Edit.changesAt ["smb"] recording)) (some smallTeam)
        (some recordedTeam) := by
  have hset : ∀ id, Change.setEntry id ∉ Edit.changesAt ["smb"] recording :=
    setEntry_not_mem (by decide +kernel)
  exact ⟨edit_recording, hset, Flow.edit_keepsEntry edit_recording hset⟩

/-- A question and the end. -/
def greeting : Flow where
  id := "greeting"
  version := 1
  nodes := [.question "ask" "name" "What's your name?", .terminal "end"]
  edges := [.always "ask" "end"]

/-- Leave out the question. -/
def wordless : List Edit := [{ change := .removeEdge "ask" "end" }, { change := .removeNode "ask" }]

/-- What is left of the flow. -/
def silence : Flow := { greeting with nodes := [.terminal "end"], edges := [] }

/-- No edit sets the entry, and yet it was the question and is the end. -/
theorem wordless_moves_entry :
    (∃ g, Host.builtin.compile greeting = .ok g) ∧ greeting.edit wordless = .ok silence ∧
      (∃ g, Host.builtin.compile silence = .ok g) ∧
      (∀ id, Change.setEntry id ∉ Edit.changesAt [] wordless) ∧
      greeting.entryNode? = some "ask" ∧ silence.entryNode? = some "end" := by
  refine ⟨exists_of_isOk (by decide +kernel), ?_, exists_of_isOk (by decide +kernel),
    setEntry_not_mem (by decide +kernel), rfl, rfl⟩
  cbv

end Samples

end Parley
