import Parley.Proofs.Collections
import Parley.Proofs.Conversation.Locking
import Parley.Proofs.Conversation.Ownership
import Parley.Proofs.Graph.Addresses

/-!
# Where an owner is looked for

The node that owns a key is looked for in one scope after the other: in the current scope, in the
scopes of the frames, in the root, in the scopes of the locked path, and in all scopes in lexical
order.  It is found if any node of the flow has the key, and it is the one in the first scope in
which a node has.  The scopes of the locked path are those to which nodes lead along it: forks, and
any other nodes that list the path as if they were forks.

* `Flow.scopesAlong`: the scopes to which the nodes of a flow lead along a path;
* `Flow.IsLexical`: all scopes in lexical order;
* `Conversation.candidates`, `Flow.FirstDeclares`: the scopes that are tried, and the first that has
  a key;
* `Host.compile_pathScopes`, `Conversation.owner?_eq_some_iff`: what is tried, and what is found;
* `Conversation.owner?_complete`.
-/

namespace Parley

variable {g : Graph} {path : PathId} {key : AnswerKey} {scope : ScopeId}

/-! ### Scopes along a path -/

/-- The scope to which a node leads along a path, if it lists the path. -/
def Node.pathTarget? (known : List ScopeId) (scope : ScopeId) (path : PathId) (n : Node) :
    Option ScopeId :=
  if path ∈ n.paths then resolveSubgraph known scope path else none

/-- The scopes to which nodes of one kind lead along a path, in the order in which the scopes and
their nodes stand. -/
def Flow.scopesAlong (f : Flow) (leads : Node → Bool) (path : PathId) : List ScopeId :=
  f.scopes.flatMap fun p => (p.2.nodes.filter leads).filterMap
    (Node.pathTarget? f.scopeIds p.1 path)

/-- A path that only forks list leads to the scopes to which the forks lead. -/
theorem Flow.scopesAlong_isFork {f : Flow} (h : ¬ f.ListsElsewhere path) :
    f.scopesAlong Node.isFork path = f.scopesAlong (fun _ => true) path := by
  refine List.flatMap_congr fun p hp => ?_
  rw [List.filterMap_filter, List.filterMap_filter]
  refine List.filterMap_congr fun n hn => ?_
  by_cases hpath : path ∈ n.paths
  · have hfork : n.isFork = true := by
      rw [← Bool.not_eq_false]
      exact fun hno => h ⟨p, hp, n, hn, hpath, hno⟩
    rw [hfork]
  · simp [Node.pathTarget?, hpath]

/-- A step leads where its node does. -/
theorem compileNode_pathTarget? {host : Host} {known : List ScopeId} {n : Node} {s : Step}
    (h : compileNode host known scope n = .ok s) :
    s.pathScope? path = n.pathTarget? known scope path := by
  obtain ⟨-, -, hpaths⟩ := compileNode_eq_ok h
  unfold Step.pathScope? Node.pathTarget?
  generalize n.paths = names, s.paths = ps at hpaths ⊢
  induction hpaths with
  | nil => rfl
  | @cons name p names ps hp _ ih =>
    obtain ⟨rfl, htarget⟩ := hp
    by_cases hname : p.1 = path
    · subst hname
      rw [List.find?_cons_of_pos (by simp), if_pos List.mem_cons_self,
        resolveSubgraph_eq_some.2 (compileReference_eq_ok.1 htarget), Option.map_some]
    · rw [List.find?_cons_of_neg (by simpa using hname), ih]
      simp [Ne.symm hname]

theorem Host.compile_pathScopes {host : Host} {f : Flow} (hg : host.compile f = .ok g)
    (path : PathId) :
    g.pathScopes path = (f.scopesAlong (fun _ => true) path).eraseDups := by
  have hareas : g.areas.map (fun a => a.steps.filterMap fun s => s.pathScope? path) =
      f.scopes.map fun p => p.2.nodes.filterMap (Node.pathTarget? f.scopeIds p.1 path) := by
    refine map_eq_map_of_forall₂ ((Host.compile_eq_ok hg).2.2.flip.imp fun a p hpa => ?_)
    have hsteps : a.steps.map (fun s => s.pathScope? path) =
        p.2.nodes.map (Node.pathTarget? f.scopeIds p.1 path) :=
      map_eq_map_of_forall₂
        ((compileArea_steps hpa).flip.imp fun s n hn => compileNode_pathTarget? hn)
    simpa [List.filterMap_map] using congrArg (List.filterMap id) hsteps
  rw [Graph.pathScopes, List.flatMap_def, hareas, ← List.flatMap_def]
  simp only [Flow.scopesAlong, List.filter_true]

/-! ### All scopes in lexical order -/

/-- All scopes of a flow, in lexical order of their addresses. -/
structure Flow.IsLexical (f : Flow) (rest : List ScopeId) : Prop where
  perm : rest.Perm f.scopeIds
  sorted : rest.Pairwise fun s t => s.text ≤ t.text

/-- There is one such order. -/
theorem Flow.IsLexical.unique {f : Flow} {rest rest' : List ScopeId} (h : f.IsLexical rest)
    (h' : f.IsLexical rest') :
    rest = rest' := by
  refine (h.perm.trans h'.perm.symm).eq_of_pairwise (fun s t _ _ hst hts => ?_) h.sorted h'.sorted
  cases s
  cases t
  exact congrArg _ (le_antisymm hst hts)

theorem Host.compile_sortedScopes {host : Host} {f : Flow} (hg : host.compile f = .ok g) :
    f.IsLexical g.sortedScopes := by
  refine ⟨?_, ?_⟩
  · rw [Flow.scopeIds, ← Host.compile_scopeIds hg]
    exact List.mergeSort_perm _ _
  · have hsorted : g.sortedScopes.Pairwise fun s t => decide (s.text ≤ t.text) = true :=
      List.pairwise_mergeSort (by simpa using fun a b c => le_trans)
        (by simpa using fun a b => le_total _ _) _
    simpa using hsorted

/-! ### The scopes that are tried -/

/-- The scopes in which a key is looked for, some of them more than once: the current one, those of
the frames, the root, those along the locked path, and the rest. -/
def Conversation.candidates (c : Conversation) (along : PathId → List ScopeId)
    (rest : List ScopeId) : List ScopeId :=
  c.scope :: c.position.stack.map Frame.scope ++ [.root] ++ c.path.locked?.elim [] along ++ rest

/-- The first of some scopes in which a node has a key. -/
def Flow.FirstDeclares (f : Flow) (key : AnswerKey) (scopes : List ScopeId) (scope : ScopeId) :
    Prop :=
  ∃ before after, scopes = before ++ scope :: after ∧ f.Declares key scope ∧ ∀ s ∈ before,
    ¬ f.Declares key s

/-- The node of a scope that owns a key. -/
def Graph.ownerIn? (g : Graph) (key : AnswerKey) (scope : ScopeId) : Option (Area × Step) :=
  (g.area? scope).bind fun area => (area.ownerOf? key).map (area, ·)

section Compiled

variable {host : Host} {f : Flow} (hg : host.compile f = .ok g)

include hg

section Distinct

variable (hids : g.scopeIds.Nodup)

include hids

theorem Graph.ownerIn?_eq_some_iff {area : Area} {owner : Step} :
    g.ownerIn? key scope = some (area, owner) ↔
      area ∈ g.areas ∧ area.id = scope ∧ owner ∈ area.steps ∧ owner.node.key = some key := by
  simp only [ownerIn?, Option.bind_eq_some_iff, Option.map_eq_some_iff, Prod.mk.injEq]
  constructor
  · rintro ⟨found, hfound, s, hs, rfl, rfl⟩
    exact ⟨area?_mem hfound, area?_id hfound, Area.ownerOf?_mem hs⟩
  · rintro ⟨harea, rfl, howner⟩
    exact ⟨area, area?_eq_some hids harea, owner,
      (Host.compile_ownerOf?_eq_some_iff hg harea).2 howner, rfl, rfl⟩

/-- A scope owns a key if one of its nodes has it. -/
theorem Graph.exists_ownerIn?_iff : (∃ found, g.ownerIn? key scope = some found) ↔
    f.Declares key scope := by
  rw [Host.compile_declares_iff hg]
  constructor
  · rintro ⟨⟨area, owner⟩, hfound⟩
    obtain ⟨harea, hid, howner, hkey⟩ := (ownerIn?_eq_some_iff hg hids).1 hfound
    exact ⟨area, harea, hid, owner, howner, hkey⟩
  · rintro ⟨area, harea, hid, owner, howner, hkey⟩
    exact ⟨(area, owner), (ownerIn?_eq_some_iff hg hids).2 ⟨harea, hid, howner, hkey⟩⟩

theorem Graph.ownerIn?_eq_none_iff : g.ownerIn? key scope = none ↔ ¬ f.Declares key scope := by
  rw [← exists_ownerIn?_iff hg hids, ← Option.isSome_iff_exists, Option.not_isSome_iff_eq_none]

end Distinct

namespace Conversation

variable {c : Conversation} {rest : List ScopeId} (hrest : f.IsLexical rest)

include hrest

/-- The scopes that are tried are the candidates. -/
theorem mem_searchOrder_iff :
    scope ∈ c.searchOrder g ↔ scope ∈ c.candidates (f.scopesAlong fun _ => true) rest := by
  rw [searchOrder, candidates, ← hrest.unique (Host.compile_sortedScopes hg), List.mem_eraseDups]
  cases c.path.locked? with
  | none => simp
  | some path => simp [Host.compile_pathScopes hg]

/-- The owner is found in the first of the candidates that has one. -/
theorem owner?_eq_findSome? :
    c.owner? g key = (c.candidates (f.scopesAlong fun _ => true) rest).findSome?
      (g.ownerIn? key) := by
  have hlocked : (c.path.locked?.elim [] g.pathScopes).findSome? (g.ownerIn? key) =
      (c.path.locked?.elim [] (f.scopesAlong fun _ => true)).findSome? (g.ownerIn? key) := by
    cases c.path.locked? with
    | none => rfl
    | some path =>
      rw [Option.elim_some, Host.compile_pathScopes hg, findSome?_eraseDups, Option.elim_some]
  have howner : c.owner? g key = (c.searchOrder g).findSome? (g.ownerIn? key) := rfl
  rw [howner, searchOrder, findSome?_eraseDups, candidates,
    ← hrest.unique (Host.compile_sortedScopes hg), List.findSome?_append, List.findSome?_append,
      hlocked, ← List.findSome?_append, ← List.findSome?_append]

variable (hids : g.scopeIds.Nodup)

include hids

/-- **The owner of a key** is the node that has it in the first of the candidates in which one
has. -/
theorem owner?_eq_some_iff {area : Area} {owner : Step} : c.owner? g key = some (area, owner) ↔
    area ∈ g.areas ∧ owner ∈ area.steps ∧ owner.node.key = some key ∧
      f.FirstDeclares key (c.candidates (f.scopesAlong fun _ => true) rest) area.id := by
  have hdeclares (h : area ∈ g.areas ∧ owner ∈ area.steps ∧ owner.node.key = some key) :
      f.Declares key area.id :=
    (Host.compile_declares_iff hg).2 ⟨area, h.1, rfl, owner, h.2⟩
  rw [owner?_eq_findSome? hg hrest, List.findSome?_eq_some_iff]
  simp only [Graph.ownerIn?_eq_some_iff hg hids, Graph.ownerIn?_eq_none_iff hg hids]
  constructor
  · rintro ⟨before, _, after, hsplit, ⟨harea, rfl, howner⟩, hbefore⟩
    exact ⟨harea, howner.1, howner.2, before, after, hsplit, hdeclares ⟨harea, howner⟩, hbefore⟩
  · rintro ⟨harea, howner, hkey, before, after, hsplit, -, hbefore⟩
    exact ⟨before, area.id, after, hsplit, ⟨harea, rfl, howner, hkey⟩, hbefore⟩

/-- An owner is found if some node has the key. -/
theorem exists_owner?_iff : (∃ found, c.owner? g key = some found) ↔
    ∃ scope, f.Declares key scope := by
  rw [← Option.isSome_iff_exists, owner?_eq_findSome? hg hrest, List.findSome?_isSome_iff]
  simp only [Option.isSome_iff_exists, Graph.exists_ownerIn?_iff hg hids]
  constructor
  · rintro ⟨scope, -, hscope⟩
    exact ⟨scope, hscope⟩
  · rintro ⟨scope, hscope⟩
    refine ⟨scope, ?_, hscope⟩
    -- every scope is among the rest
    obtain ⟨p, hp, rfl, -⟩ := hscope
    exact List.mem_append_right _ (hrest.perm.mem_iff.2 (List.mem_map_of_mem hp))

end Conversation

end Compiled

/-- **Owners are found, and in a fixed order.**  A key has an owner if some node of the flow has the
key; it is the node that has it in the first scope in which one has, among the current scope, those
of the frames, the root, those to which nodes lead along the locked path, and all scopes in lexical
order.  If only forks list the locked path, these are the scopes to which forks lead.  No scope is
tried twice. -/
theorem Conversation.owner?_complete {host : Host} {f : Flow} (hg : host.compile f = .ok g)
    (hsorted : ∀ p ∈ f.scopes, Dict.Ordered p.2.subgraphs) {rest : List ScopeId}
    (hrest : f.IsLexical rest) (c : Conversation) (key : AnswerKey) :
    ((∃ found, c.owner? g key = some found) ↔ ∃ scope, f.Declares key scope) ∧
      (∀ area owner, c.owner? g key = some (area, owner) ↔
        area ∈ g.areas ∧ owner ∈ area.steps ∧ owner.node.key = some key ∧
          f.FirstDeclares key (c.candidates (f.scopesAlong fun _ => true) rest) area.id) ∧
      ((∀ path, c.path.locked? = some path → ¬ f.ListsElsewhere path) →
        c.candidates (f.scopesAlong fun _ => true) rest =
          c.candidates (f.scopesAlong Node.isFork) rest) ∧
      (c.searchOrder g).Nodup ∧
      ∀ scope, scope ∈ c.searchOrder g ↔
        scope ∈ c.candidates (f.scopesAlong fun _ => true) rest := by
  have hids : g.scopeIds.Nodup := by
    rw [Host.compile_scopeIds hg]
    exact Flow.scopeIds_nodup (Host.compile_names hg hsorted)
  refine ⟨exists_owner?_iff hg hrest hids, fun area owner => owner?_eq_some_iff hg hrest hids,
    fun hforks => ?_, nodup_eraseDups _, fun scope => mem_searchOrder_iff hg hrest⟩
  unfold candidates
  cases hlocked : c.path.locked? with
  | none => rfl
  | some path =>
    rw [Option.elim_some, Option.elim_some, Flow.scopesAlong_isFork (hforks path hlocked)]

namespace Samples

/-- A question that lists a path as if it were a fork, and two subgraphs in which the same key is
asked for. -/
def waymark : Flow where
  id := "waymark"
  version := 1
  nodes := [{ Node.question "ask" "side" "Which side?" with paths := ["zulu"] }, .terminal "end"]
  edges := [.always "ask" "end"]
  subgraphs := [
    ("alpha", {
      nodes := [(Node.question "count" "place" "How many places?").withValidator "integer"]
      edges := [.exit "count"] }),
    ("zulu", { nodes := [.question "where" "place" "Where to?"], edges := [.exit "where"] })]

/-- The step of `waymark` that asks for a number. -/
def count : Step :=
  ⟨(Node.question "count" "place" "How many places?").withValidator "integer", none,
    some ⟨"integer", Validator.acceptInteger⟩, none, []⟩

/-- The step of `waymark` that asks for a place. -/
def wherever : Step := ⟨.question "where" "place" "Where to?", none, none, none, []⟩

/-- The first subgraph of `waymark`. -/
def alpha : Area where
  id := ⟨"alpha"⟩
  entry := "count"
  steps := [count]
  links := [⟨0, "count", .exit, .always, false⟩]
  invalidTargets := []

/-- The second subgraph of `waymark`. -/
def zulu : Area where
  id := ⟨"zulu"⟩
  entry := "where"
  steps := [wherever]
  links := [⟨0, "where", .exit, .always, false⟩]
  invalidTargets := []

/-- The graph of `waymark`. -/
def waymarkGraph : Graph where
  flow := waymark
  areas := [
    { id := .root
      entry := "ask"
      steps := [
        ⟨{ Node.question "ask" "side" "Which side?" with paths := ["zulu"] }, none, none, none,
          [("zulu", ⟨"zulu"⟩)]⟩,
        ⟨.terminal "end", none, none, none, []⟩]
      links := [⟨0, "ask", .node "end", .always, false⟩]
      invalidTargets := [] },
    alpha,
    zulu]
  warnings := []
  predicates := .builtin

theorem compile_waymark : Host.builtin.compile waymark = .ok waymarkGraph :=
  Host.compile_of_passes rfl rfl (by decide) (by with_unfolding_all rfl) rfl rfl rfl

theorem waymark_lexical : waymark.IsLexical [.root, ⟨"alpha"⟩, ⟨"zulu"⟩] := ⟨.refl _, by decide⟩

theorem waymark_sorted : ∀ p ∈ waymark.scopes, Dict.Ordered p.2.subgraphs := by
  unfold Dict.Ordered
  decide

/-- Without a path, the subgraph that comes first in lexical order owns the key. -/
theorem count_owns :
    Host.builtin.compile waymark = .ok waymarkGraph ∧
      (∀ p ∈ waymark.scopes, Dict.Ordered p.2.subgraphs) ∧
      waymark.IsLexical [.root, ⟨"alpha"⟩, ⟨"zulu"⟩] ∧
      ((Engine.ofSettings {}).run waymarkGraph [] []).owner? waymarkGraph "place" =
        some (alpha, count) := by
  obtain ⟨-, howner, -⟩ :=
    Conversation.owner?_complete compile_waymark waymark_sorted waymark_lexical
    ((Engine.ofSettings {}).run waymarkGraph [] []) "place"
  refine ⟨compile_waymark, waymark_sorted, waymark_lexical,
    (howner alpha count).2 ⟨?_, ?_, rfl, ?_⟩⟩
  · simp [waymarkGraph]
  · simp [alpha]
  · refine ⟨[.root, .root, .root], [⟨"zulu"⟩], rfl, ?_, ?_⟩
    · unfold Flow.Declares
      decide
    · unfold Flow.Declares
      decide

/-- With the path that only the question lists, the subgraph of the path comes first, although no
fork leads to it; of the scopes to which forks lead and the rest, the other subgraph is the
first. -/
theorem wherever_owns :
    let c := (Engine.ofSettings {}).run waymarkGraph []
        [.turn (signalTurn "zulu"), .turn (signalTurn "zulu")]
    Host.builtin.compile waymark = .ok waymarkGraph ∧
      waymark.IsLexical [.root, ⟨"alpha"⟩, ⟨"zulu"⟩] ∧
      c.path.locked? = some "zulu" ∧ c.owner? waymarkGraph "place" = some (zulu, wherever) ∧
      waymark.FirstDeclares "place"
        (c.candidates (waymark.scopesAlong Node.isFork) [.root, ⟨"alpha"⟩, ⟨"zulu"⟩])
        ⟨"alpha"⟩ := by
  intro c
  have hlocked : c.path.locked? = some "zulu" := by decide +kernel
  have hposition : c.position = ⟨"ask", []⟩ := by decide +kernel
  have hids : waymarkGraph.scopeIds.Nodup := by decide
  have hroot : ¬ waymark.Declares "place" .root := by
    unfold Flow.Declares
    decide
  have halpha : waymark.Declares "place" ⟨"alpha"⟩ := by
    unfold Flow.Declares
    decide
  have hzulu : waymark.Declares "place" ⟨"zulu"⟩ := by
    unfold Flow.Declares
    decide
  refine ⟨compile_waymark, waymark_lexical, hlocked, ?_, ?_⟩
  · refine (Conversation.owner?_eq_some_iff compile_waymark waymark_lexical hids).2
      ⟨?_, ?_, rfl, ?_⟩
    · simp [waymarkGraph]
    · simp [zulu]
    · refine ⟨[.root, .root], [.root, ⟨"alpha"⟩, ⟨"zulu"⟩], ?_, hzulu, by simpa using hroot⟩
      rw [Conversation.candidates, hlocked, Conversation.scope, hposition]
      rfl
  · refine ⟨[.root, .root, .root], [⟨"zulu"⟩], ?_, halpha, by simpa using hroot⟩
    rw [Conversation.candidates, hlocked, Conversation.scope, hposition]
    rfl

end Samples

end Parley
