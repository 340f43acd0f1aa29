import Parley.Proofs.Collections
import Parley.Proofs.Graph.WellFormed

/-!
# What the report of a cycle says

A flow that is refused for a cycle has one, and the report shows it: nodes of one scope each of
which follows the one before, or scopes each of which is entered from the one before, until the walk
is back where it began.

* `IsRound`: walks that come back;
* `ClosedWalk.IsGenuine.isRound`: a walk that a search has closed, with the arc that closes it;
* `CompileError.IsLocal`, `compileArea_isLocal`: errors that are found without a search;
* `Host.compile_eq_cycle`: the search that a report comes from;
* `Host.cycle_isRound`.
-/

namespace Parley

universe u

/-! ### Walks that come back -/

/-- A walk of one step or more that begins and ends at a point. -/
structure IsRound {α : Type u} (step : α → α → Prop) (a : α) (path : List α) : Prop where
  steps : path.IsChain step
  first : path.head? = some a
  last : path.getLast? = some a
  length : 2 ≤ path.length

theorem IsRound.imp {α : Type u} {step step' : α → α → Prop} {a : α} {path : List α}
    (h : IsRound step a path) (himp : ∀ b c, step b c → step' b c) : IsRound step' a path :=
  ⟨h.steps.imp himp, h.first, h.last, h.length⟩

section Search

variable {α β : Type} {arcs : α → List (β × α)} {w : ClosedWalk α β}

/-- A closed walk with its first point at both ends comes back, by the arc with its label. -/
theorem ClosedWalk.IsGenuine.isRound (h : w.IsGenuine arcs) :
    IsRound (Arc arcs) w.closing w.path ∧
      ∃ before a, w.path = before ++ [a, w.closing] ∧ (w.label, w.closing) ∈ arcs a := by
  obtain ⟨hchain, hfirst, a, hlast, harc⟩ := h
  obtain ⟨before, hpoints⟩ := List.getLast?_eq_some_iff.1 hlast
  have hpath : w.path = before ++ [a, w.closing] := by
    rw [path, hpoints, List.append_assoc]
    rfl
  refine ⟨⟨?_, ?_, ?_, ?_⟩, before, a, hpath, harc⟩
  · rw [path, List.isChain_append]
    refine ⟨hchain, .singleton _, fun b hb c hc => ?_⟩
    rw [hlast, Option.mem_some_iff] at hb
    rw [List.head?_cons, Option.mem_some_iff] at hc
    subst hb hc
    exact ⟨w.label, harc⟩
  · rw [path, List.head?_append, hfirst]
    rfl
  · rw [path, List.getLast?_concat]
  · rw [hpath, List.length_append]
    exact Nat.le_add_left _ _

/-- What a search that stays among its points has found is a walk that comes back. -/
theorem isRound_of_findCycle [DecidableEq α] {starts : List α} {bound : ℕ}
    (hclosed : ∀ a ∈ starts, ∀ b, Arc arcs a b → b ∈ starts) (hbound : starts.length ≤ bound)
    (h : findCycle arcs bound starts = .error w) :
    IsRound (Arc arcs) w.closing w.path ∧
      ∃ before a, w.path = before ++ [a, w.closing] ∧ (w.label, w.closing) ∈ arcs a := by
  have hspec := findCycle_spec hclosed hbound
  rw [h] at hspec
  exact hspec.1.isRound

end Search

/-! ### Errors without a search -/

/-- An error that an element shows by itself. -/
def CompileError.IsLocal : CompileError → Prop
  | .cycle _ _ => False
  | _ => True

/-- A pass of the compilation that searches for nothing. -/
abbrev IsLocal {α : Type} (x : Except CompileError α) : Prop :=
  Ends (fun _ => True) CompileError.IsLocal x

section Local

variable {host : Host} {known : List ScopeId} {scope : ScopeId} {n : Node}

theorem IsLocal.bind {α β : Type} {x : Except CompileError α} {f : α → Except CompileError β}
    (hx : IsLocal x) (hf : ∀ a, IsLocal (f a)) : IsLocal (x >>= f) :=
  Ends.bind hx fun a _ => hf a

theorem isLocal_mapM {α β : Type} {f : α → Except CompileError β} (hf : ∀ a, IsLocal (f a))
    (as : List α) :
    IsLocal (as.mapM f) := by
  induction as with
  | nil => trivial
  | cons a as ih =>
    rw [List.mapM_cons]
    exact (hf a).bind fun _ => ih.bind fun _ => trivial

theorem isLocal_mapError {ε α : Type} {f : ε → CompileError} (hf : ∀ e, (f e).IsLocal)
    (x : Except ε α) :
    IsLocal (x.mapError f) := by
  cases x with
  | ok a => trivial
  | error e => exact hf e

theorem checkNodeForm_isLocal : IsLocal (checkNodeForm scope n) := by
  unfold checkNodeForm
  repeat' split
  all_goals trivial

theorem compileReference_isLocal (name : String) :
    IsLocal (compileReference known scope n name) := by
  unfold compileReference
  split <;> trivial

theorem isLocal_pure {α : Type} (a : α) : IsLocal (pure a : Except CompileError α) := trivial

/-- A test that throws such an error, and what comes after it. -/
theorem isLocal_ite_throw {α β : Type} {p : Prop} [Decidable p] {e : CompileError} (he : e.IsLocal)
    {f : α → Except CompileError β} {x : Except CompileError β} (hx : IsLocal x) :
    IsLocal (if p then throw e >>= f else x) := by
  split
  · exact he
  · exact hx

theorem compileNode_isLocal (n : Node) : IsLocal (compileNode host known scope n) := by
  refine checkNodeForm_isLocal.bind fun _ => ?_
  refine IsLocal.bind ?_ fun clauses => IsLocal.bind ?_ fun validator =>
    IsLocal.bind ?_ fun subgraph => IsLocal.bind ?_ fun paths => isLocal_pure _
  · have htext (text : String) : IsLocal
        ((Guard.compileExpr host.predicates text).mapError
          (CompileError.guard (qualified scope n.id))) :=
      isLocal_mapError (f := CompileError.guard _) (fun _ => trivial) _
    exact (isLocal_mapM htext n.guardTexts).bind fun _ => isLocal_pure _
  · unfold compileValidator
    repeat' split
    all_goals trivial
  · cases n.subgraph with
    | none => exact isLocal_pure _
    | some name => exact (compileReference_isLocal name).bind fun _ => isLocal_pure _
  · exact isLocal_mapM (fun path => (compileReference_isLocal path).bind fun _ => isLocal_pure _)
      n.paths

theorem compileNodes_isLocal (done : List Step) (nodes : List Node) :
    IsLocal (compileNodes host known scope done nodes) := by
  induction nodes generalizing done with
  | nil => trivial
  | cons n r ih =>
    rw [compileNodes]
    refine (compileNode_isLocal n).bind fun s => isLocal_ite_throw ?_ ?_
    · trivial
    split
    · refine isLocal_ite_throw ?_ (ih _)
      trivial
    · exact ih _

theorem compileEdge_isLocal (ids : List NodeId) (done : Edges) (index : ℕ) (e : Edge) :
    IsLocal (compileEdge host scope ids done index e) := by
  have htarget : IsLocal (compileTarget scope ids e) := by
    unfold compileTarget
    repeat' split
    all_goals trivial
  have hlink : IsLocal (compileLink host scope ids done index e) := by
    refine htarget.bind fun target => ?_
    refine (isLocal_mapError (f := CompileError.guard _) (fun _ => trivial) _).bind fun guard => ?_
    split
    · trivial
    · exact isLocal_pure _
  unfold compileEdge compileInvalidEdge
  repeat' split
  all_goals first | exact hlink | trivial

theorem compileEdges_isLocal (ids : List NodeId) (done : Edges) (index : ℕ) (es : List Edge) :
    IsLocal (compileEdges host scope ids done index es) := by
  induction es generalizing done index with
  | nil => trivial
  | cons e r ih =>
    rw [compileEdges]
    exact (compileEdge_isLocal ids done index e).bind fun next => ih next (index + 1)

/-- No scope is refused by itself for a cycle. -/
theorem compileArea_isLocal (d : Flow) : IsLocal (compileArea host known scope d) := by
  have hentry : IsLocal (compileEntry scope d) := by
    unfold compileEntry
    repeat' split
    all_goals trivial
  unfold compileArea
  refine isLocal_ite_throw ?_ ?_
  · trivial
  split
  · trivial
  · exact (compileNodes_isLocal [] d.nodes).bind fun steps => hentry.bind fun entry =>
      (compileEdges_isLocal _ _ _ _).bind fun edges => isLocal_pure _

end Local

/-! ### The two searches -/

section Searches

variable {host : Host} {known : List ScopeId} {scope : ScopeId} {d f : Flow} {a : Area}
    {node : String}
  {path : List String}

theorem Area.label_of_mem_plainSuccessors {label : String} {m n : NodeId}
    (h : (label, n) ∈ a.plainSuccessors m) :
    label = qualified a.id n := by
  obtain ⟨l, -, hlabel⟩ := List.mem_filterMap.1 h
  split at hlabel
  · cases hlabel
  · split_ifs at hlabel
    cases hlabel
    rfl

/-- The search of a scope shows nodes that follow each other. -/
theorem isRound_of_checkCycles (ha : compileArea host known scope d = .ok a)
    (h : checkCycles a = .error (.cycle node path)) :
    ∃ id, node = qualified scope id ∧ IsRound d.Follows id path := by
  obtain ⟨w, hw, hcycle⟩ := mapError_eq_error.1 h
  obtain ⟨hround, before, b, -, harc⟩ := isRound_of_findCycle (plainSuccessors_mem ha) (by simp) hw
  cases hcycle
  refine ⟨w.closing, ?_, hround.imp fun m n => (plainSuccessors_iff_follows ha).1⟩
  rw [Area.label_of_mem_plainSuccessors harc, (compileArea_eq_ok ha).1]

/-- A node of a scope, not a re-entrant one, enters another scope. -/
def Flow.CallsBy (f : Flow) (s t : ScopeId) (n : Node) : Prop :=
  ∃ d, Table.get? f.scopes s = some d ∧ n ∈ d.nodes ∧ n.reentrant = false ∧
    ∃ name ∈ n.references, s.Means f.scopeIds name t

variable {areas : List Area}

theorem mem_calls_find {s t : ScopeId} {label : String}
    (hareas : List.Forall₂
      (fun (p : ScopeId × Flow) a => compileArea host f.scopeIds p.1 p.2 = .ok a) f.scopes areas)
    (h : (label, t) ∈ (areas.find? fun a => a.id = s).elim [] Area.calls) :
    ∃ n, f.CallsBy s t n ∧ label = qualified s n.id := by
  have hfound := find_area hareas s
  unfold Flow.CallsBy
  generalize Table.get? f.scopes s = found, (areas.find? fun a => a.id = s) = found' at hfound h ⊢
  cases hfound with
  | none => cases h
  | @some d a hd =>
    simp only [Option.elim_some, Area.calls, List.mem_flatMap, List.mem_filter, List.mem_map,
      Prod.mk.injEq] at h
    obtain ⟨step, ⟨hstep, hre⟩, t, ht, rfl, rfl⟩ := h
    obtain ⟨n, hn, hns⟩ := exists_of_forall₂_right (compileArea_steps hd) hstep
    have hnode := (compileNode_eq_ok hns).1
    rw [hnode, Bool.not_eq_true'] at hre
    refine ⟨n, ⟨d, rfl, hn, hre, (compileNode_mem_targets hns).1 ht⟩, ?_⟩
    rw [(compileArea_eq_ok hd).1, Step.id, hnode]

/-- The search of the scopes shows scopes that enter each other, and the node that closes the
walk. -/
theorem isRound_of_checkRecursion
    (hareas : List.Forall₂
      (fun (p : ScopeId × Flow) a => compileArea host f.scopeIds p.1 p.2 = .ok a) f.scopes areas)
    (h : checkRecursion areas = .error (.cycle node path)) :
    ∃ scopes before s t n, path = scopes.map ScopeId.shown ∧ IsRound f.Calls t scopes ∧
      scopes = before ++ [s, t] ∧
      f.CallsBy s t n ∧ node = qualified s n.id := by
  obtain ⟨w, hw, hcycle⟩ := mapError_eq_error.1 h
  obtain ⟨hround, before, s, hlast, harc⟩ := isRound_of_findCycle (calls_mem hareas) (by simp) hw
  cases hcycle
  obtain ⟨n, hn, hlabel⟩ := mem_calls_find hareas harc
  exact ⟨w.path, before, s, w.closing, n, rfl, hround.imp fun s t => (calls_iff hareas).1,
    hlast, hn, hlabel⟩

/-- A report of a cycle comes from one of the searches, and by then every scope has passed by
itself. -/
theorem Host.compile_eq_cycle (h : host.compile f = .error (.cycle node path)) : ∃ areas,
    List.Forall₂ (fun (p : ScopeId × Flow) a => compileArea host f.scopeIds p.1 p.2 = .ok a)
      f.scopes areas ∧
      (checkRecursion areas = .error (.cycle node path) ∨
        ∃ a ∈ areas, checkCycles a = .error (.cycle node path)) := by
  unfold Host.compile at h
  rcases ite_throw_eq_error.1 h with ⟨-, hid⟩ | ⟨-, h⟩
  · cases hid
  rcases bind_eq_error.1 h with hareas | ⟨areas, hareas, h⟩
  · have hlocal : IsLocal (f.scopes.mapM fun p => compileArea host (f.scopes.map (·.1)) p.1 p.2) :=
      isLocal_mapM (fun p => compileArea_isLocal p.2) f.scopes
    rw [hareas] at hlocal
    exact hlocal.elim
  refine ⟨areas, mapM_eq_ok.1 hareas, ?_⟩
  rcases bind_eq_error.1 h with hrecursion | ⟨-, -, h⟩
  · exact .inl hrecursion
  rcases bind_eq_error.1 h with hchecks | ⟨-, -, h⟩
  · obtain ⟨a, ha, h⟩ := exists_of_forM_eq_error hchecks
    rcases bind_eq_error.1 h with hcycles | ⟨-, -, hends⟩
    · exact .inr ⟨a, ha, hcycles⟩
    · unfold checkDeadEnds at hends
      split at hends <;> cases hends
  · cases h

/-- **Reports of cycles are genuine.**  A flow that is refused for a cycle has scopes that are in
order by themselves.  The report shows nodes of one of them, from the reported node back to itself,
each of which follows the one before by an edge that is not re-entrant and is not re-entrant itself;
or it shows scopes, from one back to itself, each of which is entered from the one before by a node
that is not re-entrant, and the last of these nodes is the reported one. -/
theorem Host.cycle_isRound (h : host.compile f = .error (.cycle node path)) :
    (∀ p ∈ f.scopes, p.2.IsRegular host f.scopeIds p.1) ∧
      ((∃ p ∈ f.scopes, ∃ id, node = qualified p.1 id ∧ IsRound p.2.Follows id path) ∨
        ∃ scopes before s t n, path = scopes.map ScopeId.shown ∧ IsRound f.Calls t scopes ∧
          scopes = before ++ [s, t] ∧ f.CallsBy s t n ∧ node = qualified s n.id) := by
  obtain ⟨areas, hareas, hsearch⟩ := Host.compile_eq_cycle h
  refine ⟨fun p hp => ?_, ?_⟩
  · obtain ⟨a, -, hpa⟩ := exists_of_forall₂_right hareas.flip hp
    exact exists_compileArea_iff.1 ⟨a, hpa⟩
  · rcases hsearch with hrecursion | ⟨a, ha, hcycles⟩
    · exact .inr (isRound_of_checkRecursion hareas hrecursion)
    · obtain ⟨p, hp, hpa⟩ := exists_of_forall₂_right hareas ha
      obtain ⟨id, hnode, hround⟩ := isRound_of_checkCycles hpa hcycles
      exact .inl ⟨p, hp, id, hnode, hround⟩

end Searches

/-! ### Flows that are refused -/

namespace Samples

/-- Two decisions that follow each other. -/
def roundabout : Flow where
  id := "roundabout"
  nodes := [.decision "north", .decision "south"]
  edges := [.always "north" "south", .always "south" "north"]

/-- A subgraph that enters itself. -/
def mirror : Flow where
  id := "mirror"
  nodes := [.subgraphRef "look" "glass", .terminal "end"]
  edges := [.always "look" "end"]
  subgraphs := [("glass", { nodes := [.subgraphRef "again" "glass"], edges := [.exit "again"] })]

theorem compile_roundabout :
    Host.builtin.compile roundabout = .error (.cycle "north" ["north", "south", "north"]) := rfl

theorem compile_mirror :
    Host.builtin.compile mirror = .error (.cycle "glass/again" ["glass", "glass"]) := rfl

/-- Where no scope enters another, a report shows nodes; where no node comes back to itself, it
shows scopes. -/
theorem cycles_isRound :
    Host.builtin.compile roundabout = .error (.cycle "north" ["north", "south", "north"]) ∧
      (∃ p ∈ roundabout.scopes, ∃ id, "north" = qualified p.1 id ∧
        IsRound p.2.Follows id ["north", "south", "north"]) ∧
    Host.builtin.compile mirror = .error (.cycle "glass/again" ["glass", "glass"]) ∧
      ∃ s n, mirror.CallsBy s s n ∧ "glass/again" = qualified s n.id := by
  refine ⟨compile_roundabout, ?_, compile_mirror, ?_⟩
  · obtain ⟨-, hnodes | ⟨-, -, s, t, n, -, -, -, ⟨d, hd, hn, -, name, hname, -⟩, -⟩⟩ :=
      Host.cycle_isRound compile_roundabout
    · exact hnodes
    · have hplain : ∀ p ∈ roundabout.scopes, ∀ n ∈ p.2.nodes, n.references = [] := by decide
      rw [hplain _ (Table.mem_of_get? hd) n hn] at hname
      cases hname
  · obtain ⟨-, ⟨p, hp, id, -, hround⟩
        | ⟨scopes, before, s, t, n, hpath, hround, rfl, hcalls, hnode⟩⟩ :=
      Host.cycle_isRound compile_mirror
    · have hnone : ∀ p ∈ mirror.scopes, ∀ e ∈ p.2.edges, e.source ≠ "glass" := by decide
      obtain ⟨⟨e, he, -, -, hsource, -⟩, -⟩ := List.isChain_cons_cons.1 hround.steps
      exact absurd hsource (hnone p hp e he)
    · -- the walk has one step, so it begins where it ends
      have hlength := congrArg List.length hpath
      have hbefore : before = [] := by
        rw [← List.length_eq_zero_iff]
        simpa using hlength.symm
      have hfirst := hround.first
      rw [hbefore] at hfirst
      cases hfirst
      exact ⟨s, n, hcalls, hnode⟩

end Samples

end Parley
