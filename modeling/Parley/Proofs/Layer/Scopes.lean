import Parley.Flow.Build
import Parley.Proofs.Layer.Declared

/-!
# The scopes of merged layers

The merge works on one overlay of all layers, subgraph within subgraph.  Along every list of names
it finds what the layers have there, so each scope of the merged flow comes from the declarations of
the layers for it.

* `Overlay.declared?`, `Overlay.declared?_ofLayers`: what an overlay has for a scope;
* `Overlay.resolve_descend`: the scopes of a resolved overlay;
* `Overlay.IsOrdered`, `Overlay.paths`: all scopes of an overlay, in order;
* `Layer.merge_descend`: the scopes of the merged flow, each with what its declarations add up to;
* `Layer.merge_scopes`: the conflicts of a merge, scope after scope;
* `Samples.houseRules`: a tenant's layer over one for all.
-/

namespace Parley

/-! ### Scopes of an overlay -/

namespace Overlay

/-- The part of an overlay to which names lead. -/
def at? : Overlay → List String → Option Overlay
  | o, [] => some o
  | o, name :: path => (Dict.get? o.subgraphs name).bind (at? · path)

/-- The declarations for the scope to which names lead, if it is there. -/
def declared? (o : Option Overlay) (path : List String) : Option Declared :=
  (o.bind (at? · path)).map Overlay.declarations

/-- Graphs of a layer bring a scope about, and add their declarations to it. -/
def addGraphs (layer : String) (graphs : List LayerGraph) (ds : Option Declared) :
    Option Declared :=
  graphs.foldl (fun ds g => some (ds.getD [] ++ g.declarations.map (layer, ·))) ds

/-- One subgraph after the other is put on top. -/
theorem get?_stackSubgraphs (layer name : String) (subgraphs : List (String × LayerGraph))
    (below : List (String × Overlay)) :
    Dict.get? (stackSubgraphs layer subgraphs below) name =
      (subgraphs.filter fun s => s.1 = name).foldl (fun o s => some (stack layer s.2 (o.getD {})))
        (Dict.get? below name) := by
  induction subgraphs generalizing below with
  | nil => rfl
  | cons s subgraphs ih =>
    obtain ⟨name', g⟩ := s
    rw [stackSubgraphs, ih, Dict.get?_insert, List.filter_cons]
    by_cases hname : name' = name
    · subst hname
      simp
    · simp [hname]

theorem addGraphs_append (layer : String) (gs hs : List LayerGraph) (ds : Option Declared) :
    addGraphs layer (gs ++ hs) ds = addGraphs layer hs (addGraphs layer gs ds) := List.foldl_append

/-- What a layer has for a scope is put on top of what was there. -/
theorem declared?_stack (layer : String) (path : List String) (g : LayerGraph)
    (o : Option Overlay) :
    declared? (some (stack layer g (o.getD {}))) path =
      addGraphs layer (g.within path) (declared? o path) := by
  induction path generalizing g o with
  | nil =>
    obtain ⟨entry, nodes, edges, subgraphs⟩ := g
    cases o <;> rfl
  | cons name path ih =>
    obtain ⟨entry, nodes, edges, subgraphs⟩ := g
    -- the subgraphs of the name, one after the other
    have hfold (subs : List (String × LayerGraph)) (o : Option Overlay) :
        declared? (subs.foldl (fun o s => some (stack layer s.2 (o.getD {}))) o) path =
          addGraphs layer (subs.flatMap fun s => s.2.within path) (declared? o path) := by
      induction subs generalizing o with
      | nil => rfl
      | cons s subs ihs => rw [List.foldl_cons, ihs, ih, List.flatMap_cons, addGraphs_append]
    have hbelow : declared? o (name :: path) =
        declared? (Dict.get? (o.getD {}).subgraphs name) path := by
      cases o <;> rfl
    show declared? (Dict.get? (stackSubgraphs layer subgraphs (o.getD {}).subgraphs) name) path = _
    rw [get?_stackSubgraphs, hfold, hbelow]
    rfl

theorem getD_addGraphs (layer : String) (gs : List LayerGraph) (ds : Option Declared) :
    (addGraphs layer gs ds).getD [] = ds.getD [] ++ gs.flatMap fun g =>
      g.declarations.map (layer, ·) := by
  induction gs generalizing ds with
  | nil => simp [addGraphs]
  | cons g gs ih =>
    rw [addGraphs, List.foldl_cons, ← addGraphs, ih]
    simp

theorem isSome_addGraphs (layer : String) (gs : List LayerGraph) (ds : Option Declared) :
    (addGraphs layer gs ds).isSome = true ↔ ds.isSome = true ∨ gs ≠ [] := by
  induction gs generalizing ds with
  | nil => simp [addGraphs]
  | cons g gs ih =>
    rw [addGraphs, List.foldl_cons, ← addGraphs, ih]
    simp

/-- Layers one over another. -/
theorem declared?_foldl (layers : List Layer) (path : List String) (o : Overlay) :
    declared? (some (layers.foldl (fun o l => stack l.name l.graph o) o)) path =
      layers.foldl (fun ds l => addGraphs l.name (l.graph.within path) ds)
        (declared? (some o) path) := by
  induction layers generalizing o with
  | nil => rfl
  | cons l layers ih =>
    rw [List.foldl_cons, List.foldl_cons, ih, ← declared?_stack, Option.getD_some]

theorem declared?_empty (path : List String) :
    declared? (some {}) path = if path = [] then some [] else none := by
  cases path <;> rfl

theorem isSome_foldl (layers : List Layer) (path : List String) (ds : Option Declared) :
    (layers.foldl (fun ds l => addGraphs l.name (l.graph.within path) ds) ds).isSome = true ↔
      ds.isSome = true ∨ ∃ l ∈ layers, l.graph.within path ≠ [] := by
  induction layers generalizing ds with
  | nil => simp
  | cons l layers ih =>
    rw [List.foldl_cons, ih, isSome_addGraphs, or_assoc, List.exists_mem_cons_iff]

theorem getD_foldl (layers : List Layer) (path : List String) (ds : Option Declared) :
    (layers.foldl (fun ds l => addGraphs l.name (l.graph.within path) ds) ds).getD [] =
      ds.getD [] ++ layers.flatMap fun l =>
        (l.graph.within path).flatMap fun g => g.declarations.map (l.name, ·) := by
  induction layers generalizing ds with
  | nil => simp
  | cons l layers ih =>
    rw [List.foldl_cons, ih, getD_addGraphs, List.flatMap_cons, List.append_assoc]

/-- A scope is there if some layer has it, and its declarations are those of the layers. -/
theorem declared?_ofLayers (layers : List Layer) (path : List String) :
    ((declared? (some (ofLayers (Layer.inOrder layers))) path).isSome = true ↔
      Layer.HasScope layers path) ∧
      (declared? (some (ofLayers (Layer.inOrder layers))) path).getD [] =
        Layer.declarationsAt layers path := by
  rw [ofLayers, declared?_foldl, declared?_empty, isSome_foldl, getD_foldl, Layer.HasScope,
    Layer.declarationsAt, ← Layer.inOrder_eq_byTier]
  refine ⟨or_congr ?_ ?_, ?_⟩
  · split <;> simp_all
  · exact exists_congr fun l => and_congr_left fun _ => (List.mergeSort_perm _ _).mem_iff
  · split <;> rfl

end Overlay

/-! ### Scopes of the merged flow -/

namespace Overlay

/-- What stands before the names of the elements of a scope in reports. -/
def prefixFrom (before : String) : List String → String
  | [] => before
  | name :: path => prefixFrom (before ++ name ++ "/") path

variable {before : String} {o : Overlay} {m : Merged}

theorem resolve_eq_ok (h : o.resolve before = .ok m) :
    ∃ f subgraphs conflicts,
      (Draft.ofDeclarations before o.declarations).finish before = .ok f ∧
      resolveSubgraphs before o.subgraphs = .ok (subgraphs, conflicts) ∧
      m = ⟨{ f with subgraphs }, (Draft.ofDeclarations before o.declarations).conflicts ++
        conflicts⟩ := by
  obtain ⟨ds, subs⟩ := o
  unfold resolve at h
  obtain ⟨f, hf, h⟩ := bind_eq_ok.1 h
  obtain ⟨⟨subgraphs, conflicts⟩, hsubs, h⟩ := bind_eq_ok.1 h
  exact ⟨f, subgraphs, conflicts, hf, hsubs, (pure_eq_ok.1 h).symm⟩

theorem forall₂_of_resolveSubgraphs {subs : List (String × Overlay)} {fs : List (String × Flow)}
    {cs : List Conflict} (h : resolveSubgraphs before subs = .ok (fs, cs)) :
    List.Forall₂ (fun s f => f.1 = s.1 ∧ ∃ m, s.2.resolve (before ++ s.1 ++ "/") = .ok m ∧
      m.flow = f.2) subs fs := by
  induction subs generalizing fs cs with
  | nil =>
    cases h
    exact .nil
  | cons s subs ih =>
    obtain ⟨name, o⟩ := s
    unfold resolveSubgraphs at h
    obtain ⟨m, hm, h⟩ := bind_eq_ok.1 h
    obtain ⟨⟨rest, cs'⟩, hrest, h⟩ := bind_eq_ok.1 h
    cases pure_eq_ok.1 h
    exact .cons ⟨rfl, m, hm, rfl⟩ (ih hrest)

/-- The merged flow has the scopes of the overlay, and each is what its declarations add up to. -/
theorem resolve_descend (h : o.resolve before = .ok m) (path : List String) :
    (o.at? path = none ∧ m.flow.descend? path = none) ∨
      ∃ o' f base, o.at? path = some o' ∧ m.flow.descend? path = some f ∧
        (Draft.ofDeclarations (prefixFrom before path) o'.declarations).finish
          (prefixFrom before path) = .ok base ∧
        f = { base with subgraphs := f.subgraphs } := by
  induction path generalizing before o m with
  | nil =>
    obtain ⟨f, subgraphs, conflicts, hf, -, rfl⟩ := resolve_eq_ok h
    exact .inr ⟨o, _, f, rfl, rfl, hf, rfl⟩
  | cons name path ih =>
    obtain ⟨f, subgraphs, conflicts, -, hsubs, rfl⟩ := resolve_eq_ok h
    rw [at?, Flow.descend?]
    rcases Dict.get?_of_forall₂
        (R := fun name o f => ∃ m, resolve (before ++ name ++ "/") o = .ok m ∧ m.flow = f)
        (forall₂_of_resolveSubgraphs hsubs) name with ⟨ho, hf⟩ | ⟨o', _, ho, hf, m, hm, rfl⟩
    · rw [ho, hf]
      exact .inl ⟨rfl, rfl⟩
    · rw [ho, hf]
      exact ih hm

end Overlay

/-! ### All scopes in order -/

namespace Overlay

/-- The subgraphs are sorted by name, at any depth. -/
inductive IsOrdered : Overlay → Prop
  | mk {ds : Declared} {subgraphs : List (String × Overlay)} (names : Dict.Ordered subgraphs)
      (below : ∀ s ∈ subgraphs, s.2.IsOrdered) : IsOrdered ⟨ds, subgraphs⟩

theorem IsOrdered.names {o : Overlay} (h : o.IsOrdered) : Dict.Ordered o.subgraphs := by
  obtain ⟨names, -⟩ := h
  exact names

theorem IsOrdered.subgraphs {o : Overlay} (h : o.IsOrdered) : ∀ s ∈ o.subgraphs, s.2.IsOrdered := by
  obtain ⟨-, below⟩ := h
  exact below

/-- What is found among subgraphs, if anything is. -/
theorem getD_isOrdered {subgraphs : List (String × Overlay)}
    (below : ∀ s ∈ subgraphs, s.2.IsOrdered) (name : String) :
    ((Dict.get? subgraphs name).getD {}).IsOrdered := by
  cases hget : Dict.get? subgraphs name with
  | none => exact .mk .nil nofun
  | some o => exact below _ (Dict.mem_of_get? hget)

mutual

theorem stack_isOrdered (layer : String) :
    ∀ (g : LayerGraph) {o : Overlay}, o.IsOrdered → (stack layer g o).IsOrdered
  | ⟨entry, nodes, edges, subgraphs⟩, _, .mk names below => by
      unfold stack
      obtain ⟨names, below⟩ := stackSubgraphs_isOrdered layer subgraphs names below
      exact .mk names below

theorem stackSubgraphs_isOrdered (layer : String) :
    ∀ (subgraphs : List (String × LayerGraph)) {below : List (String × Overlay)},
      Dict.Ordered below →
      (∀ s ∈ below, s.2.IsOrdered) → Dict.Ordered (stackSubgraphs layer subgraphs below) ∧
        ∀ s ∈ stackSubgraphs layer subgraphs below, s.2.IsOrdered
  | [], _, names, hbelow => by
      unfold stackSubgraphs
      exact ⟨names, hbelow⟩
  | (name, g) :: r, below, names, hbelow => by
      unfold stackSubgraphs
      refine stackSubgraphs_isOrdered layer r (names.insert name _) fun s hs => ?_
      rcases Dict.mem_insert hs with rfl | hs
      · exact stack_isOrdered layer g (getD_isOrdered hbelow name)
      · exact hbelow s hs

end

theorem ofLayers_isOrdered (layers : List Layer) : (ofLayers layers).IsOrdered := by
  unfold ofLayers
  induction layers using List.reverseRecOn with
  | nil => exact .mk .nil nofun
  | append_singleton layers l ih =>
    rw [List.foldl_append]
    exact stack_isOrdered l.name l.graph ih

mutual

/-- The scopes of an overlay, each before those in it. -/
def paths : Overlay → List (List String)
  | ⟨_, subgraphs⟩ => [] :: pathsBelow subgraphs

def pathsBelow : List (String × Overlay) → List (List String)
  | [] => []
  | (name, o) :: r => (paths o).map (name :: ·) ++ pathsBelow r

end

theorem mem_pathsBelow {subgraphs : List (String × Overlay)} {path : List String} :
    path ∈ pathsBelow subgraphs ↔ ∃ s ∈ subgraphs, ∃ q ∈ s.2.paths, s.1 :: q = path := by
  induction subgraphs with
  | nil => simp [pathsBelow]
  | cons s subgraphs ih =>
    obtain ⟨name, o⟩ := s
    rw [pathsBelow, List.mem_append, ih, List.mem_map, List.exists_mem_cons_iff]

/-- Names lead to a scope if they are among the scopes. -/
theorem IsOrdered.mem_paths {o : Overlay} (h : o.IsOrdered) (path : List String) :
    path ∈ o.paths ↔ (o.at? path).isSome = true := by
  induction path generalizing o with
  | nil =>
    obtain ⟨ds, subgraphs⟩ := o
    exact iff_of_true (by rw [paths]; exact List.mem_cons_self) rfl
  | cons name path ih =>
    obtain ⟨names, below⟩ := h
    rename_i ds subgraphs
    have hmem : name :: path ∈ (⟨ds, subgraphs⟩ : Overlay).paths ↔
        ∃ o, (name, o) ∈ subgraphs ∧ path ∈ o.paths := by
      rw [paths, List.mem_cons, or_iff_right (by simp), mem_pathsBelow]
      constructor
      · rintro ⟨⟨name', o⟩, hs, q, hq, heq⟩
        cases heq
        exact ⟨o, hs, hq⟩
      · rintro ⟨o, hs, hq⟩
        exact ⟨(name, o), hs, path, hq, rfl⟩
    rw [hmem, at?]
    constructor
    · rintro ⟨o, hs, hq⟩
      rw [names.get?_of_mem hs, Option.bind_some]
      exact (ih (below _ hs)).1 hq
    · intro hsome
      cases hget : Dict.get? subgraphs name with
      | none =>
        rw [hget] at hsome
        cases hsome
      | some o =>
        rw [hget, Option.bind_some] at hsome
        have hs := Dict.mem_of_get? hget
        exact ⟨o, hs, (ih (below _ hs)).2 hsome⟩

mutual

/-- The scopes are listed in lexicographic order, so each once. -/
theorem IsOrdered.paths_increasing : ∀ {o : Overlay}, o.IsOrdered → o.paths.Pairwise (· < ·)
  | ⟨ds, subgraphs⟩, .mk names below => by
      rw [paths]
      refine List.pairwise_cons.2
        ⟨fun path hpath => ?_, pathsBelow_increasing subgraphs names below⟩
      obtain ⟨s, -, q, -, rfl⟩ := mem_pathsBelow.1 hpath
      exact List.nil_lt_cons _ _

theorem pathsBelow_increasing : ∀ (subgraphs : List (String × Overlay)), Dict.Ordered subgraphs →
    (∀ s ∈ subgraphs, s.2.IsOrdered) → (pathsBelow subgraphs).Pairwise (· < ·)
  | [], _, _ => by
      rw [pathsBelow]
      exact .nil
  | (name, o) :: r, names, below => by
      obtain ⟨hname, hr⟩ := List.pairwise_cons.1 names
      obtain ⟨ho, hbelow⟩ := List.forall_mem_cons.1 below
      rw [pathsBelow]
      refine List.pairwise_append.2 ⟨List.pairwise_map.2 (ho.paths_increasing.imp fun hlt => ?_),
        pathsBelow_increasing r hr hbelow, fun path hpath path' hpath' => ?_⟩
      · exact List.cons_lt_cons_iff.2 (.inr ⟨rfl, hlt⟩)
      · obtain ⟨q, -, rfl⟩ := List.mem_map.1 hpath
        obtain ⟨s, hs, q', -, rfl⟩ := mem_pathsBelow.1 hpath'
        exact List.cons_lt_cons_iff.2 (.inl (hname s hs))

end

/-! ### Conflicts -/

/-- The conflicts that a draft comes to on the declarations for a scope. -/
def draftConflicts (before : String) (o : Overlay) (path : List String) : List Conflict :=
  (Draft.ofDeclarations (prefixFrom before path) ((declared? (some o) path).getD [])).conflicts

mutual

/-- The conflicts of an overlay are those of its scopes. -/
theorem IsOrdered.resolve_conflicts :
    ∀ {o : Overlay}, o.IsOrdered → ∀ {before : String} {m : Merged}, o.resolve before = .ok m →
      m.conflicts = o.paths.flatMap (draftConflicts before o)
  | ⟨ds, subgraphs⟩, .mk names below, before, m, h => by
      obtain ⟨f, fs, conflicts, -, hsubgraphs, rfl⟩ := resolve_eq_ok h
      rw [paths, List.flatMap_cons, resolveSubgraphs_conflicts ds subgraphs names below hsubgraphs]
      rfl

theorem resolveSubgraphs_conflicts (ds : Declared) :
    ∀ (subgraphs : List (String × Overlay)), Dict.Ordered subgraphs →
      (∀ s ∈ subgraphs, s.2.IsOrdered) →
        ∀ {before : String} {fs : List (String × Flow)} {conflicts : List Conflict},
      resolveSubgraphs before subgraphs = .ok (fs, conflicts) →
        conflicts = (pathsBelow subgraphs).flatMap (draftConflicts before ⟨ds, subgraphs⟩)
  | [], _, _, before, fs, conflicts, h => by
      cases h
      rw [pathsBelow]
      rfl
  | (name, o) :: r, names, below, before, fs, conflicts, h => by
      unfold resolveSubgraphs at h
      obtain ⟨m, hm, h⟩ := bind_eq_ok.1 h
      obtain ⟨⟨rest, conflicts'⟩, hrest, h⟩ := bind_eq_ok.1 h
      cases pure_eq_ok.1 h
      obtain ⟨hname, hr⟩ := List.pairwise_cons.1 names
      obtain ⟨ho, hbelow⟩ := List.forall_mem_cons.1 below
      rw [pathsBelow, List.flatMap_append, List.flatMap_map, ho.resolve_conflicts hm,
        resolveSubgraphs_conflicts ds r hr hbelow hrest]
      refine congrArg₂ (· ++ ·) (List.flatMap_congr fun path _ => ?_)
        (List.flatMap_congr fun path hpath => ?_)
      · have hget : declared? (some ⟨ds, (name, o) :: r⟩) (name :: path) =
            declared? (some o) path := by
          simp [declared?, at?, Dict.get?]
        rw [draftConflicts, draftConflicts, hget]
        rfl
      · obtain ⟨s, hs, q, -, rfl⟩ := mem_pathsBelow.1 hpath
        have hget : declared? (some ⟨ds, (name, o) :: r⟩) (s.1 :: q) =
            declared? (some ⟨ds, r⟩) (s.1 :: q) := by
          simp [declared?, at?, Dict.get?, (hname s hs).ne]
        rw [draftConflicts, draftConflicts, hget]

end

end Overlay

/-! ### The merged flow and its conflicts -/

namespace Layer

variable {layers : List Layer} {m : Merged}

theorem merge_eq_ok (h : merge layers = .ok m) :
    ∃ m', (Overlay.ofLayers (inOrder layers)).resolve "" = .ok m' ∧
      m = { m' with flow := { m'.flow with id := flowId (inOrder layers) } } := by
  obtain ⟨m', hm', h⟩ := bind_eq_ok.1 h
  exact ⟨m', hm', (pure_eq_ok.1 h).symm⟩

/-- A scope of the merged flow is what the declarations for it add up to. -/
theorem merge_descend (h : merge layers = .ok m) (path : List String) :
    (¬ HasScope layers path ∧ m.flow.descend? path = none) ∨
      HasScope layers path ∧ ∃ before f base, m.flow.descend? path = some f ∧
        (Draft.ofDeclarations before (declarationsAt layers path)).finish before = .ok base ∧
        f.entry = base.entry ∧ f.nodes = base.nodes ∧ f.edges = base.edges := by
  obtain ⟨m', hm', rfl⟩ := merge_eq_ok h
  obtain ⟨hscope, hdeclared⟩ := Overlay.declared?_ofLayers layers path
  unfold Overlay.declared? at hscope hdeclared
  rw [Option.bind_some] at hscope hdeclared
  -- the root is given its id afterwards
  have hroot : Flow.descend? { m'.flow with id := flowId (inOrder layers) } path =
      (m'.flow.descend? path).map fun f =>
        if path = [] then { f with id := flowId (inOrder layers) } else f := by
    cases path with
    | nil => rfl
    | cons name path =>
      show m'.flow.descend? (name :: path) = (m'.flow.descend? (name :: path)).map fun f => f
      rw [Option.map_id']
  rcases Overlay.resolve_descend hm' path with ⟨ho, hf⟩ | ⟨o, f, base, ho, hf, hbase, heq⟩
  · rw [ho] at hscope
    refine .inl ⟨by simpa using hscope, ?_⟩
    rw [hroot, hf]
    rfl
  · rw [ho] at hscope hdeclared
    refine .inr ⟨hscope.1 rfl, Overlay.prefixFrom "" path, _, base, hroot.trans (by rw [hf]; rfl),
      hdeclared ▸ hbase, ?_⟩
    rw [heq]
    split <;> exact ⟨rfl, rfl, rfl⟩

/-- The scopes of layers, listed so that each stands before those in it, and those of a scope by
name. -/
structure AreScopes (layers : List Layer) (paths : List (List String)) : Prop where
  increasing : paths.Pairwise (· < ·)
  mem_iff : ∀ path, path ∈ paths ↔ HasScope layers path

/-- The conflicts are those of the scopes, one scope after the other. -/
theorem merge_scopes (h : merge layers = .ok m) :
    ∃ paths, AreScopes layers paths ∧ m.conflicts = paths.flatMap fun path =>
      (Draft.ofDeclarations (Overlay.prefixFrom "" path)
          (declarationsAt layers path)).conflicts := by
  obtain ⟨m', hm', rfl⟩ := merge_eq_ok h
  have hordered := Overlay.ofLayers_isOrdered (inOrder layers)
  refine ⟨(Overlay.ofLayers (inOrder layers)).paths,
    ⟨hordered.paths_increasing, fun path => ?_⟩, ?_⟩
  · rw [hordered.mem_paths, ← (Overlay.declared?_ofLayers layers path).1, Overlay.declared?,
      Option.isSome_map]
    rfl
  · refine (hordered.resolve_conflicts hm').trans (List.flatMap_congr fun path _ => ?_)
    rw [Overlay.draftConflicts, (Overlay.declared?_ofLayers layers path).2]

end Layer

/-! ### A layer over another -/

namespace Samples

/-- A flow for all, and a tenant with a prompt of its own and without the greeting. -/
def houseRules : List Layer := [
  { tier := .tenant
    graph := {
      nodes := [{ id := "ask", prompt := some "How may we help?" },
          { id := "greet", remove := true }] } },
  { tier := .global
    graph := {
      nodes := [
        { id := "greet", kind := some .action },
        { id := "ask", kind := some .question, key := some "topic", prompt := some "Yes?" },
        { id := "end", kind := some .terminal }]
      edges := [{ source := "greet", target := "ask" }, { source := "ask", target := "end" }] } }]

/-- The flow that they make together. -/
def houseFlow : Flow where
  version := 1
  entry := some "ask"
  nodes := [.question "ask" "topic" "How may we help?", .terminal "end"]
  edges := [.always "ask" "end"]

/-- What they disagree on. -/
def houseConflict : Conflict :=
  ⟨"ask", "prompt", "global", .string "Yes?", "tenant", .string "How may we help?"⟩

theorem merge_houseRules : Layer.merge houseRules = .ok ⟨houseFlow, [houseConflict]⟩ := by
  cbv

end Samples

end Parley
