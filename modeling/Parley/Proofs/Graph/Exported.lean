import Parley.Graph.Export
import Parley.Proofs.Graph.Lexical
import Parley.Proofs.Graph.Warnings
import Parley.Proofs.Guard.EdgeGuards

/-!
# Exported documents

The document of a compiled flow is made from a list of scopes, each with its address, and from the
links of each node.  The flow itself is a tree, and its edges stand in a list.  The document mirrors
the tree: scope by scope it has the entry, the nodes and the edges of the flow, and the subgraphs
under their names.

* `Flow.paths`: the names on the way to each scope, and those that are one name longer;
* `Graph.inside_ofNames`: the scopes that are found inside a scope are its subgraphs;
* `compileArea_exportedLinks`: links that are sorted again stand as before;
* `Node.IsShownAs`, `Edge.IsShownAs`, `Mirrors`: what the members of a document are;
* `Host.export_mirrors`.
-/

namespace Parley

open Json (memberIfSome)

/-! ### The scope around a scope -/

namespace ScopeId

variable {names path : List String} {name : String}

theorem joinWith_parts (s : ScopeId) : String.ofList (Text.joinWith '/' s.parts) = s.text := by
  unfold parts
  split_ifs with hroot
  · rw [isRoot_iff.1 hroot]
    rfl
  · rw [Text.joinWith_splitOn, String.ofList_toList]

theorem not_isRoot_ofNames_concat (h : ∀ n ∈ names ++ [name], IsName n) :
    ¬ (ofNames (names ++ [name])).isRoot = true := by
  rw [isRoot_iff, ofNames_eq_root_iff h]
  simp

theorem splitOn_ofNames_concat (h : ∀ n ∈ names ++ [name], IsName n) :
    Text.splitOn '/' (ofNames (names ++ [name])).text.toList =
      (names ++ [name]).map String.toList := by
  rw [← parts_ofNames h, parts, if_neg (not_isRoot_ofNames_concat h)]

/-- The scope around a scope is at the end of the names but the last. -/
theorem parent?_ofNames_concat (h : ∀ n ∈ names ++ [name], IsName n) :
    (ofNames (names ++ [name])).parent? = some (ofNames names) := by
  have hnames : ∀ n ∈ names, IsName n := fun n hn => h n (List.mem_append_left _ hn)
  rw [parent?, if_neg (not_isRoot_ofNames_concat h), splitOn_ofNames_concat h, List.map_append,
    List.map_singleton, List.dropLast_concat, ← parts_ofNames hnames, joinWith_parts]

/-- The names of an address are found in it again. -/
theorem segments_ofNames (h : ∀ n ∈ names, IsName n) : (ofNames names).segments = names := by
  have hfull : (names.map String.toList).filter (fun p => !p.isEmpty) =
      names.map String.toList := by
    refine List.filter_eq_self.2 fun p hp => ?_
    obtain ⟨n, hn, rfl⟩ := List.mem_map.1 hp
    rw [Bool.not_eq_true', List.isEmpty_eq_false_iff]
    exact fun hnil => (h n hn).1 (String.toList_inj.1 hnil)
  cases names using List.reverseRecOn with
  | nil => rfl
  | append_singleton names name =>
    rw [segments, splitOn_ofNames_concat h, hfull]
    simp

/-- The name of a scope is the last one. -/
theorem name?_ofNames_concat (h : ∀ n ∈ names ++ [name], IsName n) :
    (ofNames (names ++ [name])).name? = some name := by
  rw [name?, segments_ofNames h, List.getLast?_concat]

theorem ofNames_injOn (hnames : ∀ n ∈ names, IsName n) (hpath : ∀ n ∈ path, IsName n)
    (h : ofNames names = ofNames path) : names = path := by
  have hparts := congrArg parts h
  rw [parts_ofNames hnames, parts_ofNames hpath] at hparts
  exact (List.map_injective_iff.2 fun _ _ => String.toList_inj.1) hparts

/-- A scope is inside another one if one name leads on to it. -/
theorem parent?_ofNames_iff (hnames : ∀ n ∈ names, IsName n) (hpath : ∀ n ∈ path, IsName n) :
    (ofNames names).parent? = some (ofNames path) ↔ names ≠ [] ∧ names.dropLast = path := by
  cases names using List.reverseRecOn with
  | nil => exact iff_of_false nofun fun h => h.1 rfl
  | append_singleton names name =>
    rw [parent?_ofNames_concat hnames, Option.some.injEq, List.dropLast_concat,
      and_iff_right (by simp)]
    exact ⟨ofNames_injOn (fun n hn => hnames n (List.mem_append_left _ hn)) hpath, congrArg ofNames⟩

end ScopeId

/-! ### The paths of a flow -/

namespace Flow

mutual

/-- The names on the way to each scope of a flow, outer scopes before inner ones. -/
def paths : Flow → List (List String)
  | ⟨_, _, _, _, _, subgraphs, _⟩ => [] :: subgraphPaths subgraphs

def subgraphPaths : List (String × Flow) → List (List String)
  | [] => []
  | (name, f) :: r => (paths f).map (name :: ·) ++ subgraphPaths r

end

mutual

theorem map_scopesAt : ∀ (f : Flow) (at_ : ScopeId),
    (f.scopesAt at_).map Prod.fst = f.paths.map fun names => names.foldl ScopeId.child at_
  | ⟨_, _, _, _, _, subgraphs, _⟩, at_ => by
      rw [scopesAt, paths, List.map_cons, List.map_cons, map_subgraphScopes subgraphs at_]
      rfl

theorem map_subgraphScopes : ∀ (subgraphs : List (String × Flow)) (at_ : ScopeId),
    (subgraphScopes at_ subgraphs).map Prod.fst =
      (subgraphPaths subgraphs).map fun names => names.foldl ScopeId.child at_
  | [], _ => rfl
  | (name, f) :: r, at_ => by
      rw [subgraphScopes, subgraphPaths, List.map_append, List.map_append,
        map_scopesAt f (at_.child name), map_subgraphScopes r at_, List.map_map]
      rfl

end

theorem scopeIds_eq_map_paths (f : Flow) : f.scopeIds = f.paths.map ScopeId.ofNames :=
  map_scopesAt f .root

theorem subgraphPaths_eq_flatMap (subgraphs : List (String × Flow)) :
    subgraphPaths subgraphs = subgraphs.flatMap fun q => q.2.paths.map (q.1 :: ·) := by
  induction subgraphs with
  | nil => rfl
  | cons q r ih => rw [subgraphPaths, ih, List.flatMap_cons]

theorem paths_eq (f : Flow) :
    f.paths = [] :: f.subgraphs.flatMap fun q => q.2.paths.map (q.1 :: ·) := by
  rw [← subgraphPaths_eq_flatMap]
  cases f
  rw [paths]

/-- The subgraphs of each scope are sorted by name. -/
def IsSorted (f : Flow) : Prop := ∀ names d, f.descend? names = some d → Dict.Ordered d.subgraphs

theorem IsSorted.sub {f sub : Flow} {name : String} (h : f.IsSorted)
    (hsub : Dict.get? f.subgraphs name = some sub) :
    sub.IsSorted :=
  fun names d hd => h (name :: names) d (by rw [descend?, hsub]; exact hd)

theorem IsSorted.isSome_descend? {f : Flow} {names : List String} (h : f.IsSorted)
    (hnames : names ∈ f.paths) :
    (f.descend? names).isSome = true := by
  induction names generalizing f with
  | nil => rfl
  | cons name names ih =>
    rw [paths_eq, List.mem_cons, or_iff_right (List.cons_ne_nil _ _)] at hnames
    obtain ⟨q, hq, hnames⟩ := List.mem_flatMap.1 hnames
    obtain ⟨rest, hrest, heq⟩ := List.mem_map.1 hnames
    cases heq
    have hsub := (h [] f rfl).get?_of_mem hq
    rw [descend?, hsub]
    exact ih (h.sub hsub) hrest

theorem filter_paths_nil (f : Flow) : f.paths.filter (fun names => names = []) = [[]] := by
  rw [paths_eq, List.filter_cons_of_pos (by simp)]
  congr 1
  refine List.filter_eq_nil_iff.2 fun names hnames => ?_
  obtain ⟨q, -, hnames⟩ := List.mem_flatMap.1 hnames
  obtain ⟨rest, -, rfl⟩ := List.mem_map.1 hnames
  simp

/-- The paths one name longer than the path of a scope are those of its subgraphs, in the same
order. -/
theorem IsSorted.filter_paths {f d : Flow} {path : List String} (h : f.IsSorted)
    (hd : f.descend? path = some d) :
    f.paths.filter (fun names => names ≠ [] ∧ names.dropLast = path) = d.subgraphs.map fun q =>
      path ++ [q.1] := by
  induction path generalizing f with
  | nil =>
    cases hd
    -- of the paths through a subgraph only its own has one name
    have hone (q : String × Flow) :
        (q.2.paths.map (q.1 :: ·)).filter (fun names => names ≠ [] ∧ names.dropLast = []) =
          [[q.1]] := by
      rw [List.filter_map, ← List.map_singleton (f := (q.1 :: ·)), ← filter_paths_nil q.2]
      refine congrArg _ (List.filter_congr fun names _ => decide_eq_decide.2 ?_)
      cases names <;> simp
    rw [paths_eq, List.filter_cons_of_neg (by simp), List.filter_flatMap]
    simp only [hone]
    exact List.map_eq_flatMap.symm
  | cons name path ih =>
    obtain ⟨sub, hsub, hd⟩ := Option.bind_eq_some_iff.1 hd
    -- and only one of the subgraphs has the first name of the path
    have hone (q : String × Flow) :
        (q.2.paths.map (q.1 :: ·)).filter
          (fun names => names ≠ [] ∧ names.dropLast = name :: path) =
          if q.1 = name then (q.2.paths.filter fun names => names ≠ [] ∧ names.dropLast = path).map
            (name :: ·)
          else [] := by
      rw [List.filter_map]
      split_ifs with heq
      · rw [heq]
        refine congrArg _ (List.filter_congr fun names _ => decide_eq_decide.2 ?_)
        cases names <;> simp
      · rw [List.filter_eq_nil_iff.2, List.map_nil]
        intro names _
        cases names <;> simp [heq]
    rw [paths_eq, List.filter_cons_of_neg (by simp), List.filter_flatMap]
    simp only [hone]
    rw [(h [] f rfl).flatMap_of_get? hsub fun f =>
      (f.paths.filter fun names => names ≠ [] ∧ names.dropLast = path).map _, ih (h.sub hsub) hd,
        List.map_map]
    rfl

end Flow

/-- The scopes that are found inside a scope of a compiled flow are its subgraphs, in the same
order. -/
theorem Graph.inside_ofNames {host : Host} {f d : Flow} {g : Graph} {path : List String}
    (h : host.compile f = .ok g) (hsorted : f.IsSorted)
    (hnames : ∀ p ∈ f.scopes, Flow.HasNames p.2.subgraphs) (hd : f.descend? path = some d) :
    g.inside (.ofNames path) = d.subgraphs.map fun q => .ofNames (path ++ [q.1]) := by
  have hpath := Flow.isName_of_descend? hnames (Option.isSome_of_eq_some hd)
  have hids : g.scopeIds = f.paths.map ScopeId.ofNames :=
    (Host.compile_scopeIds h).trans f.scopeIds_eq_map_paths
  have hfilter :
      f.paths.filter ((fun t => decide (t.parent? = some (.ofNames path))) ∘ ScopeId.ofNames) =
      f.paths.filter fun names => names ≠ [] ∧ names.dropLast = path := by
    refine List.filter_congr fun names hmem => decide_eq_decide.2 ?_
    exact ScopeId.parent?_ofNames_iff
      (Flow.isName_of_descend? hnames (hsorted.isSome_descend? hmem)) hpath
  rw [inside, hids, List.filter_map, hfilter, hsorted.filter_paths hd, List.map_map]
  rfl

/-! ### Links in order -/

section Scope

variable {host : Host} {known : List ScopeId} {scope : ScopeId} {d : Flow} {a : Area}

/-- Taken from node to node and sorted by the places of their edges, links stand as they stood. -/
theorem compileArea_exportedLinks (h : compileArea host known scope d = .ok a) :
    a.exportedLinks = a.links := by
  have hregular := exists_compileArea_iff.1 ⟨a, h⟩
  have hids : a.steps.map Step.id = d.nodes.map Node.id := by rw [map_step_id, compileArea_nodes h]
  have hsources : ∀ l ∈ a.links, l.source ∈ a.steps.map Step.id := by
    intro l hl
    obtain ⟨e, he, hof⟩ := exists_of_forall₂_right (compileArea_links h) hl
    rw [hids, hof.source]
    exact (hregular.edges e (List.mem_filter.1 he).1).source
  have hperm : (a.steps.flatMap fun s => a.outgoing s.id).Perm a.links := by
    rw [← List.flatMap_map]
    exact flatMap_filter_perm (hids ▸ hregular.ids) hsources
  have hincreasing := compileArea_links_increasing h
  have hsorted : a.exportedLinks.Pairwise fun l l' => decide (l.index ≤ l'.index) = true :=
    List.pairwise_mergeSort (by simpa using fun _ _ _ => Nat.le_trans)
      (by simpa using fun _ _ => Nat.le_total _ _) _
  have hsame : a.exportedLinks.Perm a.links := (List.mergeSort_perm _ _).trans hperm
  have hplaces : (a.links.map Link.index).Nodup :=
    List.pairwise_map.2 (hincreasing.imp Nat.ne_of_lt)
  refine hsame.eq_of_pairwise (fun l l' hl hl' hle hge => ?_) hsorted
    (hincreasing.imp fun hlt => decide_eq_true hlt.le)
  have hindex := Nat.le_antisymm (of_decide_eq_true hle) (of_decide_eq_true hge)
  exact List.inj_on_of_nodup_map hplaces (hsame.mem_iff.1 hl) hl' hindex

end Scope

/-! ### Documents -/

/-- A node in a document. -/
def Node.IsShownAs (n : Node) (j : Json) : Prop :=
  ∃ guard : Option String, j = .object (
    [("id", .string n.id), ("type", .string n.kind.name)]
      ++ memberIfSome "key" .string n.key
      ++ memberIfSome "prompt" .string n.prompt
      ++ memberIfSome "guard" .string guard
      ++ memberIfSome "ui" .object n.ui)

/-- What the text of a guard in a document says: no text says that the edge is unguarded, and a text
without numbers that is not too long is a guard of its own, which compiles to the same. -/
structure Guard.EdgeGuard.IsRestatedBy (registry : Registry) (g : EdgeGuard)
    (text : Option String) : Prop where
  always : text = none ↔ g = .always
  again : g.HasNoNumbers → (∀ s ∈ text, byteLength s.toList ≤ maxLength) →
      compileEdgeGuard registry text = .ok g

/-- An edge in a document. -/
def Edge.IsShownAs (host : Host) (e : Edge) (j : Json) : Prop :=
  ∃ (g : Guard.EdgeGuard) (text : Option String),
    Guard.compileEdgeGuard host.predicates e.guard = .ok g ∧ g.IsRestatedBy host.predicates text ∧
      j = .object ([("from", .string e.source), ("to", .string e.target)] ++
        memberIfSome "guard" .string text)

mutual

/-- The members of a scope in a document: its entry, its nodes and the edges that are followed, in
order, and its subgraphs. -/
inductive Mirrors (host : Host) : Flow → List (String × Json) → Prop
  | scope {f : Flow} {entry : NodeId} {nodes edges : List Json} {subgraphs : List (String × Json)}
      (hentry : f.entryNode? = some entry) (hnodes : List.Forall₂ Node.IsShownAs f.nodes nodes)
      (hedges : List.Forall₂ (Edge.IsShownAs host) (f.edges.filter (!·.onInvalid)) edges)
      (hsubgraphs : MirrorsAll host f.subgraphs subgraphs) :
      Mirrors host f [("entry", .string entry), ("nodes", .array nodes), ("edges", .array edges),
        ("subgraphs", .object subgraphs)]

/-- Subgraphs in a document, under their names and in their order. -/
inductive MirrorsAll (host : Host) : List (String × Flow) → List (String × Json) → Prop
  | nil : MirrorsAll host [] []
  | cons {name : String} {f : Flow} {members : List (String × Json)} {r : List (String × Flow)}
      {rest : List (String × Json)} (h : Mirrors host f members) (hrest : MirrorsAll host r rest) :
      MirrorsAll host ((name, f) :: r) ((name, .object members) :: rest)

end

section Document

variable {host : Host} {known : List ScopeId} {scope : ScopeId} {n : Node} {s : Step}
    {e : Edge} {l : Link}

theorem compileNode_isShownAs (h : compileNode host known scope n = .ok s) :
    n.IsShownAs s.exported := by
  obtain ⟨rfl, -⟩ := compileNode_eq_ok h
  refine ⟨s.eligibility.map Guard.Expr.shown, ?_⟩
  rw [Step.exported]
  cases s.eligibility <;> rfl

theorem Link.isRestatedBy {text : Option String}
    (h : Guard.compileEdgeGuard host.predicates text = .ok l.guard) :
    l.guard.IsRestatedBy host.predicates l.exportedGuard := by
  unfold exportedGuard
  cases hguard : l.guard with
  | always => exact ⟨iff_of_true rfl rfl, fun _ _ => rfl⟩
  | otherwise | condition =>
    rw [hguard] at h
    exact ⟨iff_of_false nofun nofun, fun hnumbers hlength =>
      Guard.compileEdgeGuard_shown h nofun hnumbers (hlength _ rfl)⟩

theorem Link.IsOf.isShownAs (h : l.IsOf host e) : e.IsShownAs host l.exported := by
  refine ⟨l.guard, l.exportedGuard, h.guard, l.isRestatedBy h.guard, ?_⟩
  have htarget : l.target.text = e.target := by
    rw [h.target]
    split_ifs with hexits
    · exact (of_decide_eq_true hexits).symm
    · rfl
  rw [exported, h.source, htarget]

end Document

/-- The members of a scope that is there. -/
theorem Graph.exportedScope_eq {g : Graph} {s : ScopeId} {a : Area} (ha : g.area? s = some a) :
    g.exportedScope s = [("entry", .string a.entry), ("nodes", .array (a.steps.map Step.exported)),
      ("edges", .array (a.exportedLinks.map Link.exported)),
      ("subgraphs", .object (Dict.ofList ((g.inside s).filterMap fun t =>
        t.name?.map fun name => (name, Json.object (g.exportedScope t)))))] := by
  have hattach : (g.inside s).attach.filterMap (fun t =>
      t.1.name?.map fun name => (name, Json.object (g.exportedScope t.1))) =
      (g.inside s).filterMap fun t => t.name?.map fun name =>
        (name, Json.object (g.exportedScope t)) := by
    conv_rhs => rw [← List.attach_map_subtype_val (g.inside s), List.filterMap_map]
    rfl
  rw [exportedScope, ha]
  dsimp only
  rw [hattach]

section Tree

variable {host : Host} {f d : Flow} {g : Graph} {path : List String}

/-- The area of a scope is the scope compiled. -/
theorem Host.compile_area? (h : host.compile f = .ok g)
    (hnames : ∀ p ∈ f.scopes, Flow.HasNames p.2.subgraphs) (hd : f.descend? path = some d) :
    ∃ a, g.area? (.ofNames path) = some a ∧ compileArea host f.scopeIds (.ofNames path)
      d = .ok a := by
  obtain ⟨a, ha, hda⟩ :=
    exists_of_forall₂_right (Host.compile_eq_ok h).2.2.flip (Flow.mem_scopes_of_descend? hd)
  refine ⟨a, ?_, hda⟩
  rw [show ScopeId.ofNames path = a.id from (compileArea_eq_ok hda).1.symm]
  refine Graph.area?_eq_some ?_ ha
  rw [Host.compile_scopeIds h]
  exact Flow.scopeIds_nodup hnames

/-- The subgraphs of a scope in a document are those that are found inside it. -/
theorem Graph.exportedSubgraphs_eq (h : host.compile f = .ok g) (hsorted : f.IsSorted)
    (hnames : ∀ p ∈ f.scopes, Flow.HasNames p.2.subgraphs) (hd : f.descend? path = some d) :
    (Dict.ofList ((g.inside (.ofNames path)).filterMap fun t =>
      t.name?.map fun name => (name, Json.object (g.exportedScope t)))) =
      d.subgraphs.map fun q => (q.1, Json.object (g.exportedScope (.ofNames (path ++ [q.1])))) := by
  have hordered := hsorted path d hd
  have hname (q : String × Flow) (hq : q ∈ d.subgraphs) :
      (ScopeId.ofNames (path ++ [q.1])).name? = some q.1 := by
    refine ScopeId.name?_ofNames_concat (Flow.isName_of_descend? hnames ?_)
    rw [Flow.descend?_append, hd]
    simp [Flow.descend?, hordered.get?_of_mem hq]
  have hmembers : (g.inside (.ofNames path)).filterMap (fun t =>
      t.name?.map fun name => (name, Json.object (g.exportedScope t))) =
        d.subgraphs.map fun q =>
          (q.1, Json.object (g.exportedScope (.ofNames (path ++ [q.1])))) := by
    rw [Graph.inside_ofNames h hsorted hnames hd, List.filterMap_map, ← List.filterMap_eq_map]
    refine List.filterMap_congr fun q hq => ?_
    rw [Function.comp_apply, Function.comp_apply, hname q hq, Option.map_some]
  rw [hmembers]
  exact Dict.Ordered.ofList_eq (List.pairwise_map.2 hordered)

mutual

/-- The members are made address by address, and what they mirror is a tree: the induction is on the
flow that the names of an address lead to. -/
theorem Graph.mirrors_exportedScope (h : host.compile f = .ok g) (hsorted : f.IsSorted)
    (hnames : ∀ p ∈ f.scopes, Flow.HasNames p.2.subgraphs) : ∀ (d : Flow) (path : List String),
    f.descend? path = some d → Mirrors host d (g.exportedScope (.ofNames path))
  | ⟨id, version, entry, nodes, edges, subgraphs, record⟩, path, hd => by
      obtain ⟨a, ha, hda⟩ := Host.compile_area? h hnames hd
      rw [Graph.exportedScope_eq ha, Graph.exportedSubgraphs_eq h hsorted hnames hd,
        compileArea_exportedLinks hda]
      refine .scope (compileEntry_eq_ok (compileArea_eq_ok hda).2.2.1) ?_ ?_ ?_
      · rw [List.forall₂_map_right_iff]
        exact (compileArea_steps hda).imp fun n s hn => compileNode_isShownAs hn
      · rw [List.forall₂_map_right_iff]
        exact (compileArea_links hda).imp fun e l hl => hl.isShownAs
      · refine mirrorsAll_exportedScope h hsorted hnames subgraphs path fun q hq => ?_
        rw [Flow.descend?_append, hd]
        simp [Flow.descend?, (hsorted path _ hd).get?_of_mem hq]

theorem Graph.mirrorsAll_exportedScope (h : host.compile f = .ok g) (hsorted : f.IsSorted)
    (hnames : ∀ p ∈ f.scopes, Flow.HasNames p.2.subgraphs) :
    ∀ (subgraphs : List (String × Flow)) (path : List String),
      (∀ q ∈ subgraphs, f.descend? (path ++ [q.1]) = some q.2) →
      MirrorsAll host subgraphs
        (subgraphs.map fun q => (q.1, Json.object (g.exportedScope (.ofNames (path ++ [q.1])))))
  | [], _, _ => .nil
  | (name, d) :: r, path, hd => by
      obtain ⟨hd, hr⟩ := List.forall_mem_cons.1 hd
      exact .cons (mirrors_exportedScope h hsorted hnames d (path ++ [name]) hd)
        (mirrorsAll_exportedScope h hsorted hnames r path hr)

end

end Tree

/-- **The document of a compiled flow mirrors the flow.**  It has the version and the id of the
flow.  In each scope it has the entry, the nodes and the edges that are followed, in the order in
which they are declared, and under the same names the same subgraphs. -/
theorem Host.export_mirrors {host : Host} {f : Flow} {g : Graph} (h : host.compile f = .ok g)
    (hsorted : ∀ p ∈ f.scopes, Dict.Ordered p.2.subgraphs) :
    ∃ members, g.exported =
      .object ([("version", .nat f.version), ("id", .string f.id)] ++ members) ∧
      Mirrors host f members := by
  have hsorted' : f.IsSorted := fun names d hd => hsorted _ (Flow.mem_scopes_of_descend? hd)
  have hflow : g.flow = f := (Host.compile_eq_ok h).1
  refine ⟨g.exportedScope .root, ?_, ?_⟩
  · rw [Graph.exported, Graph.version, Graph.id, hflow]
  · exact Graph.mirrors_exportedScope h hsorted' (Host.compile_names h hsorted) f [] rfl

/-! ### A guard and a subgraph in a subgraph -/

namespace Samples

/-- A question, a subgraph for one of the answers, and the end for the others. -/
def burrow : Flow where
  id := "burrow"
  version := 1
  nodes :=
    [.question "ask" "plan" "Which plan do you have?", .subgraphRef "enter" "den", .terminal "end"]
  edges := [
    .guarded "ask" "enter" " plan == 'pro' ",
    .forInvalid "ask" "end",
    .otherwise "ask" "end",
    .always "enter" "end"]
  subgraphs := [("den", den)]

theorem compile_burrow : ∃ g, Host.builtin.compile burrow = .ok g :=
  exists_of_isOk (by decide +kernel)

theorem burrow_sorted : ∀ p ∈ burrow.scopes, Dict.Ordered p.2.subgraphs := by
  have hscopes : burrow.scopes = [(.root, burrow), (⟨"den"⟩, den), (⟨"den/nook"⟩, nook)] := rfl
  rw [hscopes]
  simp [Dict.Ordered, burrow, den, nook]

theorem burrow_mirrored :
    ∃ g, Host.builtin.compile burrow = .ok g ∧ (∀ p ∈ burrow.scopes, Dict.Ordered p.2.subgraphs) ∧
      ∃ members, g.exported = .object ([("version", .nat 1), ("id", .string "burrow")] ++ members) ∧
        Mirrors .builtin burrow members := by
  obtain ⟨g, hg⟩ := compile_burrow
  exact ⟨g, hg, burrow_sorted, Host.export_mirrors hg burrow_sorted⟩

end Samples

end Parley
