import Parley.Proofs.Collections
import Parley.Proofs.Graph.Addresses
import Parley.Proofs.Text.Splitting

/-!
# Where references lead

A reference is looked up in the scope of its node and then in the scopes around it.  The search is
one of texts: it tries the reference behind the address of each scope and asks whether this is the
address of a scope.  For a name of a subgraph that is the same as to look for the nearest scope that
declares the name.  It is not for the other texts: the empty one stands for the root, and names with
slashes between them stand for a subgraph inside a subgraph.

* `ScopeId.ofNames`: addresses from names;
* `Flow.mem_scopeIds_iff`: the addresses of a flow are those of the scopes that names lead to;
* `Flow.HasSubgraph`, `IsInnermost`: the declaration of a name that is nearest to a scope;
* `Host.resolves_lexically`.
-/

namespace Parley

/-! ### Names -/

/-- A name that an address can hold. -/
def IsName (name : String) : Prop := name ≠ "" ∧ '/' ∉ name.toList

instance (name : String) : Decidable (IsName name) := inferInstanceAs (Decidable (_ ∧ _))

/-- The texts between the slashes of a reference. -/
def namesIn (ref : String) : List String := (Text.splitOn '/' ref.toList).map String.ofList

theorem namesIn_of_isName {name : String} (h : IsName name) : namesIn name = [name] := by
  rw [namesIn, Text.splitOn_of_notMem h.2, List.map_singleton, String.ofList_toList]

theorem map_toList_namesIn (ref : String) :
    (namesIn ref).map String.toList = Text.splitOn '/' ref.toList := by
  simp [namesIn, Function.comp_def]

namespace ScopeId

variable {names inner path : List String} {name ref : String} {s t : ScopeId}

/-- The address that names lead to from the root. -/
def ofNames (names : List String) : ScopeId := names.foldl child root

theorem ofNames_concat (names : List String) (name : String) :
    ofNames (names ++ [name]) = (ofNames names).child name :=
  List.foldl_concat ..

/-- What stands between the slashes of an address, the root having nothing. -/
def parts (s : ScopeId) : List (List Char) :=
  if s.isRoot then [] else Text.splitOn '/' s.text.toList

theorem isRoot_iff : s.isRoot = true ↔ s = root := by
  obtain ⟨text⟩ := s
  simp [isRoot, root]

theorem parts_injective : Function.Injective parts := by
  intro s t h
  unfold parts at h
  split_ifs at h with hs ht ht
  · rw [isRoot_iff.1 hs, isRoot_iff.1 ht]
  · exact absurd h.symm (Text.splitOn_ne_nil _ _)
  · exact absurd h (Text.splitOn_ne_nil _ _)
  · have hjoin := congrArg (Text.joinWith '/') h
    rw [Text.joinWith_splitOn, Text.joinWith_splitOn, String.toList_inj] at hjoin
    exact congrArg mk hjoin

/-- Behind an address a reference adds its names, unless nothing stands before it or in it. -/
theorem parts_child (h : s ≠ root ∨ ref ≠ "") :
    (s.child ref).parts = s.parts ++ (namesIn ref).map String.toList := by
  rw [map_toList_namesIn]
  unfold parts child
  by_cases hs : s.isRoot = true
  · rw [isRoot_iff] at hs
    subst hs
    simp [root, isRoot, h.resolve_left (not_not.2 rfl)]
  · have hchild : (ScopeId.mk (s.text ++ "/" ++ ref)).isRoot = false := by
      rw [isRoot, decide_eq_false_iff_not, ← String.toList_inj]
      simp
    rw [if_neg hs, if_neg (by rw [hchild]; exact Bool.false_ne_true), if_neg hs,
      ← Text.splitOn_append]
    simp

theorem child_root_empty : root.child "" = root := rfl

theorem ofNames_eq_root_iff (h : ∀ name ∈ names, IsName name) :
    ofNames names = root ↔ names = [] := by
  cases names using List.reverseRecOn with
  | nil => simp [ofNames]
  | append_singleton names name =>
    refine iff_of_false (fun hroot => ?_) (by simp)
    have hparts := (parts_child (s := ofNames names) (.inr (h name (by simp)).1)).symm
    rw [← ofNames_concat, hroot, namesIn_of_isName (h name (by simp))] at hparts
    simp [parts, root, isRoot] at hparts

/-- The names of an address can be told apart. -/
theorem parts_ofNames (h : ∀ name ∈ names, IsName name) :
    (ofNames names).parts = names.map String.toList := by
  induction names using List.reverseRecOn with
  | nil => rfl
  | append_singleton names name ih =>
    rw [List.forall_mem_append, List.forall_mem_singleton] at h
    rw [ofNames_concat, parts_child (.inr h.2.1), ih h.1, namesIn_of_isName h.2, List.map_append]

/-- What a reference must be for an address to stand behind a scope with it. -/
theorem child_eq_ofNames_iff (hinner : ∀ name ∈ inner, IsName name)
    (hnames : ∀ name ∈ names, IsName name) :
    (ofNames inner).child ref = ofNames names ↔
      ref = "" ∧ inner = [] ∧ names = [] ∨ ref ≠ "" ∧ names = inner ++ namesIn ref := by
  by_cases h : ofNames inner = root ∧ ref = ""
  · obtain ⟨hroot, rfl⟩ := h
    rw [hroot, child_root_empty, eq_comm, ofNames_eq_root_iff hnames]
    simp [(ofNames_eq_root_iff hinner).1 hroot]
  · rw [← parts_injective.eq_iff, parts_child (not_and_or.1 h), parts_ofNames hinner,
      parts_ofNames hnames, ← List.map_append,
        (List.map_injective_iff.2 fun _ _ => String.toList_inj.1).eq_iff, eq_comm]
    have href : names = inner ++ namesIn ref → ref ≠ "" := by
      -- the empty text between two slashes is no name
      rintro rfl rfl
      exact (hnames "" (by simp [namesIn, Text.splitOn])).1 rfl
    constructor
    · exact fun heq => .inr ⟨href heq, heq⟩
    · rintro (⟨hempty, hnil, -⟩ | ⟨-, heq⟩)
      · exact absurd ⟨(ofNames_eq_root_iff hinner).2 hnil, hempty⟩ h
      · exact heq

/-! ### Looking outward -/

theorem outward_root : root.outward = [root] := rfl

theorem outward_ofNames_concat (h : ∀ name ∈ names, IsName name) (hname : IsName name) :
    (ofNames (names ++ [name])).outward = ofNames (names ++ [name]) :: (ofNames names).outward := by
  have hroot : ¬ (ofNames (names ++ [name])).isRoot = true := by
    rw [isRoot_iff, ofNames_eq_root_iff
      (List.forall_mem_append.2 ⟨h, List.forall_mem_singleton.2 hname⟩)]
    simp
  rw [outward, if_neg hroot, outward]
  by_cases hnames : (ofNames names).isRoot = true
  · have htext : ofNames (names ++ [name]) = ⟨name⟩ := by
      rw [ofNames_concat, child, if_pos hnames]
    rw [if_pos hnames, isRoot_iff.1 hnames, htext, Text.heads_of_notMem hname.2]
    rfl
  · have htext : (ofNames (names ++ [name])).text.toList = (ofNames names).text.toList ++ '/' ::
        name.toList := by
      rw [ofNames_concat, child, if_neg hnames]
      simp
    rw [if_neg hnames, Text.heads_append htext hname.2, List.map_cons, List.cons_append]

theorem means_of_outward {known : List ScopeId} {target : ScopeId}
    (h : s.outward = s :: t.outward) :
    s.Means known ref target ↔
      s.child ref ∈ known ∧ s.child ref = target ∨ s.child ref ∉ known ∧
      t.Means known ref target := by
  rw [← resolveSubgraph_eq_some, ← resolveSubgraph_eq_some, resolveSubgraph, h, List.map_cons,
    List.find?_cons]
  by_cases hs : s.child ref ∈ known <;> simp [hs, resolveSubgraph]

end ScopeId

/-- Among the beginnings of a path, the longest one with a property. -/
structure IsInnermost (P : List String → Prop) (path around : List String) : Prop where
  begins : around <+: path
  holds : P around
  longest : ∀ inner, inner <+: path → P inner → inner <+: around

theorem IsInnermost.congr {P Q : List String → Prop} {path around : List String}
    (h : ∀ inner, inner <+: path → (P inner ↔ Q inner)) (hP : IsInnermost P path around) :
    IsInnermost Q path around :=
  ⟨hP.begins, (h _ hP.begins).1 hP.holds, fun inner hinner hQ =>
    hP.longest inner hinner ((h inner hinner).2 hQ)⟩

/-- A reference stands for the scope behind the innermost scope behind which there is one. -/
theorem ScopeId.means_ofNames {known : List ScopeId} {path : List String} {ref : String}
    {target : ScopeId} (hpath : ∀ name ∈ path, IsName name)
    (h : (ofNames path).Means known ref target) :
    ∃ around, IsInnermost (fun inner => (ofNames inner).child ref ∈ known) path around ∧
      target = (ofNames around).child ref := by
  induction path using List.reverseRecOn with
  | nil =>
    obtain ⟨inner, around, outer, hsplit, -, rfl, hknown⟩ := h
    have haround : around ∈ [root] := by
      rw [← outward_root]
      exact hsplit ▸ List.mem_append_right inner List.mem_cons_self
    rw [List.mem_singleton.1 haround] at hknown ⊢
    exact ⟨[], ⟨List.prefix_rfl, hknown, fun inner hinner _ => hinner⟩, rfl⟩
  | append_singleton path name ih =>
    rw [List.forall_mem_append, List.forall_mem_singleton] at hpath
    rcases (means_of_outward (outward_ofNames_concat hpath.1 hpath.2)).1 h with
      ⟨hknown, rfl⟩ | ⟨hnone, h⟩
    · exact ⟨path ++ [name], ⟨List.prefix_rfl, hknown, fun inner hinner _ => hinner⟩, rfl⟩
    · obtain ⟨around, ⟨haround, hholds, hlongest⟩, htarget⟩ := ih hpath.1 h
      refine ⟨around,
        ⟨haround.trans (List.prefix_append _ _), hholds, fun inner hinner hknown => ?_⟩, htarget⟩
      rcases List.prefix_concat_iff.1 hinner with rfl | hinner
      · exact absurd hknown hnone
      · exact hlongest inner hinner hknown

/-! ### What names lead to -/

namespace Flow

variable {f d : Flow} {names inner path : List String} {name ref : String}

theorem descend?_append (f : Flow) (names rest : List String) :
    f.descend? (names ++ rest) = (f.descend? names).bind (descend? · rest) := by
  induction names generalizing f with
  | nil => rfl
  | cons name names ih =>
    rw [List.cons_append, descend?, descend?, Option.bind_assoc]
    exact Option.bind_congr fun sub _ => ih sub

/-- The scope at the end of a path has a subgraph of a name. -/
def HasSubgraph (f : Flow) (path : List String) (name : String) : Prop :=
  ∃ d, f.descend? path = some d ∧ Dict.contains d.subgraphs name = true

theorem hasSubgraph_iff : f.HasSubgraph path name ↔
    (f.descend? (path ++ [name])).isSome = true := by
  rw [descend?_append, HasSubgraph]
  cases f.descend? path with
  | none => simp
  | some d => cases h : Dict.get? d.subgraphs name <;> simp [Dict.contains, descend?, h]

theorem mem_subgraphScopes {at_ : ScopeId} {subgraphs : List (String × Flow)} {q : ScopeId × Flow} :
    q ∈ subgraphScopes at_ subgraphs ↔ ∃ p ∈ subgraphs, q ∈ p.2.scopesAt (at_.child p.1) := by
  induction subgraphs with
  | nil => simp [subgraphScopes]
  | cons p r ih => rw [subgraphScopes, List.mem_append, ih, List.exists_mem_cons_iff]

theorem mem_scopesAt_of_descend? (at_ : ScopeId) (h : f.descend? names = some d) :
    (names.foldl ScopeId.child at_, d) ∈ f.scopesAt at_ := by
  induction names generalizing f at_ with
  | nil =>
    cases h
    cases d
    exact List.mem_cons_self
  | cons name names ih =>
    obtain ⟨sub, hsub, hd⟩ := Option.bind_eq_some_iff.1 h
    cases f
    rw [scopesAt]
    exact List.mem_cons_of_mem _
      (mem_subgraphScopes.2 ⟨(name, sub), Dict.mem_of_get? hsub, ih (at_.child name) hd⟩)

theorem mem_scopes_of_descend? (h : f.descend? names = some d) :
    (ScopeId.ofNames names, d) ∈ f.scopes :=
  mem_scopesAt_of_descend? .root h

mutual

/-- Every scope of a flow is at the end of a path of names. -/
theorem scopesAt_descends :
    ∀ (f : Flow) (at_ : ScopeId), (∀ p ∈ f.scopesAt at_, Dict.Ordered p.2.subgraphs) →
      ∀ p ∈ f.scopesAt at_, ∃ names, f.descend? names = some p.2 ∧
        p.1 = names.foldl ScopeId.child at_
  | ⟨id, version, entry, nodes, edges, subgraphs, record⟩, at_, hsorted => by
      rw [scopesAt, List.forall_mem_cons] at hsorted ⊢
      refine ⟨⟨[], rfl, rfl⟩, fun p hp => ?_⟩
      obtain ⟨e, he, names, hnames, haddress⟩ :=
        subgraphScopes_descends subgraphs at_ hsorted.2 p hp
      refine ⟨e.1 :: names, ?_, haddress⟩
      rw [descend?, hsorted.1.get?_of_mem he]
      exact hnames

theorem subgraphScopes_descends : ∀ (subgraphs : List (String × Flow)) (at_ : ScopeId),
    (∀ p ∈ subgraphScopes at_ subgraphs, Dict.Ordered p.2.subgraphs) →
      ∀ p ∈ subgraphScopes at_ subgraphs, ∃ e ∈ subgraphs, ∃ names, e.2.descend? names = some p.2 ∧
        p.1 = names.foldl ScopeId.child (at_.child e.1)
  | [], at_, _ => nofun
  | (name, f) :: r, at_, hsorted => by
      rw [subgraphScopes, List.forall_mem_append] at hsorted ⊢
      refine ⟨fun p hp => ⟨_, List.mem_cons_self, ?_⟩, fun p hp => ?_⟩
      · exact scopesAt_descends f (at_.child name) hsorted.1 p hp
      · obtain ⟨e, he, hnames⟩ := subgraphScopes_descends r at_ hsorted.2 p hp
        exact ⟨e, List.mem_cons_of_mem _ he, hnames⟩

end

theorem mem_scopeIds_iff (hsorted : ∀ p ∈ f.scopes, Dict.Ordered p.2.subgraphs) {s : ScopeId} :
    s ∈ f.scopeIds ↔ ∃ names, (f.descend? names).isSome = true ∧ s = .ofNames names := by
  rw [scopeIds, List.mem_map]
  constructor
  · rintro ⟨p, hp, rfl⟩
    obtain ⟨names, hnames, haddress⟩ := scopesAt_descends f .root hsorted p hp
    exact ⟨names, Option.isSome_of_eq_some hnames, haddress⟩
  · rintro ⟨names, hnames, rfl⟩
    obtain ⟨d, hd⟩ := Option.isSome_iff_exists.1 hnames
    exact ⟨_, mem_scopes_of_descend? hd, rfl⟩

variable (hnames : ∀ p ∈ f.scopes, HasNames p.2.subgraphs)
include hnames

theorem isName_of_hasSubgraph (h : f.HasSubgraph path name) : IsName name := by
  obtain ⟨d, hd, hname⟩ := h
  have hkey : name ∈ Dict.keys d.subgraphs :=
    Dict.mem_keys_iff.2 (Option.isSome_iff_ne_none.1 hname)
  have hgood := hnames _ (mem_scopes_of_descend? hd)
  exact ⟨hgood.ne name hkey, hgood.slash name hkey⟩

/-- Only names lead anywhere. -/
theorem isName_of_descend? (h : (f.descend? names).isSome = true) :
    ∀ name ∈ names, IsName name := by
  induction names using List.reverseRecOn with
  | nil => nofun
  | append_singleton names name ih =>
    have hlast := hasSubgraph_iff.2 h
    have ⟨d, hd, _⟩ := hlast
    rw [List.forall_mem_append, List.forall_mem_singleton]
    exact ⟨ih (Option.isSome_of_eq_some hd), isName_of_hasSubgraph hnames hlast⟩

/-- When the text of a reference behind the address of a scope is the address of a scope. -/
theorem child_mem_scopeIds_iff (hsorted : ∀ p ∈ f.scopes, Dict.Ordered p.2.subgraphs)
    (hinner : ∀ name ∈ inner, IsName name) : (ScopeId.ofNames inner).child ref ∈ f.scopeIds ↔
      ref = "" ∧ inner = [] ∨ ref ≠ "" ∧ (f.descend? (inner ++ namesIn ref)).isSome = true := by
  rw [mem_scopeIds_iff hsorted]
  constructor
  · rintro ⟨names, hleads, hchild⟩
    have hgood := isName_of_descend? hnames hleads
    rcases (ScopeId.child_eq_ofNames_iff hinner hgood).1 hchild with ⟨hempty, hnil, -⟩ | ⟨href, rfl⟩
    · exact .inl ⟨hempty, hnil⟩
    · exact .inr ⟨href, hleads⟩
  · rintro (⟨rfl, rfl⟩ | ⟨href, hleads⟩)
    · exact ⟨[], rfl, rfl⟩
    · have hgood := isName_of_descend? hnames hleads
      exact ⟨_, hleads, (ScopeId.child_eq_ofNames_iff hinner hgood).2 (.inr ⟨href, rfl⟩)⟩

end Flow

/-! ### Compiled references -/

/-- A compiled node enters a scope by a reference. -/
def Step.Resolves (s : Step) (ref : String) (t : ScopeId) : Prop :=
  s.node.subgraph = some ref ∧ s.subgraph = some t ∨ (ref, t) ∈ s.paths

section Resolved

variable {host : Host} {known : List ScopeId} {scope t : ScopeId} {n : Node} {s : Step}
    {ref : String}

theorem Step.Resolves.means (hs : s.Resolves ref t) (h : compileNode host known scope n = .ok s) :
    scope.Means known ref t := by
  obtain ⟨hnode, hsubgraph, hpaths⟩ := compileNode_eq_ok h
  rcases hs with ⟨hname, ht⟩ | ht
  · rcases option_mapM_eq_ok.1 hsubgraph with ⟨hnone, -⟩ | ⟨ref', t', hname', ht', hsome⟩
    · rw [hnode, hnone] at hname
      cases hname
    · rw [hnode, hname'] at hname
      rw [hsome] at ht
      cases hname
      cases ht
      exact compileReference_eq_ok.1 ht'
  · obtain ⟨path, -, hpath, ht'⟩ := exists_of_forall₂_right hpaths ht
    rw [← hpath] at ht'
    exact compileReference_eq_ok.1 ht'

theorem exists_resolves (h : compileNode host known scope n = .ok s)
    (href : ref ∈ s.node.references) :
    ∃ t, s.Resolves ref t := by
  obtain ⟨hnode, hsubgraph, hpaths⟩ := compileNode_eq_ok h
  rcases List.mem_append.1 href with hmem | hmem
  · rw [Option.mem_toList] at hmem
    rcases option_mapM_eq_ok.1 hsubgraph with ⟨hnone, -⟩ | ⟨ref', t, -, -, hsome⟩
    · rw [hnode, hnone] at hmem
      cases hmem
    · exact ⟨t, .inl ⟨hmem, hsome⟩⟩
  · rw [hnode] at hmem
    obtain ⟨p, hp, hpath, -⟩ := exists_of_forall₂_right hpaths.flip hmem
    exact ⟨p.2, .inr (by rwa [← hpath])⟩

/-- Wherever a node uses a reference, it enters the one scope that the reference stands for. -/
theorem compileNode_resolves (h : compileNode host known scope n = .ok s)
    (href : ref ∈ s.node.references) :
    ∃ t, scope.Means known ref t ∧ ∀ t', s.Resolves ref t' ↔ t' = t := by
  obtain ⟨t, ht⟩ := exists_resolves h href
  refine ⟨t, ht.means h, fun t' => ⟨fun ht' => ?_, ?_⟩⟩
  · have hsame :=
      (resolveSubgraph_eq_some.2 (ht'.means h)).symm.trans (resolveSubgraph_eq_some.2 (ht.means h))
    rwa [Option.some.injEq] at hsame
  · rintro rfl
    exact ht

end Resolved

/-- **References are looked up lexically just when they are names.**  Each scope of a compiled flow
is reached by the names on the way to it, and each reference of its nodes leads to one scope.  That
is the subgraph of this very name in the nearest scope that has one, the scope of the node first, if
and only if the reference is a name that a subgraph can have.  The empty reference leads to the
root, and one with slashes leads from the nearest scope from which all names between them lead
on. -/
theorem Host.resolves_lexically {host : Host} {f : Flow} {g : Graph} (h : host.compile f = .ok g)
    (hsorted : ∀ p ∈ f.scopes, Dict.Ordered p.2.subgraphs) {path : List String} {d : Flow}
    (hd : f.descend? path = some d) :
    ∃ a, g.area? (.ofNames path) = some a ∧ a.steps.map Step.node = d.nodes ∧
      ∀ s ∈ a.steps, ∀ ref ∈ s.node.references, ∃ target sub,
        (∀ t, s.Resolves ref t ↔ t = .ofNames target) ∧ f.descend? target = some sub ∧
        ((∃ around, IsInnermost (f.HasSubgraph · ref) path around ∧ target = around ++ [ref]) ↔
          IsName ref) ∧
        (ref = "" → target = []) ∧
        (ref ≠ "" → ∃ around,
          IsInnermost (fun inner => (f.descend? (inner ++ namesIn ref)).isSome) path around ∧
            target = around ++ namesIn ref) := by
  have hnames := Host.compile_names h hsorted
  have hpath := Flow.isName_of_descend? hnames (Option.isSome_of_eq_some hd)
  have hfound := find_area (Host.compile_eq_ok h).2.2 (.ofNames path)
  rw [Table.get?_of_mem (Flow.scopeIds_nodup hnames) (Flow.mem_scopes_of_descend? hd)] at hfound
  obtain ⟨a, ha, hda⟩ : ∃ a, g.area? (.ofNames path) = some a ∧
      compileArea host (f.scopes.map (·.1)) (.ofNames path) d = .ok a := by
    unfold Graph.area?
    generalize (g.areas.find? fun a => a.id = ScopeId.ofNames path) = found at hfound ⊢
    cases hfound with
    | some hda => exact ⟨_, rfl, hda⟩
  refine ⟨a, ha, compileArea_nodes hda, fun s hs ref href => ?_⟩
  obtain ⟨n, -, hn⟩ := exists_of_forall₂_right (compileArea_steps hda) hs
  obtain ⟨t, hmeans, hresolves⟩ := compileNode_resolves hn href
  obtain ⟨around, haround, rfl⟩ := ScopeId.means_ofNames hpath hmeans
  have hcandidate (inner : List String) (hinner : inner <+: path) :
      (ScopeId.ofNames inner).child ref ∈ f.scopeIds ↔
        ref = "" ∧ inner = [] ∨ ref ≠ "" ∧ (f.descend? (inner ++ namesIn ref)).isSome = true :=
    Flow.child_mem_scopeIds_iff hnames hsorted fun name hname => hpath name (hinner.subset hname)
  by_cases hempty : ref = ""
  · subst hempty
    have hnil : around = [] := by simpa using (hcandidate around haround.begins).1 haround.holds
    subst hnil
    refine ⟨[], f, hresolves, rfl, iff_of_false ?_ fun hname => hname.1 rfl, fun _ => rfl,
      fun hne => absurd rfl hne⟩
    rintro ⟨around, hdeclares, -⟩
    exact (Flow.isName_of_hasSubgraph hnames hdeclares.holds).1 rfl
  · have hinnermost : IsInnermost (fun inner => (f.descend? (inner ++ namesIn ref)).isSome = true)
        path around :=
      haround.congr fun inner hinner => (hcandidate inner hinner).trans (by simp [hempty])
    obtain ⟨sub, hsub⟩ := Option.isSome_iff_exists.1 hinnermost.holds
    have htarget : (ScopeId.ofNames around).child ref = .ofNames (around ++ namesIn ref) :=
      (ScopeId.child_eq_ofNames_iff (fun name hname => hpath name (haround.begins.subset hname))
        (Flow.isName_of_descend? hnames hinnermost.holds)).2 (.inr ⟨hempty, rfl⟩)
    rw [htarget] at hresolves
    refine ⟨_, sub, hresolves, hsub, ⟨?_, fun hname => ?_⟩, fun h => absurd h hempty,
      fun _ => ⟨around, hinnermost, rfl⟩⟩
    · rintro ⟨around', hdeclares, -⟩
      exact Flow.isName_of_hasSubgraph hnames hdeclares.holds
    · rw [namesIn_of_isName hname] at hinnermost ⊢
      exact ⟨around, hinnermost.congr fun inner _ => Flow.hasSubgraph_iff.symm, rfl⟩

/-! ### References that are no names -/

namespace Samples

def nook : Flow where
  nodes := [.action "sit"]
  edges := [.exit "sit"]

def den : Flow where
  nodes := [(Node.subgraphRef "again" "").asReentrant, .subgraphRef "rest" "nook"]
  edges := [.always "again" "rest", .exit "rest"]
  subgraphs := [("nook", nook)]

/-- A subgraph in a subgraph, one reference with a slash and an empty one. -/
def warren : Flow where
  id := "warren"
  nodes := [.subgraphRef "enter" "den", .subgraphRef "jump" "den/nook", .terminal "end"]
  edges := [.always "enter" "jump", .always "jump" "end"]
  subgraphs := [("den", den)]

def warrenGraph : Graph where
  flow := warren
  areas := [
    { id := .root
      entry := "enter"
      steps := [
        ⟨.subgraphRef "enter" "den", none, none, some ⟨"den"⟩, []⟩,
        ⟨.subgraphRef "jump" "den/nook", none, none, some ⟨"den/nook"⟩, []⟩,
        ⟨.terminal "end", none, none, none, []⟩]
      links :=
        [⟨0, "enter", .node "jump", .always, false⟩, ⟨1, "jump", .node "end", .always, false⟩]
      invalidTargets := [] },
    { id := ⟨"den"⟩
      entry := "again"
      steps := [
        ⟨(Node.subgraphRef "again" "").asReentrant, none, none, some .root, []⟩,
        ⟨.subgraphRef "rest" "nook", none, none, some ⟨"den/nook"⟩, []⟩]
      links := [⟨0, "again", .node "rest", .always, false⟩, ⟨1, "rest", .exit, .always, false⟩]
      invalidTargets := [] },
    { id := ⟨"den/nook"⟩
      entry := "sit"
      steps := [⟨.action "sit", none, none, none, []⟩]
      links := [⟨0, "sit", .exit, .always, false⟩]
      invalidTargets := [] }]
  warnings := []
  predicates := .builtin

theorem compile_warren : Host.builtin.compile warren = .ok warrenGraph := rfl

theorem warren_sorted : ∀ p ∈ warren.scopes, Dict.Ordered p.2.subgraphs := by
  have hscopes : warren.scopes = [(.root, warren), (⟨"den"⟩, den), (⟨"den/nook"⟩, nook)] := rfl
  rw [hscopes]
  simp [Dict.Ordered, warren, den, nook]

/-- The references of the den: its own subgraph, and the root. -/
theorem den_resolves : Host.builtin.compile warren = .ok warrenGraph ∧
    (∀ p ∈ warren.scopes, Dict.Ordered p.2.subgraphs) ∧ warren.descend? ["den"] = some den ∧
    ∃ a, warrenGraph.area? (.ofNames ["den"]) = some a ∧ a.steps.map Step.node = den.nodes ∧
      ∀ s ∈ a.steps, ∀ ref ∈ s.node.references, ∃ target sub,
        (∀ t, s.Resolves ref t ↔ t = .ofNames target) ∧ warren.descend? target = some sub ∧
        ((∃ around, IsInnermost (warren.HasSubgraph · ref) ["den"] around ∧
          target = around ++ [ref]) ↔ IsName ref) ∧
        (ref = "" → target = []) ∧
        (ref ≠ "" → ∃ around,
          IsInnermost (fun inner => (warren.descend? (inner ++ namesIn ref)).isSome) ["den"]
              around ∧
            target = around ++ namesIn ref) :=
  ⟨compile_warren, warren_sorted, rfl, Host.resolves_lexically compile_warren warren_sorted rfl⟩

/-- A reference leads two subgraphs down at once, and one leads to the scope around it, though no
scope declares a subgraph of either name. -/
theorem warren_not_lexical : Host.builtin.compile warren = .ok warrenGraph ∧
    (∃ a, warrenGraph.area? .root = some a ∧ ∃ s ∈ a.steps,
      s.Resolves "den/nook" (.ofNames ["den", "nook"]) ∧
      ¬ ∃ around, IsInnermost (warren.HasSubgraph · "den/nook") [] around) ∧
    ∃ a, warrenGraph.area? (.ofNames ["den"]) = some a ∧ ∃ s ∈ a.steps, s.Resolves "" .root ∧
      ¬ ∃ around, IsInnermost (warren.HasSubgraph · "") ["den"] around := by
  have hnone (path : List String) (ref : String) (href : ¬ IsName ref) :
      ¬ ∃ around, IsInnermost (warren.HasSubgraph · ref) path around := by
    rintro ⟨around, hdeclares⟩
    exact href
      (Flow.isName_of_hasSubgraph (Host.compile_names compile_warren warren_sorted) hdeclares.holds)
  exact ⟨compile_warren, ⟨_, rfl, _, .tail _ (.head _), .inl ⟨rfl, rfl⟩, hnone _ _ (by decide)⟩,
    _, rfl, _, .head _, .inl ⟨rfl, rfl⟩, hnone _ _ (by decide)⟩

end Samples

end Parley
