import Parley.Proofs.Graph.WellFormed

/-!
# Addresses of scopes

An address is made of names with slashes between them, and no name has a slash of its own, so the
names are told apart again.  No two scopes of a flow have the same address.

* `ScopeId.IsUnder`: the scope of a name, or one inside it;
* `Flow.HasNames`: the names of the subgraphs of a scope;
* `Flow.scopeIds_nodup`: the addresses of a flow are distinct;
* `Host.compile_names`: names that compile.
-/

namespace Parley

namespace ScopeId

variable {s t : ScopeId} {name name' : String}

/-- What stands before a name in the addresses inside a scope. -/
def lead (s : ScopeId) : List Char := if s.isRoot then [] else s.text.toList ++ ['/']

/-- The scope of a name in another scope, or one inside it. -/
def IsUnder (s : ScopeId) (name : String) (t : ScopeId) : Prop :=
  ∃ rest, t.text.toList = s.lead ++ (name.toList ++ rest) ∧
    (rest = [] ∨ ∃ inner, rest = '/' :: inner)

theorem child_text (s : ScopeId) (name : String) :
    (s.child name).text.toList = s.lead ++ name.toList := by
  unfold child lead
  split_ifs <;> simp

theorem lead_child (hname : name ≠ "") :
    (s.child name).lead = s.lead ++ (name.toList ++ ['/']) := by
  have hroot : (s.child name).isRoot = false := by
    rw [isRoot, decide_eq_false_iff_not]
    intro htext
    have hnil := s.child_text name
    rw [htext] at hnil
    have hempty : name.toList = [] := (List.append_eq_nil_iff.1 hnil.symm).2
    exact hname (String.toList_inj.1 hempty)
  rw [lead, hroot, child_text, List.append_assoc]
  rfl

/-- The scope of a name and those inside it are under the name. -/
theorem isUnder_of_child (hname : name ≠ "")
    (h : t = s.child name ∨ ∃ name', (s.child name).IsUnder name' t) :
    s.IsUnder name t := by
  rcases h with rfl | ⟨name', rest, ht, -⟩
  · exact ⟨[], by rw [child_text, List.append_nil], .inl rfl⟩
  · refine ⟨'/' :: (name'.toList ++ rest), ?_, .inr ⟨_, rfl⟩⟩
    rw [ht, lead_child hname]
    simp

/-- A scope is not inside itself. -/
theorem IsUnder.ne (hname : name ≠ "") (h : s.IsUnder name t) : t ≠ s := by
  rintro rfl
  obtain ⟨rest, ht, -⟩ := h
  have hpos : 0 < name.toList.length := by
    rw [List.length_pos_iff]
    exact fun hnil => hname (String.toList_inj.1 hnil)
  have hlead : t.text.toList.length ≤ t.lead.length := by
    unfold lead
    split_ifs with hroot
    · rw [isRoot, decide_eq_true_eq] at hroot
      simp [hroot]
    · simp
  have hlength := congrArg List.length ht
  rw [List.length_append, List.length_append] at hlength
  omega

/-- A name is the part of an address up to the next slash. -/
theorem IsUnder.name_eq (h : s.IsUnder name t) (h' : s.IsUnder name' t) (hname : '/' ∉ name.toList)
    (hname' : '/' ∉ name'.toList) : name = name' := by
  -- the name is what can be taken from the rest of the address before a slash
  have htake {n : String} {rest : List Char} (hn : '/' ∉ n.toList)
      (hrest : rest = [] ∨ ∃ inner, rest = '/' :: inner) :
      (n.toList ++ rest).takeWhile (· ≠ '/') = n.toList := by
    rw [List.takeWhile_append_of_pos fun c hc => by simpa using ne_of_mem_of_not_mem hc hn]
    obtain rfl | ⟨inner, rfl⟩ := hrest <;> simp
  obtain ⟨rest, ht, hrest⟩ := h
  obtain ⟨rest', ht', hrest'⟩ := h'
  have hsame := List.append_cancel_left (ht.symm.trans ht')
  rw [← String.toList_inj, ← htake hname hrest, hsame, htake hname' hrest']

end ScopeId

namespace Flow

/-- The names of the subgraphs of a scope can be told apart in an address. -/
structure HasNames (subgraphs : List (String × Flow)) : Prop where
  nodup : (Dict.keys subgraphs).Nodup
  ne : ∀ name ∈ Dict.keys subgraphs, name ≠ ""
  slash : ∀ name ∈ Dict.keys subgraphs, '/' ∉ name.toList

theorem HasNames.of_cons {s : String × Flow} {r : List (String × Flow)} (h : HasNames (s :: r)) :
    HasNames r :=
  ⟨(List.nodup_cons.1 h.nodup).2, fun name hn => h.ne name (List.mem_cons_of_mem _ hn),
    fun name hn => h.slash name (List.mem_cons_of_mem _ hn)⟩

mutual

/-- The scopes of a flow are at its own address or inside it. -/
theorem scopesAt_isUnder :
    ∀ (f : Flow) (at_ : ScopeId), (∀ p ∈ f.scopesAt at_, HasNames p.2.subgraphs) →
      ∀ p ∈ f.scopesAt at_, p.1 = at_ ∨ ∃ name, at_.IsUnder name p.1
  | ⟨id, version, entry, nodes, edges, subgraphs, record⟩, at_, hnames => by
      rw [scopesAt, List.forall_mem_cons] at hnames ⊢
      refine ⟨.inl rfl, fun p hp => .inr ?_⟩
      obtain ⟨name, -, hunder⟩ := subgraphScopes_isUnder subgraphs at_ hnames.1 hnames.2 p hp
      exact ⟨name, hunder⟩

theorem subgraphScopes_isUnder :
    ∀ (subgraphs : List (String × Flow)) (at_ : ScopeId), HasNames subgraphs →
      (∀ p ∈ subgraphScopes at_ subgraphs, HasNames p.2.subgraphs) →
        ∀ p ∈ subgraphScopes at_ subgraphs, ∃ name ∈ Dict.keys subgraphs, at_.IsUnder name p.1
  | [], at_, _, _ => nofun
  | (name, f) :: r, at_, hown, hnames => by
      rw [subgraphScopes, List.forall_mem_append] at hnames ⊢
      refine ⟨fun p hp => ⟨name, List.mem_cons_self, ?_⟩, fun p hp => ?_⟩
      · exact ScopeId.isUnder_of_child (hown.ne name List.mem_cons_self)
          (scopesAt_isUnder f (at_.child name) hnames.1 p hp)
      · obtain ⟨name', hname', hunder⟩ := subgraphScopes_isUnder r at_ hown.of_cons hnames.2 p hp
        exact ⟨name', List.mem_cons_of_mem _ hname', hunder⟩

end

mutual

/-- The addresses of the scopes of a flow are distinct. -/
theorem scopesAt_nodup :
    ∀ (f : Flow) (at_ : ScopeId), (∀ p ∈ f.scopesAt at_, HasNames p.2.subgraphs) →
      ((f.scopesAt at_).map (·.1)).Nodup
  | ⟨id, version, entry, nodes, edges, subgraphs, record⟩, at_, hnames => by
      rw [scopesAt, List.forall_mem_cons] at hnames
      rw [scopesAt, List.map_cons, List.nodup_cons]
      refine ⟨fun hmem => ?_, subgraphScopes_nodup subgraphs at_ hnames.1 hnames.2⟩
      obtain ⟨p, hp, heq⟩ := List.mem_map.1 hmem
      obtain ⟨name, hname, hunder⟩ := subgraphScopes_isUnder subgraphs at_ hnames.1 hnames.2 p hp
      exact hunder.ne (hnames.1.ne name hname) heq

theorem subgraphScopes_nodup :
    ∀ (subgraphs : List (String × Flow)) (at_ : ScopeId), HasNames subgraphs →
      (∀ p ∈ subgraphScopes at_ subgraphs, HasNames p.2.subgraphs) →
        ((subgraphScopes at_ subgraphs).map (·.1)).Nodup
  | [], at_, _, _ => List.nodup_nil
  | (name, f) :: r, at_, hown, hnames => by
      rw [subgraphScopes, List.forall_mem_append] at hnames
      rw [subgraphScopes, List.map_append, List.nodup_append]
      refine ⟨scopesAt_nodup f (at_.child name) hnames.1,
        subgraphScopes_nodup r at_ hown.of_cons hnames.2, ?_⟩
      rintro s hs t ht rfl
      obtain ⟨p, hp, rfl⟩ := List.mem_map.1 hs
      obtain ⟨q, hq, heq⟩ := List.mem_map.1 ht
      obtain ⟨name', hname', hunder'⟩ := subgraphScopes_isUnder r at_ hown.of_cons hnames.2 q hq
      have hunder : at_.IsUnder name p.1 :=
        ScopeId.isUnder_of_child (hown.ne name List.mem_cons_self)
          (scopesAt_isUnder f (at_.child name) hnames.1 p hp)
      rw [heq] at hunder'
      -- two subgraphs that stand side by side have different names
      have hsame := hunder.name_eq hunder' (hown.slash name List.mem_cons_self)
        (hown.slash name' (List.mem_cons_of_mem _ hname'))
      exact (List.nodup_cons.1 hown.nodup).1 (hsame ▸ hname')

end

theorem scopeIds_nodup {f : Flow} (hnames : ∀ p ∈ f.scopes, HasNames p.2.subgraphs) :
    f.scopeIds.Nodup :=
  scopesAt_nodup f .root hnames

end Flow

/-- In a flow that compiles, subgraphs that are sorted by name have names that can be told apart. -/
theorem Host.compile_names {host : Host} {f : Flow} {g : Graph} (h : host.compile f = .ok g)
    (hsorted : ∀ p ∈ f.scopes, Dict.Ordered p.2.subgraphs) :
    ∀ p ∈ f.scopes, Flow.HasNames p.2.subgraphs := by
  intro p hp
  obtain ⟨a, -, ha⟩ := exists_of_forall₂_right (Host.compile_eq_ok h).2.2.flip hp
  have hnames := (exists_compileArea_iff.1 ⟨a, ha⟩).names
  refine ⟨?_, fun name hname hempty => ?_, fun name hname => (hnames name hname).2⟩
  · exact List.Pairwise.map _ (fun _ _ hlt => hlt.ne) (hsorted p hp)
  · have hblank := (hnames name hname).1
    rw [hempty] at hblank
    exact absurd hblank (by decide)

end Parley
