import Parley.Layer.Merge
import Parley.Proofs.Checked
import Parley.Proofs.Collections

/-!
# What layers declare

The declarations that reach a scope, in the order in which they apply: tiers from low to high,
layers of a tier as given, and each layer's own from first to last.  What has become of an element
shows in its last declarations.

* `Element`, `Declaration.element`, `Declaration.removes`: what a declaration is about;
* `Declared.since`, `Declared.Stands`, `Declared.IsGone`: the declarations of an element since it
  was last taken away;
* `Declared.position`: where an element has come in since then;
* `lastSet`: the value of what is set again and again;
* `Layer.byTier`, `LayerGraph.within`, `Layer.declarationsAt`: the declarations for a scope.
-/

namespace Parley

/-! ### Elements -/

/-- What a declaration is about. -/
inductive Element
  | flow
  | node (id : NodeId)
  | edge (key : String)
  deriving DecidableEq

namespace Declaration

def element : Declaration → Element
  | .entry _ => .flow
  | .node p => .node p.id
  | .edge p => .edge p.key

/-- Whether the element is taken away. -/
def removes : Declaration → Bool
  | .entry _ => false
  | .node p => p.remove
  | .edge p => p.remove

def entryId? : Declaration → Option NodeId
  | .entry id => some id
  | _ => none

def node? : Declaration → Option NodePatch
  | .node p => some p
  | _ => none

def edge? : Declaration → Option EdgePatch
  | .edge p => some p
  | _ => none

end Declaration

/-- Declarations for a scope in the order in which they apply, each with the name of its layer. -/
abbrev Declared := List (String × Declaration)

namespace Declared

variable {e : Element} {ds : Declared} {d : String × Declaration}

/-- The declarations of an element. -/
def about (e : Element) (ds : Declared) : Declared := ds.filter fun d => d.2.element = e

/-- The declarations of an element since it was last taken away. -/
def since (e : Element) (ds : Declared) : Declared := (ds.about e).rtakeWhile fun d => !d.2.removes

/-- The last declaration of an element does not take it away. -/
def Stands (e : Element) (ds : Declared) : Prop :=
  ∃ d, (ds.about e).getLast? = some d ∧ d.2.removes = false

/-- The last declaration of an element takes it away. -/
def IsGone (e : Element) (ds : Declared) : Prop :=
  ∃ d, (ds.about e).getLast? = some d ∧ d.2.removes = true

/-- All declarations since an element was last taken away. -/
def afterRemoval (e : Element) (ds : Declared) : Declared :=
  ds.rtakeWhile fun d => !(d.2.element = e && d.2.removes)

/-- How many declarations stand before the one with which an element has come in since it was last
taken away. -/
def position (e : Element) (ds : Declared) : Nat :=
  ds.length - (ds.afterRemoval e).length + (ds.afterRemoval e).findIdx fun d => d.2.element = e

theorem about_concat (e : Element) (ds : Declared) (d : String × Declaration) :
    about e (ds ++ [d]) = if d.2.element = e then ds.about e ++ [d] else ds.about e := by
  unfold about
  rw [List.filter_append, List.filter_singleton]
  split <;> simp_all

theorem since_concat (e : Element) (ds : Declared) (d : String × Declaration) :
    since e (ds ++ [d]) =
      if d.2.element = e then if d.2.removes then [] else ds.since e ++ [d] else ds.since e := by
  unfold since
  rw [about_concat]
  split
  · rw [List.rtakeWhile_concat]
    cases d.2.removes <;> rfl
  · rfl

/-- An element stands exactly if it was declared since it was last taken away. -/
theorem stands_iff : ds.Stands e ↔ ds.since e ≠ [] := by
  unfold Stands since
  rcases (ds.about e).eq_nil_or_concat' with h | ⟨init, d, h⟩
  · simp [h]
  · rw [h, List.rtakeWhile_concat]
    cases hremoves : d.2.removes <;> simp [hremoves]

theorem isGone_concat (e : Element) (ds : Declared) (d : String × Declaration) :
    IsGone e (ds ++ [d]) ↔ if d.2.element = e then d.2.removes = true else ds.IsGone e := by
  unfold IsGone
  rw [about_concat]
  split <;> simp

theorem not_isGone_nil (e : Element) : ¬ IsGone e [] := by simp [IsGone, about]

/-! ### Positions -/

theorem afterRemoval_concat (e : Element) (ds : Declared) (d : String × Declaration) :
    afterRemoval e (ds ++ [d]) =
      if d.2.element = e ∧ d.2.removes = true then [] else ds.afterRemoval e ++ [d] := by
  unfold afterRemoval
  rw [List.rtakeWhile_concat]
  by_cases h : d.2.element = e ∧ d.2.removes = true <;> simp [h]

theorem length_afterRemoval_le (e : Element) (ds : Declared) :
    (ds.afterRemoval e).length ≤ ds.length :=
  (List.rtakeWhile_suffix _ ds).length_le

theorem since_eq_about_afterRemoval (e : Element) (ds : Declared) :
    ds.since e = (ds.afterRemoval e).about e := by
  induction ds using List.reverseRecOn with
  | nil => rfl
  | append_singleton ds d ih =>
    rw [since_concat, afterRemoval_concat, ih]
    by_cases he : d.2.element = e
    · by_cases hremoves : d.2.removes = true
      · simp [he, hremoves, about]
      · simp [he, hremoves, about_concat]
    · simp [he, about_concat]

theorem findIdx_afterRemoval_lt (h : ds.since e ≠ []) :
    ((ds.afterRemoval e).findIdx fun d => d.2.element = e) < (ds.afterRemoval e).length := by
  rw [since_eq_about_afterRemoval, about] at h
  obtain ⟨d, hd⟩ := List.exists_mem_of_ne_nil _ h
  rw [List.mem_filter] at hd
  exact List.findIdx_lt_length_of_exists ⟨d, hd⟩

theorem position_lt (h : ds.since e ≠ []) : ds.position e < ds.length := by
  have hindex := findIdx_afterRemoval_lt h
  have hlength := length_afterRemoval_le e ds
  unfold position
  omega

/-- An element that is declared again stays where it is. -/
theorem position_concat_of_ne_nil (h : ds.since e ≠ [])
    (hd : ¬ (d.2.element = e ∧ d.2.removes = true)) :
    position e (ds ++ [d]) = ds.position e := by
  have hindex := findIdx_afterRemoval_lt h
  unfold position
  rw [afterRemoval_concat, if_neg hd, List.findIdx_append, if_pos hindex, List.length_append,
    List.length_append, Nat.add_sub_add_right]

/-- An element that is new comes in at the end. -/
theorem position_concat_of_eq_nil (h : ds.since e = []) (he : d.2.element = e)
    (hd : d.2.removes = false) :
    position e (ds ++ [d]) = ds.length := by
  have hindex : (ds.afterRemoval e).findIdx (fun d => decide (d.2.element = e)) =
      (ds.afterRemoval e).length := by
    rw [since_eq_about_afterRemoval, about, List.filter_eq_nil_iff] at h
    exact List.findIdx_eq_length.2 fun d hd => by simpa using h d hd
  have hlength := length_afterRemoval_le e ds
  have hsingle : [d].findIdx (fun d => decide (d.2.element = e)) = 0 := by simp [he]
  unfold position
  rw [afterRemoval_concat, if_neg (by simp [hd]), List.findIdx_append, hindex,
    if_neg (lt_irrefl _), hsingle, List.length_append, List.length_append, List.length_singleton]
  omega

end Declared

/-! ### Values that are set again -/

/-- The last value that a field is set to. -/
def lastSet {α β : Type} (field : α → Option β) (ps : List α) : Option β :=
  (ps.filterMap field).getLast?

theorem lastSet_concat {α β : Type} (field : α → Option β) (ps : List α) (p : α) :
    lastSet field (ps ++ [p]) = (field p).or (lastSet field ps) := by
  unfold lastSet
  rw [List.filterMap_append, List.getLast?_append]
  cases h : field p <;> simp [h]

/-! ### Layers and scopes -/

namespace LayerGraph

/-- The graphs of a layer for the scope to which names lead; there is at most one if no name is used
twice. -/
def within : List String → LayerGraph → List LayerGraph
  | [], g => [g]
  | name :: path, g => (g.subgraphs.filter fun s => s.1 = name).flatMap fun s => within path s.2

end LayerGraph

namespace Layer

/-- Layers from the lowest tier to the highest, those of a tier as given. -/
def byTier (layers : List Layer) : List Layer :=
  [Tier.global, .category, .tenant, .single].flatMap fun t => layers.filter fun l => l.tier = t

/-- What layers declare for the scope to which names lead. -/
def declarationsAt (layers : List Layer) (path : List String) : Declared :=
  (byTier layers).flatMap fun l => (l.graph.within path).flatMap fun g =>
    g.declarations.map (l.name, ·)

/-- Whether a scope is there: the root is, and so is every subgraph of a layer. -/
def HasScope (layers : List Layer) (path : List String) : Prop :=
  path = [] ∨ ∃ l ∈ layers, l.graph.within path ≠ []

theorem tier_trans (a b c : Layer) (hab : decide (a.tier.rank ≤ b.tier.rank) = true)
    (hbc : decide (b.tier.rank ≤ c.tier.rank) = true) : decide (a.tier.rank ≤ c.tier.rank) = true :=
  decide_eq_true ((of_decide_eq_true hab).trans (of_decide_eq_true hbc))

theorem tier_total (a b : Layer) :
    (decide (a.tier.rank ≤ b.tier.rank) || decide (b.tier.rank ≤ a.tier.rank)) = true := by
  simpa using Nat.le_total _ _

/-- Sorting keeps the layers of a tier as given. -/
theorem filter_inOrder (layers : List Layer) (t : Tier) :
    (inOrder layers).filter (fun l => l.tier = t) = layers.filter fun l => l.tier = t := by
  refine filter_mergeSort_of_forall tier_trans tier_total (fun a b ha hb => ?_) layers
  rw [of_decide_eq_true ha, of_decide_eq_true hb]
  exact decide_eq_true (Nat.le_refl _)

theorem eq_byTier_of_pairwise {layers : List Layer}
    (h : layers.Pairwise fun a b => a.tier.rank ≤ b.tier.rank) :
    layers = byTier layers := by
  induction layers with
  | nil => rfl
  | cons a layers ih =>
    obtain ⟨ha, hlayers⟩ := List.pairwise_cons.1 h
    -- the first layer is of the lowest tier that there is
    have hlow (t : Tier) (ht : t.rank < a.tier.rank) :
        layers.filter (fun l => l.tier = t) = [] := by
      refine List.filter_eq_nil_iff.2 fun l hl => ?_
      have hrank := ha l hl
      rintro heq
      rw [of_decide_eq_true heq] at hrank
      omega
    calc a :: layers = a :: byTier layers := congrArg (a :: ·) (ih hlayers)
      _ = byTier (a :: layers) := by
        cases htier : a.tier with
        | global => simp [byTier, htier]
        | category =>
          rw [htier] at hlow
          simp only [byTier, List.flatMap_cons, List.filter_cons, htier, hlow .global (by decide)]
          rfl
        | tenant =>
          rw [htier] at hlow
          simp only [byTier, List.flatMap_cons, List.filter_cons, htier, hlow .global (by decide),
            hlow .category (by decide)]
          rfl
        | single =>
          rw [htier] at hlow
          simp only [byTier, List.flatMap_cons, List.filter_cons, htier, hlow .global (by decide),
            hlow .category (by decide), hlow .tenant (by decide)]
          rfl

theorem inOrder_eq_byTier (layers : List Layer) : inOrder layers = byTier layers := by
  have hsorted : (inOrder layers).Pairwise fun a b => a.tier.rank ≤ b.tier.rank :=
    (List.pairwise_mergeSort tier_trans tier_total layers).imp of_decide_eq_true
  rw [eq_byTier_of_pairwise hsorted, byTier, byTier]
  exact List.flatMap_congr fun t _ => filter_inOrder layers t

end Layer

end Parley
