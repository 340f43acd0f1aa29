import Parley.Graph.Compile
import Parley.Proofs.Layer.Scopes

/-!
# The order of layers

All that a merge makes of layers, it makes of them in the order in which they apply.  Where a layer
stands among those of other tiers does not matter; only the order within each tier does.

* `Host.merge`: the flow that layers describe together, if it compiles;
* `Layer.Rearranged`: the same layers in other places, where those of a tier stand in the same
  order;
* `Layer.inOrder_congr`, `Layer.inOrder_append`: when layers apply in the same order, and where a
  top layer comes in;
* `Host.merge_rearranged`.
-/

namespace Parley

/-- The flow that layers describe together, if it compiles, and where they disagree: what
`Publisher.publishLayers` publishes. -/
def Host.merge (host : Host) (layers : List Layer) : Except CompileError Merged :=
  Layer.merge layers >>= fun m => (host.compile m.flow).map fun _ => m

namespace Layer

/-- Every layer has its own place in another list, and layers of a tier stand in the same order
there. -/
structure ArePlaces (layers layers' : List Layer) (place : Fin layers.length ≃ Fin layers'.length) :
    Prop where
  layer : ∀ i, layers'.get (place i) = layers.get i
  order : ∀ i j, i < j → (layers.get i).tier = (layers.get j).tier → place i < place j

/-- A list is a permutation of another one that keeps the order of the layers of each tier. -/
def Rearranged (layers layers' : List Layer) : Prop := ∃ place, ArePlaces layers layers' place

variable {layers layers' : List Layer}

/-- The places of the layers of a tier. -/
def placesOf (t : Tier) (layers : List Layer) : List (Fin layers.length) :=
  (List.finRange layers.length).filter fun i => (layers.get i).tier = t

theorem map_get_placesOf (t : Tier) (layers : List Layer) :
    (placesOf t layers).map layers.get = layers.filter fun l => l.tier = t := by
  conv_rhs => rw [← List.map_get_finRange layers, List.filter_map]
  rfl

/-- The places of the layers of a tier are moved to those of the same layers. -/
theorem ArePlaces.map_placesOf {place : Fin layers.length ≃ Fin layers'.length}
    (h : ArePlaces layers layers' place) (t : Tier) :
    (placesOf t layers).map place = placesOf t layers' := by
  have hmem (i : Fin layers'.length) : i ∈ (placesOf t layers).map place ↔
      i ∈ placesOf t layers' := by
    obtain ⟨j, rfl⟩ := place.surjective i
    rw [List.mem_map_of_injective place.injective, placesOf, placesOf, List.mem_filter,
      List.mem_filter, h.layer]
    simp only [List.mem_finRange]
  have hperm : ((placesOf t layers).map place).Perm (placesOf t layers') := by
    refine (List.perm_ext_iff_of_nodup ?_ ?_).2 hmem
    · exact ((List.nodup_finRange _).filter _).map place.injective
    · exact (List.nodup_finRange _).filter _
  have hincreasing (layers : List Layer) : (placesOf t layers).Pairwise (· < ·) :=
    (List.pairwise_lt_finRange _).filter _
  refine hperm.eq_of_pairwise (fun i j _ _ hij hji => absurd hij (lt_asymm hji)) ?_
    (hincreasing layers')
  refine List.pairwise_map.2
    ((hincreasing layers).imp_of_mem fun {i j} hi hj hlt => h.order i j hlt ?_)
  rw [of_decide_eq_true (List.mem_filter.1 hi).2, of_decide_eq_true (List.mem_filter.1 hj).2]

/-- Within each tier there are the same layers in the same order. -/
theorem Rearranged.filter_tier (h : Rearranged layers layers') (t : Tier) :
    layers'.filter (fun l => l.tier = t) = layers.filter fun l => l.tier = t := by
  obtain ⟨place, hplace⟩ := h
  rw [← map_get_placesOf, ← map_get_placesOf, ← hplace.map_placesOf, List.map_map]
  exact List.map_congr_left fun i _ => hplace.layer i

/-- The order in which layers apply comes from that within each tier. -/
theorem inOrder_congr
    (h : ∀ t, layers'.filter (fun l => l.tier = t) = layers.filter fun l => l.tier = t) :
    inOrder layers' = inOrder layers := by
  rw [inOrder_eq_byTier, inOrder_eq_byTier, byTier, byTier]
  exact List.flatMap_congr fun t _ => h t

/-- Layers that are not below any other one apply last, as given. -/
theorem inOrder_append {tops : List Layer}
    (htops : tops.Pairwise fun a b => a.tier.rank ≤ b.tier.rank)
    (h : ∀ a ∈ layers, ∀ b ∈ tops, a.tier.rank ≤ b.tier.rank) :
    inOrder (layers ++ tops) = inOrder layers ++ tops := by
  have hsorted : (inOrder layers).Pairwise fun a b => a.tier.rank ≤ b.tier.rank :=
    (List.pairwise_mergeSort tier_trans tier_total layers).imp of_decide_eq_true
  have hall : (inOrder layers ++ tops).Pairwise fun a b => a.tier.rank ≤ b.tier.rank :=
    List.pairwise_append.2
      ⟨hsorted, htops, fun a ha b hb => h a ((List.mergeSort_perm _ _).mem_iff.1 ha) b hb⟩
  rw [eq_byTier_of_pairwise hall, ← inOrder_eq_byTier]
  refine inOrder_congr fun t => ?_
  rw [List.filter_append, List.filter_append, filter_inOrder]

theorem merge_of_inOrder (h : inOrder layers' = inOrder layers) : merge layers' = merge layers := by
  rw [merge, merge, h]

end Layer

/-- **The order of layers across tiers does not matter.**  Layers in other places make the same flow
with the same conflicts in the same order, or fail with the same error, as long as the layers of
each tier keep their order. -/
theorem Host.merge_rearranged {layers layers' : List Layer} (h : Layer.Rearranged layers layers')
    (host : Host) :
    host.merge layers' = host.merge layers := by
  have hmerge : Layer.merge layers' = Layer.merge layers :=
    Layer.merge_of_inOrder (Layer.inOrder_congr h.filter_tier)
  rw [merge, merge, hmerge]

namespace Samples

/-- The prompt of a tenant in the evening. -/
def evening : Layer where
  tier := .tenant
  label := some "evening"
  graph := { nodes := [{ id := "ask", prompt := some "How may we help tonight?" }] }

/-- The two layers of the tenant keep their order, and the layer for all moves behind them. -/
theorem evening_rearranged :
    Layer.Rearranged (houseRules ++ [evening]) (houseRules.take 1 ++ evening :: houseRules.drop 1) ∧
      Host.builtin.merge (houseRules.take 1 ++ evening :: houseRules.drop 1) =
        Host.builtin.merge (houseRules ++ [evening]) := by
  have hplaces : Layer.Rearranged (houseRules ++ [evening])
      (houseRules.take 1 ++ evening :: houseRules.drop 1) := by
    refine ⟨(Equiv.swap 1 2 : Equiv.Perm (Fin 3)), ?_, by decide⟩
    intro (i : Fin 3)
    fin_cases i <;> rfl
  exact ⟨hplaces, Host.merge_rearranged hplaces .builtin⟩

end Samples

end Parley
