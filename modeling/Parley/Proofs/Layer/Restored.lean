import Parley.Edit.Codec
import Parley.Layer.Merge
import Parley.Proofs.Flow.Restored
import Parley.Proofs.Json.Compact
import Parley.Proofs.Layer.Scopes

/-!
# Layers and edits restored from documents

A removal is read but never written.  So a layer comes back from its document with all that it sets
and without its removals, and a patch among edits likewise.

* `Layer.Fits`, `Edit.Fits`: values of the types that they are kept in;
* `Layer.withoutRemovals`, `Layer.RemovesNothing` and the same for edits;
* `Layer.reader_ofJson`, `Edit.reader_ofJson`: what comes back;
* `Layer.rewritten_without_removals`: which layers and edits come back unchanged, and then do the
  same;
* `Samples.removal_lost`: a layer that does not.
-/

namespace Parley

open Json Record

theorem Tier.ofName?_name (t : Tier) : Tier.ofName? t.name = some t := by
  cases t <;> rfl

/-! ### Patches -/

/-- The priority is an integer of 64 bits, and the presentation is sorted. -/
structure NodePatch.Fits (p : NodePatch) : Prop where
  priority : ∀ i ∈ p.priority, IsInt64 i
  ui : ∀ members ∈ p.ui, (Json.object members).IsSorted

/-- The priority is an integer of 64 bits. -/
def EdgePatch.Fits (p : EdgePatch) : Prop := ∀ i ∈ p.priority, IsInt64 i

/-- The patch with all that it sets, and without the removal. -/
def NodePatch.withoutRemoval (p : NodePatch) : NodePatch := { p with remove := false }

def EdgePatch.withoutRemoval (p : EdgePatch) : EdgePatch := { p with remove := false }

theorem NodePatch.withoutRemoval_eq_iff {p : NodePatch} : p.withoutRemoval = p ↔ p.remove = false :=
  ⟨fun h => h ▸ rfl, fun h => by rw [withoutRemoval, ← h]⟩

theorem EdgePatch.withoutRemoval_eq_iff {p : EdgePatch} : p.withoutRemoval = p ↔ p.remove = false :=
  ⟨fun h => h ▸ rfl, fun h => by rw [withoutRemoval, ← h]⟩

theorem NodePatch.record_restores {p : NodePatch} (hp : p.Fits) :
    record.Restores p.toJson.members p.withoutRemoval := by
  have hrestores : record.Restores _ p.withoutRemoval :=
    Restores.map NodePatch.mk (.text "id" p.id)
      |>.seq (.ifSome "type" (fun k => .string k.name) (fun _ _ => nofun) fun k _ =>
        Reader.nodeKind_ofJson k)
      |>.seq (.textIfSome "key" p.key)
      |>.seq (.textIfSome "prompt" p.prompt)
      |>.seq (.textIfSome "guard" p.guard)
      |>.seq (.textIfSome "when" p.when)
      |>.seq (.ifAny "depends_on" p.dependsOn)
      |>.seq (.ifAny "extra_guards" p.extraGuards)
      |>.seq (.textIfSome "validator" p.validator)
      |>.seq (.textIfSome "subgraph" p.subgraph)
      |>.seq (.ifSome "paths" .strings (fun _ _ => nofun) fun xs _ => Reader.texts_ofJson xs)
      |>.seq (.ifSome "reentrant" .bool (fun _ _ => nofun) fun _ _ => rfl)
      |>.seq (.intIfSome "priority" hp.priority)
      |>.seq (.objectIfSome "ui" hp.ui)
      |>.seq (.omitted rfl)
  rwa [List.append_nil] at hrestores

theorem NodePatch.names_nodup : record.names.Nodup := by
  decide

theorem NodePatch.reader_ofJson {p : NodePatch} (hp : p.Fits) :
    reader.ofJson p.toJson = .ok p.withoutRemoval :=
  (record_restores hp).reader names_nodup

theorem NodePatch.reader_heeds : reader.Heeds := by
  have hheeds : record.Heeds :=
    Heeds.map NodePatch.mk (.required .text)
      |>.seq (.optional (.choice _))
      |>.seq (.optional .text) |>.seq (.optional .text) |>.seq (.optional .text)
      |>.seq (.optional .text)
      |>.seq (.defaulted (.list .text)) |>.seq (.defaulted (.list .text))
      |>.seq (.optional .text) |>.seq (.optional .text) |>.seq (.optional (.list .text))
      |>.seq (.optional .bool) |>.seq (.optional (.intBetween _ _)) |>.seq (.optional .jsonObject)
      |>.seq (.defaulted .bool)
  exact hheeds.reader names_nodup

theorem EdgePatch.reader_ofJson {p : EdgePatch} (hp : p.Fits) :
    reader.ofJson p.toJson = .ok p.withoutRemoval := by
  have hrestores : record.Restores _ p.withoutRemoval :=
    Restores.map EdgePatch.mk (.textIfSome "id" p.id)
      |>.seq (.text "from" p.source)
      |>.seq (.text "to" p.target)
      |>.seq (.textIfSome "guard" p.guard)
      |>.seq (.ifSome "on_invalid" .bool (fun _ _ => nofun) fun _ _ => rfl)
      |>.seq (.ifSome "reentrant" .bool (fun _ _ => nofun) fun _ _ => rfl)
      |>.seq (.intIfSome "priority" hp)
      |>.seq (.omitted rfl)
  rw [List.append_nil] at hrestores
  rw [toJson, List.append_cons (memberIfSome "id" .string p.id)]
  exact hrestores.reader (by decide)

theorem EdgePatch.reader_heeds : reader.Heeds := by
  have hheeds : record.Heeds :=
    Heeds.map EdgePatch.mk (.optional .text)
      |>.seq (.required .text) |>.seq (.required .text) |>.seq (.optional .text)
      |>.seq (.optional .bool) |>.seq (.optional .bool) |>.seq (.optional (.intBetween _ _))
      |>.seq (.defaulted .bool)
  exact hheeds.reader (by decide)

/-! ### Layers -/

namespace LayerGraph

/-- All patches fit, and the subgraphs are sorted by name; so in each subgraph. -/
inductive Fits : LayerGraph → Prop
  | mk {g : LayerGraph} (nodes : ∀ p ∈ g.nodes, p.Fits) (edges : ∀ p ∈ g.edges, p.Fits)
      (names : Dict.Ordered g.subgraphs) (below : ∀ s ∈ g.subgraphs, s.2.Fits) : g.Fits

/-- No patch takes anything away, nor does one in a subgraph. -/
inductive RemovesNothing : LayerGraph → Prop
  | mk {g : LayerGraph} (nodes : ∀ p ∈ g.nodes, p.remove = false)
      (edges : ∀ p ∈ g.edges, p.remove = false) (below : ∀ s ∈ g.subgraphs, s.2.RemovesNothing) :
      g.RemovesNothing

mutual

/-- The patches with all that they set, and without their removals. -/
def withoutRemovals : LayerGraph → LayerGraph
  | ⟨entry, nodes, edges, subgraphs⟩ =>
      ⟨entry, nodes.map .withoutRemoval, edges.map .withoutRemoval,
        subgraphsWithoutRemovals subgraphs⟩

def subgraphsWithoutRemovals : List (String × LayerGraph) → List (String × LayerGraph)
  | [] => []
  | (name, g) :: r => (name, withoutRemovals g) :: subgraphsWithoutRemovals r

end

theorem subgraphsWithoutRemovals_eq (subgraphs : List (String × LayerGraph)) :
    subgraphsWithoutRemovals subgraphs = Dict.mapValues subgraphs withoutRemovals := by
  induction subgraphs with
  | nil => rfl
  | cons s r ih =>
    obtain ⟨name, g⟩ := s
    rw [subgraphsWithoutRemovals, ih]
    rfl

theorem subgraphsToJson_eq (subgraphs : List (String × LayerGraph)) :
    subgraphsToJson subgraphs = Dict.mapValues subgraphs fun g => .object g.members := by
  induction subgraphs with
  | nil => rfl
  | cons s r ih =>
    obtain ⟨name, g⟩ := s
    rw [subgraphsToJson, ih]
    rfl

theorem map_eq_self_iff {α : Type} {f : α → α} {as : List α} :
    as.map f = as ↔ ∀ a ∈ as, f a = a := by
  induction as with
  | nil => simp
  | cons a as ih => simp [ih]

mutual

theorem withoutRemovals_eq_iff : ∀ {g : LayerGraph}, g.withoutRemovals = g ↔ g.RemovesNothing
  | ⟨entry, nodes, edges, subgraphs⟩ => by
      rw [withoutRemovals, mk.injEq, map_eq_self_iff, map_eq_self_iff,
        subgraphsWithoutRemovals_eq_iff]
      simp only [NodePatch.withoutRemoval_eq_iff, EdgePatch.withoutRemoval_eq_iff, true_and]
      constructor
      · rintro ⟨hnodes, hedges, hbelow⟩
        exact .mk hnodes hedges hbelow
      · rintro ⟨hnodes, hedges, hbelow⟩
        exact ⟨hnodes, hedges, hbelow⟩

theorem subgraphsWithoutRemovals_eq_iff : ∀ {subgraphs : List (String × LayerGraph)},
    subgraphsWithoutRemovals subgraphs = subgraphs ↔ ∀ s ∈ subgraphs, s.2.RemovesNothing
  | [] => by simp [subgraphsWithoutRemovals]
  | (name, g) :: r => by
      rw [subgraphsWithoutRemovals, List.cons.injEq, Prod.mk.injEq, withoutRemovals_eq_iff,
        subgraphsWithoutRemovals_eq_iff, List.forall_mem_cons]
      simp

end

theorem names_nodup : ["entry", "nodes", "edges", "subgraphs"].Nodup := by
  decide

/-- A scope is restored if its subgraphs are. -/
theorem record_restores {inner : Reader LayerGraph} {g : LayerGraph} (hg : g.Fits)
    (hinner : ∀ s ∈ g.subgraphs, inner.ofJson (.object s.2.members) = .ok s.2.withoutRemovals) :
    (record inner).Restores g.members g.withoutRemovals := by
  obtain ⟨nodes, edges, names, -⟩ := hg
  obtain ⟨entry, ns, es, subgraphs⟩ := g
  rw [members, withoutRemovals, subgraphsToJson_eq, subgraphsWithoutRemovals_eq,
    List.append_cons _ ("nodes", _)]
  exact Restores.map LayerGraph.mk (.textIfSome "entry" entry)
    |>.seq
      (.defaulted "nodes" (Reader.list_map_ofJson fun p hp => NodePatch.reader_ofJson (nodes p hp)))
    |>.seq
      (.defaulted "edges" (Reader.list_map_ofJson fun p hp => EdgePatch.reader_ofJson (edges p hp)))
    |>.seq (.dictMapIfAny "subgraphs" names hinner)

/-- A subgraph nests less deep than a document with the members of the scope around it. -/
theorem depth_lt_of_mem {g : LayerGraph} {s : String × LayerGraph} (hs : s ∈ g.subgraphs)
    {ms : List (String × Json)} (hms : g.members ⊆ ms) :
    (Document.ofJson (.object s.2.members)).depth < (Document.ofJson (.object ms)).depth := by
  obtain ⟨entry, ns, es, subgraphs⟩ := g
  rw [members, subgraphsToJson_eq] at hms
  exact Document.depth_lt_of_mem_dict hs (List.Subset.trans (List.subset_append_right _ _) hms)

theorem readerBelow_ofJson (n : Nat) {g : LayerGraph} (hg : g.Fits)
    (hn : (Document.ofJson (.object g.members)).depth < n) :
    (readerBelow n).ofJson (.object g.members) = .ok g.withoutRemovals := by
  induction n generalizing g with
  | zero => exact absurd hn (Nat.not_lt_zero _)
  | succ n ih =>
    refine (record_restores hg fun s hs => ih ?_ ?_).reader names_nodup
    · obtain ⟨-, -, -, below⟩ := hg
      exact below s hs
    · exact (depth_lt_of_mem hs (List.Subset.refl _)).trans_le (Nat.le_of_lt_succ hn)

theorem record_heeds {inner : Reader LayerGraph} (hinner : inner.Heeds) : (record inner).Heeds :=
  Heeds.map LayerGraph.mk (.optional .text)
    |>.seq (.defaulted NodePatch.reader_heeds.list) |>.seq (.defaulted EdgePatch.reader_heeds.list)
    |>.seq (.defaulted hinner.dict)

theorem readerBelow_heeds (n : Nat) : (readerBelow n).Heeds := by
  induction n with
  | zero => exact fun _ _ => nofun
  | succ n ih => exact (record_heeds ih).reader names_nodup

end LayerGraph

namespace Layer

def Fits (l : Layer) : Prop := l.graph.Fits

def RemovesNothing (l : Layer) : Prop := l.graph.RemovesNothing

/-- The layer with all that it sets, and without its removals. -/
def withoutRemovals (l : Layer) : Layer := { l with graph := l.graph.withoutRemovals }

variable {l : Layer}

theorem withoutRemovals_eq_iff : l.withoutRemovals = l ↔ l.RemovesNothing := by
  obtain ⟨tier, label, id, graph⟩ := l
  rw [withoutRemovals, mk.injEq, RemovesNothing, ← LayerGraph.withoutRemovals_eq_iff]
  simp

/-- **A layer is read without its removals.** -/
theorem reader_ofJson (hl : l.Fits) : reader.ofJson l.toJson = .ok l.withoutRemovals := by
  have hsubgraphs : ∀ s ∈ l.graph.subgraphs,
      (LayerGraph.readerBelow (Document.ofJson l.toJson).depth).ofJson (.object s.2.members) =
        .ok s.2.withoutRemovals := by
    intro s hs
    refine LayerGraph.readerBelow_ofJson _ ?_
      (LayerGraph.depth_lt_of_mem hs (List.subset_append_right _ _))
    obtain ⟨-, -, -, below⟩ := hl
    exact below s hs
  exact (Restores.map Layer.mk (.required "tier" (Reader.choice_ofJson l.tier.ofName?_name))
    |>.seq (.textIfSome "label" l.label)
    |>.seq (.textIfSome "id" l.id)
    |>.seq (LayerGraph.record_restores hl hsubgraphs)).objectReader
      (show ["tier", "label", "id", "entry", "nodes", "edges", "subgraphs"].Nodup by decide)

theorem reader_heeds : reader.Heeds := fun d =>
  (Heeds.map Layer.mk (.required (.choice _))
    |>.seq (.optional .text) |>.seq (.optional .text)
    |>.seq (LayerGraph.record_heeds (LayerGraph.readerBelow_heeds d.depth))).objectReader d

end Layer

/-! ### Edits -/

/-- The node, the patch or the edge that is set fits. -/
def Change.Fits : Change → Prop
  | .addNode n => n.Fits
  | .updateNode p => p.Fits
  | .addEdge e => e.Fits
  | _ => True

/-- The change with all that it sets, and without the removal by a patch. -/
def Change.withoutRemoval : Change → Change
  | .updateNode p => .updateNode p.withoutRemoval
  | c => c

namespace Edit

def Fits (e : Edit) : Prop := e.change.Fits

/-- No patch takes anything away. -/
def RemovesNothing (e : Edit) : Prop := ∀ p, e.change = .updateNode p → p.remove = false

def withoutRemoval (e : Edit) : Edit := { e with change := e.change.withoutRemoval }

variable {e : Edit}

theorem withoutRemoval_eq_iff : e.withoutRemoval = e ↔ e.RemovesNothing := by
  obtain ⟨scope, change⟩ := e
  rw [withoutRemoval, mk.injEq, RemovesNothing]
  cases change with
  | updateNode p => simp [Change.withoutRemoval, NodePatch.withoutRemoval_eq_iff]
  | _ => simp [Change.withoutRemoval]

/-- The scope that is written, or the root. -/
theorem scope_restores (s : ScopeId) : (Record.defaulted "scope" Reader.scope ScopeId.root).Restores
    (if s.isRoot then [] else [("scope", .string s.text)]) s := by
  split
  · rename_i hroot
    obtain ⟨text⟩ := s
    obtain rfl : text = "" := of_decide_eq_true hroot
    exact .omitted rfl
  · exact .written rfl

/-- **An edit is read without a removal by a patch.** -/
theorem reader_ofJson (he : e.Fits) : reader.ofJson e.toJson = .ok e.withoutRemoval := by
  obtain ⟨scope, change⟩ := e
  have hedit := Restores.map Edit.mk (scope_restores scope)
  cases change with
  | addNode n =>
    exact (hedit.seq (.map Change.addNode (.required "node" (Node.reader_ofJson he)))).tagged
      rfl (by decide)
  | removeNode id =>
    exact (hedit.seq (.map Change.removeNode (.text "id" id))).tagged rfl (by decide)
  | updateNode p =>
    exact (hedit.seq (.map Change.updateNode
      (.required "patch" (NodePatch.reader_ofJson he)))).tagged rfl (by decide)
  | addEdge edge =>
    exact (hedit.seq (.map Change.addEdge (.required "edge" (Edge.reader_ofJson he)))).tagged
      rfl (by decide)
  | removeEdge source target =>
    exact (hedit.seq
      ((Restores.map Change.removeEdge (.text "from" source)).seq (.text "to" target))).tagged rfl
      (by decide)
  | setEntry id =>
    exact (hedit.seq (.map Change.setEntry (.text "node" id))).tagged rfl (by decide)

theorem recordOf_heeds {change : Record Change} (h : change.Heeds) : (recordOf change).Heeds :=
  (Heeds.map Edit.mk (.defaulted Reader.Heeds.text.map)).seq h

theorem reader_heeds : reader.Heeds := by
  refine Heeds.tagged fun s r hr => ?_
  unfold recordOf? at hr
  split at hr <;> cases hr
  · exact ⟨recordOf_heeds (.map _ (.required Node.reader_heeds)), by decide⟩
  · exact ⟨recordOf_heeds (.map _ (.required .text)), by decide⟩
  · exact ⟨recordOf_heeds (.map _ (.required NodePatch.reader_heeds)), by decide⟩
  · exact ⟨recordOf_heeds (.map _ (.required Edge.reader_heeds)), by decide⟩
  · exact ⟨recordOf_heeds
      ((Heeds.map Change.removeEdge (.required .text)).seq (.required .text)), by decide⟩
  · exact ⟨recordOf_heeds (.map _ (.required .text)), by decide⟩

end Edit

/-! ### Rewritten layers and edits -/

/-- What is read from the text that is written for a layer. -/
def Layer.rewritten (l : Layer) : Except Fault Layer := reader.ofText l.toJson.compact

/-- What is read from the text that is written for an edit. -/
def Edit.rewritten (e : Edit) : Except Fault Edit := reader.ofText e.toJson.compact

/-- A document whose text can be read: its numbers read back, and it does not nest too deep. -/
def Json.IsReadable (j : Json) : Prop := j.IsLegible ∧ (Document.ofJson j).depth ≤ Document.maxDepth

instance (j : Json) : Decidable j.IsReadable := inferInstanceAs (Decidable (_ ∧ _))

theorem Layer.rewritten_eq_ok_iff {l l' : Layer} (hl : l.Fits) (hj : l.toJson.IsLegible) :
    l.rewritten = .ok l' ↔ (Document.ofJson l.toJson).depth ≤ Document.maxDepth ∧
      l' = l.withoutRemovals := by
  rw [rewritten, Reader.ofText_compact_iff reader_heeds hj, reader_ofJson hl]
  exact and_congr_right fun _ => ⟨fun h => (Except.ok.inj h).symm, fun h => h ▸ rfl⟩

theorem Edit.rewritten_eq_ok_iff {e e' : Edit} (he : e.Fits) (hj : e.toJson.IsLegible) :
    e.rewritten = .ok e' ↔ (Document.ofJson e.toJson).depth ≤ Document.maxDepth ∧
      e' = e.withoutRemoval := by
  rw [rewritten, Reader.ofText_compact_iff reader_heeds hj, reader_ofJson he]
  exact and_congr_right fun _ => ⟨fun h => (Except.ok.inj h).symm, fun h => h ▸ rfl⟩

/-- Layers that remove nothing are the same when they were written and read. -/
theorem Layer.mapM_rewritten {layers : List Layer}
    (h : ∀ l ∈ layers, l.Fits ∧ l.toJson.IsReadable ∧ l.RemovesNothing) :
    layers.mapM rewritten = .ok layers := by
  refine mapM_eq_ok.2 (List.forall₂_same.2 fun l hl => ?_)
  obtain ⟨hfits, ⟨hlegible, hdepth⟩, hremoves⟩ := h l hl
  exact (rewritten_eq_ok_iff hfits hlegible).2 ⟨hdepth, (withoutRemovals_eq_iff.2 hremoves).symm⟩

/-- Edits without a removal by a patch are the same when they were written and read. -/
theorem Edit.mapM_rewritten {edits : List Edit}
    (h : ∀ e ∈ edits, e.Fits ∧ e.toJson.IsReadable ∧ e.RemovesNothing) :
    edits.mapM rewritten = .ok edits := by
  refine mapM_eq_ok.2 (List.forall₂_same.2 fun e he => ?_)
  obtain ⟨hfits, ⟨hlegible, hdepth⟩, hremoves⟩ := h e he
  exact (rewritten_eq_ok_iff hfits hlegible).2 ⟨hdepth, (withoutRemoval_eq_iff.2 hremoves).symm⟩

/-- **Layers and edits come back without their removals, and otherwise unchanged**, so they come
back as they were exactly if they remove nothing; then they merge and apply as before. -/
theorem Layer.rewritten_without_removals {layers : List Layer} {edits : List Edit}
    (hlayers : ∀ l ∈ layers, l.Fits) (hedits : ∀ e ∈ edits, e.Fits) (f : Flow) :
    (∀ l ∈ layers, reader.ofJson l.toJson = .ok l.withoutRemovals ∧
      (l.withoutRemovals = l ↔ l.RemovesNothing) ∧
      (l.toJson.IsLegible → ∀ l', l.rewritten = .ok l' ↔
        (Document.ofJson l.toJson).depth ≤ Document.maxDepth ∧ l' = l.withoutRemovals)) ∧
    (∀ e ∈ edits, Edit.reader.ofJson e.toJson = .ok e.withoutRemoval ∧
      (e.withoutRemoval = e ↔ e.RemovesNothing) ∧
      (e.toJson.IsLegible → ∀ e', e.rewritten = .ok e' ↔
        (Document.ofJson e.toJson).depth ≤ Document.maxDepth ∧ e' = e.withoutRemoval)) ∧
    ((∀ l ∈ layers, l.toJson.IsReadable ∧ l.RemovesNothing) →
      ∃ layers', layers.mapM rewritten = .ok layers' ∧ merge layers' = merge layers) ∧
    ((∀ e ∈ edits, e.toJson.IsReadable ∧ e.RemovesNothing) →
      ∃ edits', edits.mapM Edit.rewritten = .ok edits' ∧ f.edit edits' = f.edit edits) := by
  refine ⟨fun l hl => ?_, fun e he => ?_, fun h => ?_, fun h => ?_⟩
  · have hfits := hlayers l hl
    exact ⟨reader_ofJson hfits, withoutRemovals_eq_iff, fun hj _ => rewritten_eq_ok_iff hfits hj⟩
  · have hfits := hedits e he
    exact ⟨Edit.reader_ofJson hfits, Edit.withoutRemoval_eq_iff,
      fun hj _ => Edit.rewritten_eq_ok_iff hfits hj⟩
  · exact ⟨layers, mapM_rewritten fun l hl => ⟨hlayers l hl, h l hl⟩, rfl⟩
  · exact ⟨edits, Edit.mapM_rewritten fun e he => ⟨hedits e he, h e he⟩, rfl⟩

/-! ### Removals that are lost -/

namespace Samples

theorem patch_fits {p : NodePatch} (hpriority : p.priority = none) (hui : p.ui = none) : p.Fits :=
  ⟨by simp [hpriority], by simp [hui]⟩

/-- A patch that sets a prompt. -/
def rephrase : NodePatch := { id := "ask", prompt := some "How may we help?" }

/-- A layer and an edit that set a prompt come back unchanged. -/
theorem rephrase_rewritten :
    let l : Layer := { tier := .tenant, graph := { nodes := [rephrase] } }
    let e : Edit := { change := .updateNode rephrase }
    (l.Fits ∧ l.toJson.IsReadable ∧ l.RemovesNothing) ∧
      (e.Fits ∧ e.toJson.IsReadable ∧ e.RemovesNothing) ∧
      Layer.reader.ofJson l.toJson = .ok l ∧ l.rewritten = .ok l ∧
      Edit.reader.ofJson e.toJson = .ok e ∧ e.rewritten = .ok e ∧
      (∃ layers', [l].mapM Layer.rewritten = .ok layers' ∧ Layer.merge layers' = Layer.merge [l]) ∧
      ∃ edits', [e].mapM Edit.rewritten = .ok edits' ∧
        houseFlow.edit edits' = houseFlow.edit [e] := by
  intro l e
  have hl : l.Fits ∧ l.toJson.IsReadable ∧ l.RemovesNothing :=
    ⟨.mk (List.forall_mem_singleton.2 (patch_fits rfl rfl)) nofun .nil nofun, by decide +kernel,
      .mk (List.forall_mem_singleton.2 rfl) nofun nofun⟩
  have he : e.Fits ∧ e.toJson.IsReadable ∧ e.RemovesNothing :=
    ⟨patch_fits rfl rfl, by decide +kernel, fun p hp => by cases hp; rfl⟩
  obtain ⟨hlayer, hedit, hmerge, happly⟩ := Layer.rewritten_without_removals
    (List.forall_mem_singleton.2 hl.1) (List.forall_mem_singleton.2 he.1) houseFlow
  obtain ⟨hread, hsame, htext⟩ := hlayer l (List.mem_singleton_self l)
  obtain ⟨hread', hsame', htext'⟩ := hedit e (List.mem_singleton_self e)
  exact ⟨hl, he, by rw [hread, hsame.2 hl.2.2],
    (htext hl.2.1.1 l).2 ⟨hl.2.1.2, (hsame.2 hl.2.2).symm⟩, by rw [hread', hsame'.2 he.2.2],
    (htext' he.2.1.1 e).2 ⟨he.2.1.2, (hsame'.2 he.2.2).symm⟩,
    hmerge (List.forall_mem_singleton.2 hl.2), happly (List.forall_mem_singleton.2 he.2)⟩

theorem houseRules_fit : ∀ l ∈ houseRules, l.Fits := by
  refine List.forall_mem_cons.2
    ⟨.mk ?_ nofun .nil nofun, List.forall_mem_singleton.2 (.mk ?_ ?_ .nil nofun)⟩
  · exact List.forall_mem_cons.2
      ⟨patch_fits rfl rfl, List.forall_mem_singleton.2 (patch_fits rfl rfl)⟩
  · exact List.forall_mem_cons.2 ⟨patch_fits rfl rfl, List.forall_mem_cons.2 ⟨patch_fits rfl rfl,
      List.forall_mem_singleton.2 (patch_fits rfl rfl)⟩⟩
  · exact List.forall_mem_cons.2 ⟨nofun, List.forall_mem_singleton.2 nofun⟩

/-- The flow that the house rules make without their removal. -/
def politeFlow : Flow where
  version := 1
  entry := some "greet"
  nodes := [.question "ask" "topic" "How may we help?", .terminal "end", .action "greet"]
  edges := [.always "greet" "ask", .always "ask" "end"]

theorem merge_withoutRemovals :
    Layer.merge (houseRules.map Layer.withoutRemovals) = .ok ⟨politeFlow, [houseConflict]⟩ := by
  cbv

/-- A removal by a patch, which edits do not allow. -/
def removal : Edit := { change := .updateNode { id := "ask", remove := true } }

theorem removal_fits : removal.Fits := patch_fits rfl rfl

/-- The tenant's layer comes back without its removal, and the greeting is back; the patch comes
back without its removal, and is no longer refused. -/
theorem removal_lost :
    ((∀ l ∈ houseRules, l.Fits ∧ l.toJson.IsReadable) ∧ ∃ layers',
      houseRules.mapM Layer.rewritten = .ok layers' ∧
      layers' ≠ houseRules ∧ Layer.merge layers' ≠ Layer.merge houseRules) ∧
    (removal.Fits ∧ removal.toJson.IsReadable) ∧ ∃ e', removal.rewritten = .ok e' ∧
      e' ≠ removal ∧ houseFlow.edit [e'] ≠ houseFlow.edit [removal] := by
  have hreadable : ∀ l ∈ houseRules, l.toJson.IsReadable := by
    decide +kernel
  have hremoval : removal.toJson.IsReadable := by
    decide +kernel
  have hlayers : houseRules.mapM Layer.rewritten = .ok (houseRules.map Layer.withoutRemovals) := by
    refine mapM_eq_ok.2 (List.forall₂_map_right_iff.2 (List.forall₂_same.2 fun l hl => ?_))
    obtain ⟨hlegible, hdepth⟩ := hreadable l hl
    exact (Layer.rewritten_eq_ok_iff (houseRules_fit l hl) hlegible).2 ⟨hdepth, rfl⟩
  have hmerge : Layer.merge (houseRules.map Layer.withoutRemovals) ≠ Layer.merge houseRules := by
    rw [merge_withoutRemovals, merge_houseRules]
    intro heq
    have hentry := congrArg (fun m => m.flow.nodes.length) (Except.ok.inj heq)
    exact absurd hentry (by decide)
  have hedit : houseFlow.edit [removal.withoutRemoval] ≠ houseFlow.edit [removal] := by
    have hrefused : houseFlow.edit [removal] = .error ⟨0, .removalByPatch⟩ := rfl
    have happlied : houseFlow.edit [removal.withoutRemoval] = .ok houseFlow := by
      cbv
    rw [hrefused, happlied]
    intro heq
    cases heq
  refine ⟨⟨fun l hl => ⟨houseRules_fit l hl, hreadable l hl⟩, _, hlayers,
    fun heq => hmerge (by rw [heq]), hmerge⟩, ⟨removal_fits, hremoval⟩, removal.withoutRemoval, ?_,
      fun heq => hedit (by rw [heq]), hedit⟩
  exact (Edit.rewritten_eq_ok_iff removal_fits hremoval.1).2 ⟨hremoval.2, rfl⟩

end Samples

end Parley
