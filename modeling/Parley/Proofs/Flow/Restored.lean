import Parley.Flow.Codec
import Parley.Proofs.Json.Faults
import Parley.Proofs.Json.Restored

/-!
# Flows restored from documents

What a flow leaves out when it is written is what its reader makes up for: a flow whose numbers fit
their types and whose objects are sorted is read as it was written, whatever is left out and however
deep its subgraphs nest.

* `Node.Fits`, `Edge.Fits`, `VersionRecord.Fits`, `Flow.Fits`: values of the types that they are
  kept in;
* `Node.reader_ofJson`, `Edge.reader_ofJson`, `Flow.reader_ofJson`: they are restored.
-/

namespace Parley

open Json

theorem NodeKind.ofName?_name (k : NodeKind) : NodeKind.ofName? k.name = some k := by
  cases k <;> rfl

namespace Json.Reader

theorem nodeKind_ofJson (k : NodeKind) : nodeKind.ofJson (.string k.name) = .ok k :=
  choice_ofJson k.ofName?_name

theorem timestamp_ofJson {t : Timestamp} (h : Timestamp.parse? t.text = some t) :
    timestamp.ofJson (.string t.text) = .ok t := by
  simp only [ofJson, Document.ofJson, timestamp, text, bind, Except.bind, h, Option.elim_some]

end Json.Reader

/-! ### Nodes and edges -/

/-- The priority is an integer of 64 bits, and the presentation is sorted. -/
structure Node.Fits (n : Node) : Prop where
  priority : ∀ i ∈ n.priority, IsInt64 i
  ui : ∀ members ∈ n.ui, (Json.object members).IsSorted

/-- The priority is an integer of 64 bits. -/
def Edge.Fits (e : Edge) : Prop := ∀ i ∈ e.priority, IsInt64 i

open Record in
theorem Node.record_restores {n : Node} (hn : n.Fits) : record.Restores n.toJson.members n :=
  Restores.map Node.mk (.text "id" n.id)
    |>.seq (.required "type" (Reader.nodeKind_ofJson n.kind))
    |>.seq (.textIfSome "key" n.key)
    |>.seq (.textIfSome "prompt" n.prompt)
    |>.seq (.textIfSome "guard" n.guard)
    |>.seq (.textIfSome "when" n.when)
    |>.seq (.ifAny "depends_on" n.dependsOn)
    |>.seq (.ifAny "extra_guards" n.extraGuards)
    |>.seq (.textIfSome "validator" n.validator)
    |>.seq (.textIfSome "subgraph" n.subgraph)
    |>.seq (.ifAny "paths" n.paths)
    |>.seq (.ifTrue "reentrant" n.reentrant)
    |>.seq (.intIfSome "priority" hn.priority)
    |>.seq (.objectIfSome "ui" hn.ui)

theorem Node.names_nodup : record.names.Nodup := by
  decide

theorem Node.reader_ofJson {n : Node} (hn : n.Fits) : Node.reader.ofJson n.toJson = .ok n :=
  (record_restores hn).reader names_nodup

open Record in
theorem Node.reader_heeds : Node.reader.Heeds := by
  have hheeds : record.Heeds :=
    Heeds.map Node.mk (.required .text)
      |>.seq (.required (.choice _))
      |>.seq (.optional .text) |>.seq (.optional .text) |>.seq (.optional .text)
      |>.seq (.optional .text)
      |>.seq (.defaulted (.list .text)) |>.seq (.defaulted (.list .text))
      |>.seq (.optional .text) |>.seq (.optional .text) |>.seq (.defaulted (.list .text))
      |>.seq (.defaulted .bool) |>.seq (.optional (.intBetween _ _)) |>.seq (.optional .jsonObject)
  exact hheeds.reader names_nodup

open Record in
theorem Edge.reader_ofJson {e : Edge} (he : e.Fits) : Edge.reader.ofJson e.toJson = .ok e := by
  have hrestores : record.Restores _ e :=
    Restores.map Edge.mk (.textIfSome "id" e.id)
      |>.seq (.text "from" e.source)
      |>.seq (.text "to" e.target)
      |>.seq (.textIfSome "guard" e.guard)
      |>.seq (.ifTrue "on_invalid" e.onInvalid)
      |>.seq (.ifTrue "reentrant" e.reentrant)
      |>.seq (.intIfSome "priority" he)
  rw [toJson, List.append_cons (memberIfSome "id" .string e.id)]
  exact hrestores.reader (by decide)

open Record in
theorem Edge.reader_heeds : Edge.reader.Heeds := by
  have hheeds : record.Heeds :=
    Heeds.map Edge.mk (.optional .text)
      |>.seq (.required .text) |>.seq (.required .text) |>.seq (.optional .text)
      |>.seq (.defaulted .bool) |>.seq (.defaulted .bool) |>.seq (.optional (.intBetween _ _))
  exact hheeds.reader (by decide)

/-! ### Flows -/

/-- The versions are numbers of 64 bits, and the text of the time is read back. -/
structure VersionRecord.Fits (r : VersionRecord) : Prop where
  version : r.version < 2 ^ 64
  predecessor : ∀ v ∈ r.predecessor, v < 2 ^ 64
  createdAt : Timestamp.parse? r.createdAt.text = some r.createdAt

open Record in
theorem VersionRecord.reader_ofJson {r : VersionRecord} (hr : r.Fits) :
    VersionRecord.reader.ofJson r.toJson = .ok r := by
  have hrestores : record.Restores _ r :=
    Restores.map VersionRecord.mk (.required "version" (Reader.natBits_ofJson hr.version))
      |>.seq (.ofOption "predecessor" .nat (fun _ _ => nofun) fun v hv =>
        Reader.natBits_ofJson (hr.predecessor v hv))
      |>.seq (.text "description" r.description)
      |>.seq (.ofOption "author" .string (fun _ _ => nofun) fun _ _ => rfl)
      |>.seq (.text "change_id" r.changeId)
      |>.seq (.required "created_at" (Reader.timestamp_ofJson hr.createdAt))
  exact hrestores.reader (by decide)

open Record in
theorem VersionRecord.reader_heeds : VersionRecord.reader.Heeds := by
  have hheeds : record.Heeds :=
    Heeds.map VersionRecord.mk (.required (.natBits 64))
      |>.seq (.optional (.natBits 64)) |>.seq (.required .text) |>.seq (.optional .text)
      |>.seq (.required .text)
      |>.seq (.required Reader.Heeds.text.bind)
  exact hheeds.reader (by decide)

/-- All numbers of a flow fit their types, the subgraphs are sorted by name, and times are read
back; so in each subgraph. -/
inductive Flow.Fits : Flow → Prop
  | mk {f : Flow} (version : f.version < 2 ^ 64) (nodes : ∀ n ∈ f.nodes, n.Fits)
      (edges : ∀ e ∈ f.edges, e.Fits) (record : ∀ r ∈ f.record, r.Fits)
        (names : Dict.Ordered f.subgraphs) (below : ∀ s ∈ f.subgraphs, s.2.Fits) :
      f.Fits

namespace Flow

theorem subgraphsToJson_eq (subgraphs : List (String × Flow)) :
    subgraphsToJson subgraphs = Dict.mapValues subgraphs toJson := by
  induction subgraphs with
  | nil => rfl
  | cons s r ih =>
    obtain ⟨name, f⟩ := s
    rw [subgraphsToJson, ih]
    rfl

theorem names_nodup : ["id", "version", "entry", "nodes", "edges", "subgraphs", "meta"].Nodup := by
  decide

open Record in
/-- A flow is restored if its subgraphs are. -/
theorem readerBelow_succ {n : Nat} {f : Flow} (hf : f.Fits)
    (hsub : ∀ s ∈ f.subgraphs, (readerBelow n).ofJson s.2.toJson = .ok s.2) :
    (readerBelow (n + 1)).ofJson f.toJson = .ok f := by
  obtain ⟨version, nodes, edges, record, names, -⟩ := hf
  obtain ⟨id, v, entry, ns, es, subgraphs, r⟩ := f
  have hrecord : (Record.optional "meta" VersionRecord.reader).Restores
      (memberIfSome "meta" VersionRecord.toJson r) r :=
    .ifSome "meta" VersionRecord.toJson (fun _ _ => nofun) fun r hr =>
      VersionRecord.reader_ofJson (record r hr)
  rw [toJson, subgraphsToJson_eq, List.append_cons _ ("nodes", _)]
  exact (Restores.map Flow.mk (.defaulted "id" rfl)
      |>.seq (.defaulted "version" (Reader.natBits_ofJson version))
      |>.seq (.textIfSome "entry" entry)
      |>.seq (.defaulted "nodes" (Reader.list_ofJson fun n hn => Node.reader_ofJson (nodes n hn)))
      |>.seq (.defaulted "edges" (Reader.list_ofJson fun e he => Edge.reader_ofJson (edges e he)))
      |>.seq (.dictIfAny "subgraphs" names hsub)
      |>.seq hrecord).reader names_nodup

/-- A subgraph nests less deep than the flow around it. -/
theorem depth_lt_of_mem {f : Flow} {s : String × Flow} (hs : s ∈ f.subgraphs) :
    (Document.ofJson s.2.toJson).depth < (Document.ofJson f.toJson).depth := by
  obtain ⟨id, v, entry, ns, es, subgraphs, r⟩ := f
  rw [toJson, subgraphsToJson_eq]
  exact Document.depth_lt_of_mem_dict hs
    (List.subset_append_of_subset_left _
      (List.subset_append_of_subset_right _ (List.Subset.refl _)))

theorem readerBelow_toJson (n : Nat) {f : Flow} (hf : f.Fits)
    (hn : (Document.ofJson f.toJson).depth < n) :
    (readerBelow n).ofJson f.toJson = .ok f := by
  induction n generalizing f with
  | zero => exact absurd hn (Nat.not_lt_zero _)
  | succ n ih =>
    refine readerBelow_succ hf fun s hs =>
      ih ?_ ((depth_lt_of_mem hs).trans_le (Nat.le_of_lt_succ hn))
    obtain ⟨-, -, -, -, -, below⟩ := hf
    exact below s hs

/-- **A flow is read as it was written.** -/
theorem reader_ofJson {f : Flow} (hf : f.Fits) : Flow.reader.ofJson f.toJson = .ok f :=
  readerBelow_toJson _ hf (Nat.lt_succ_self _)

open Record in
theorem readerBelow_heeds (n : Nat) : (readerBelow n).Heeds := by
  induction n with
  | zero => exact fun _ _ => nofun
  | succ n ih =>
    exact (Heeds.map Flow.mk (.defaulted .text)
      |>.seq (.defaulted (.natBits 64)) |>.seq (.optional .text)
      |>.seq (.defaulted Node.reader_heeds.list) |>.seq (.defaulted Edge.reader_heeds.list)
      |>.seq (.defaulted ih.dict) |>.seq (.optional VersionRecord.reader_heeds)).reader names_nodup

theorem reader_heeds : Flow.reader.Heeds := fun d => readerBelow_heeds (d.depth + 1) d

end Flow

end Parley
