import Parley.Proofs.Flow.EdgeNames
import Parley.Proofs.Store.Kept
import Parley.Proofs.Store.Restored

/-!
# The names of edges in a store

A store that keeps documents need not find a flow as it was.  But each edge that it finds has the
name of the edge that was kept in its place, so that edges which could be told apart still can.

* `Edge.key_of_document`: an edge is read with its name;
* `Store.kept_hasDistinctEdges`.
-/

namespace Parley

open Json

/-! ### Members of documents -/

namespace Json

theorem documents_eq_map (items : List Json) : documents items = items.map document := by
  induction items with
  | nil => rfl
  | cons j r ih => rw [documents, ih, List.map_cons]

theorem memberDocuments_eq_map (members : List (String × Json)) :
    memberDocuments members = members.map fun m => (m.1, document m.2) := by
  induction members with
  | nil => rfl
  | cons m r ih =>
    obtain ⟨k, j⟩ := m
    rw [memberDocuments, ih, List.map_cons]

variable {α : Type} {name : String} {r : Reader α} {members : List (String × Json)}
    {positional : Bool} {j : Json}
  {a : α}

/-- A field is read from the member with its name, if it was written. -/
theorem Record.field_of_written {missing : Bool → Option α} (hget : Dict.get? members name = some j)
    (h : (Record.field name r missing).read ⟨memberDocuments members, positional⟩ = .ok a) :
    r j.document = .ok a := by
  have hfind := Fields.find?_map document members positional name
  rw [hget, ← memberDocuments_eq_map] at hfind
  obtain ⟨⟨i, d⟩, hfind, rfl⟩ := Option.map_eq_some_iff.1 hfind
  exact field_eq_ok hfind h

/-- A field that was left out has its own value. -/
theorem Record.field_of_omitted {missing : Bool → Option α} (hget : Dict.get? members name = none)
    (h : (Record.field name r missing).read ⟨memberDocuments members, positional⟩ = .ok a) :
    missing positional = some a := by
  have hfind := Fields.find?_map document members positional name
  rw [hget, ← memberDocuments_eq_map, Option.map_none, Option.map_eq_none_iff] at hfind
  simp only [Record.field, hfind] at h
  split at h
  · rename_i heq
    exact heq.trans (congrArg some (Except.ok.inj h))
  · cases h

/-- An optional text is read as it was written, or left out. -/
theorem Record.optional_text {o o' : Option String} (hget : Dict.get? members name = o.map .string)
    (h : (Record.optional name .text).read ⟨memberDocuments members, positional⟩ = .ok o') :
    o' = o := by
  unfold Record.optional Record.defaulted at h
  cases o with
  | none =>
    have homitted := Record.field_of_omitted hget h
    cases homitted
    rfl
  | some s =>
    have hread := Record.field_of_written hget h
    cases hread
    rfl

theorem Reader.list_documents {items : List Json} {as : List α}
    (h : Reader.list r (Json.array items).document = .ok as) :
    List.Forall₂ (fun j a => r j.document = .ok a) items as := by
  obtain ⟨_, hitems, hstop⟩ := bind_eq_ok.1 h
  cases hstop
  rw [documents_eq_map] at hitems
  exact List.forall₂_map_left_iff.1 (mapM_eq_ok.1 hitems)

/-- Whatever stands in an object that was read is read from a member of the same name. -/
theorem Reader.dict_documents {d : Dict α}
    (h : Reader.dict r (Json.object members).document = .ok d) {e : String × α} (he : e ∈ d) :
    ∃ m ∈ members, m.1 = e.1 ∧ r m.2.document = .ok e.2 := by
  obtain ⟨entries, hentries, hstop⟩ := bind_eq_ok.1 h
  cases hstop
  rw [memberDocuments_eq_map] at hentries
  obtain ⟨m, hm, hread⟩ :=
    exists_of_forall₂_right (List.forall₂_map_left_iff.1 (mapM_eq_ok.1 hentries))
      (Dict.mem_of_mem_ofList he)
  obtain ⟨a, ha, rfl⟩ := map_eq_ok.1 hread
  exact ⟨m, hm, rfl, ha⟩

end Json

/-! ### Edges and flows -/

/-- An edge that was written and is read has kept its name. -/
theorem Edge.key_of_document {e e' : Edge} (h : reader e.toJson.document = .ok e') :
    e'.key = e.key := by
  have hread := reader_eq_ok h
  simp only [record, Record.read_seq, Record.read_map] at hread
  -- the fields are applied one after the other, the id innermost
  obtain ⟨_, _, hreentrant, -, rfl⟩ := both_eq_ok.1 hread
  obtain ⟨_, _, honInvalid, -, rfl⟩ := both_eq_ok.1 hreentrant
  obtain ⟨_, _, hguard, -, rfl⟩ := both_eq_ok.1 honInvalid
  obtain ⟨_, _, hends, -, rfl⟩ := both_eq_ok.1 hguard
  obtain ⟨_, target, hsources, htarget, rfl⟩ := both_eq_ok.1 hends
  obtain ⟨_, source, hids, hsource, rfl⟩ := both_eq_ok.1 hsources
  obtain ⟨_, id, hmk, hid, rfl⟩ := both_eq_ok.1 hids
  cases hmk
  have hid : id = e.id := Record.optional_text (by simp [Dict.get?_append, Dict.get?]) hid
  have hsource :=
    Record.field_of_written (j := .string e.source) (by simp [Dict.get?_append, Dict.get?]) hsource
  have htarget :=
    Record.field_of_written (j := .string e.target) (by simp [Dict.get?_append, Dict.get?]) htarget
  cases hsource
  cases htarget
  rw [key, key, hid]

namespace Flow

variable {n : Nat} {f f' : Flow}

/-- What is read of the document of a flow, one scope further in. -/
theorem readerBelow_document (h : readerBelow (n + 1) f.toJson.document = .ok f') :
    f'.edges.map Edge.key = f.edges.map Edge.key ∧
      ∀ s' ∈ f'.subgraphs, ∃ s ∈ f.subgraphs, readerBelow n s.2.toJson.document = .ok s'.2 := by
  obtain ⟨id, version, entry, nodes, edges, subgraphs, record⟩ := f
  rw [toJson, subgraphsToJson_eq] at h
  have hread := reader_eq_ok h
  simp only [Record.read_seq, Record.read_map] at hread
  -- the fields are applied one after the other, the id innermost
  obtain ⟨_, _, hsubgraph, -, rfl⟩ := both_eq_ok.1 hread
  obtain ⟨_, subgraphs', hedge, hsubgraphs, rfl⟩ := both_eq_ok.1 hsubgraph
  obtain ⟨_, edges', hnode, hedges, rfl⟩ := both_eq_ok.1 hedge
  obtain ⟨_, _, hentry, -, rfl⟩ := both_eq_ok.1 hnode
  obtain ⟨_, _, hversion, -, rfl⟩ := both_eq_ok.1 hentry
  obtain ⟨_, _, hid, -, rfl⟩ := both_eq_ok.1 hversion
  obtain ⟨_, _, hmk, -, rfl⟩ := both_eq_ok.1 hid
  cases hmk
  constructor
  · have hwritten := Record.field_of_written (j := .array (edges.map Edge.toJson))
      (by simp [Dict.get?_append, Dict.get?]) hedges
    have hlist := List.forall₂_map_left_iff.1 (Reader.list_documents hwritten)
    exact (map_eq_map_of_forall₂ (hlist.imp fun _ _ he => (Edge.key_of_document he).symm)).symm
  · intro s' hs'
    cases hempty : subgraphs.isEmpty with
    | true =>
      have homitted :=
        Record.field_of_omitted (by simp [Dict.get?_append, Dict.get?, hempty]) hsubgraphs
      cases homitted
      cases hs'
    | false =>
      have hwritten := Record.field_of_written (j := .object (Dict.mapValues subgraphs toJson))
        (by simp [Dict.get?_append, Dict.get?, hempty]) hsubgraphs
      obtain ⟨m, hm, -, hread⟩ := Reader.dict_documents hwritten hs'
      obtain ⟨s, hs, rfl⟩ := List.mem_map.1 hm
      exact ⟨s, hs, hread⟩

theorem readerBelow_hasDistinctEdges (h : readerBelow n f.toJson.document = .ok f')
    (hf : f.HasDistinctEdges) :
    f'.HasDistinctEdges := by
  induction n generalizing f f' with
  | zero => cases h
  | succ n ih =>
    obtain ⟨hedges, hbelow⟩ := hasDistinctEdges_iff.1 hf
    obtain ⟨hkeys, hsubgraphs⟩ := readerBelow_document h
    refine hasDistinctEdges_iff.2 ⟨hkeys ▸ hedges, fun s' hs' => ?_⟩
    obtain ⟨s, hs, hread⟩ := hsubgraphs s' hs'
    exact ih hread (hbelow s hs)

end Flow

/-- **What a store finds of a flow has edges that can be told apart**, if what was kept has. -/
theorem Store.kept_hasDistinctEdges {s : Store} {f f' : Flow} (h : s.kept f = .ok f')
    (hf : f.HasDistinctEdges) :
    f'.HasDistinctEdges := by
  cases hs : s.backend with
  | memory =>
    rw [kept_of_memory hs] at h
    exact Except.ok.inj h ▸ hf
  | sqlite =>
    rw [kept, hs] at h
    exact Flow.readerBelow_hasDistinctEdges
      ((Reader.ofText_compact Flow.reader_heeds).1 (mapError_eq_ok.1 h)).2 hf

end Parley
