import Parley.Proofs.Conversation.Restored
import Parley.Proofs.Json.Compact
import Parley.Samples
import Parley.Store.Basic

/-!
# What a store writes, it reads again

A store that keeps documents finds a flow and a conversation as they were given to it, if their
documents nest no deeper than a reader goes.  It takes deeper ones as well, but never finds them
again.

* `Store.restores_iff`: which flows and conversations are found again;
* `Samples.boxed`: a flow whose presentation nests as deep as one likes;
* `Samples.published_not_found`: such a flow is published and never found.
-/

namespace Parley

open Json

namespace Store

variable {s : Store}

theorem kept_of_memory (hs : s.backend = .memory) (f : Flow) : s.kept f = .ok f := by
  rw [kept, hs]

theorem keptConversation_of_memory (hs : s.backend = .memory) (c : Conversation) :
    s.keptConversation c = .ok c := by
  rw [keptConversation, hs]

/-- What is found of a flow whose document is written and read. -/
theorem kept_sqlite_iff (hs : s.backend = .sqlite) {f f' : Flow} (hf : f.Fits)
    (hlegible : f.toJson.IsLegible) :
    s.kept f = .ok f' ↔ (Document.ofJson f.toJson).depth ≤ Document.maxDepth ∧ f' = f := by
  rw [kept, hs, mapError_eq_ok, Reader.ofText_compact_iff Flow.reader_heeds hlegible,
    Flow.reader_ofJson hf]
  exact and_congr_right fun _ => ⟨fun h => (Except.ok.inj h).symm, fun h => h ▸ rfl⟩

theorem keptConversation_sqlite_iff (hs : s.backend = .sqlite) {c c' : Conversation} (hc : c.Fits)
    (hlegible : c.toJson.IsLegible) :
    s.keptConversation c = .ok c' ↔ (Document.ofJson c.toJson).depth ≤ Document.maxDepth ∧
      c' = c := by
  rw [keptConversation, hs, mapError_eq_ok,
    Reader.ofText_compact_iff Conversation.reader_heeds hlegible, Conversation.reader_ofJson hc]
  exact and_congr_right fun _ => ⟨fun h => (Except.ok.inj h).symm, fun h => h ▸ rfl⟩

/-- **What is written is read again**, by value always, and by text if it does not nest too deep: a
flow or a conversation that does is never found. -/
theorem restores_iff (s : Store) :
    (∀ f : Flow, f.Fits → Flow.reader.ofJson f.toJson = .ok f ∧
      (f.toJson.IsLegible →
        (s.kept f = .ok f ↔ s.backend = .memory ∨
          (Document.ofJson f.toJson).depth ≤ Document.maxDepth))) ∧
    ∀ c : Conversation, c.Fits → Conversation.reader.ofJson c.toJson = .ok c ∧
      (c.toJson.IsLegible →
        (s.keptConversation c = .ok c ↔
          s.backend = .memory ∨ (Document.ofJson c.toJson).depth ≤ Document.maxDepth)) := by
  refine ⟨fun f hf => ⟨Flow.reader_ofJson hf, fun hlegible => ?_⟩,
    fun c hc => ⟨Conversation.reader_ofJson hc, fun hlegible => ?_⟩⟩
  · cases hs : s.backend with
    | memory => exact iff_of_true (kept_of_memory hs f) (.inl rfl)
    | sqlite => simp [kept_sqlite_iff hs hf hlegible]
  · cases hs : s.backend with
    | memory => exact iff_of_true (keptConversation_of_memory hs c) (.inl rfl)
    | sqlite => simp [keptConversation_sqlite_iff hs hc hlegible]

end Store

/-! ### Found again, and never found -/

namespace Samples

/-- A node without a priority and without a presentation. -/
theorem node_fits {n : Node} (hpriority : n.priority = none) (hui : n.ui = none) : n.Fits :=
  ⟨by simp [hpriority], by simp [hui]⟩

theorem side_fits : side.Fits :=
  .mk (Nat.two_pow_pos 64) (List.forall_mem_singleton.2 (node_fits rfl rfl))
    (List.forall_mem_singleton.2 nofun) nofun
    .nil nofun

theorem detour_fits : (detour 1).Fits :=
  .mk (by decide : 1 < 2 ^ 64)
    (List.forall_mem_cons.2 ⟨node_fits rfl rfl, List.forall_mem_cons.2 ⟨node_fits rfl rfl,
      List.forall_mem_singleton.2 (node_fits rfl rfl)⟩⟩)
    (List.forall_mem_cons.2 ⟨nofun, List.forall_mem_singleton.2 nofun⟩) nofun
      (List.pairwise_singleton _ _)
    (List.forall_mem_singleton.2 side_fits)

/-- A conversation on a path of its own choice. -/
def seated : Conversation where
  flow := "qualification"
  version := 1
  position := ⟨"seats", [⟨⟨"smb"⟩, "fork"⟩]⟩
  path := { active := some "smb", votes := [("smb", .ofNat 1)] }
  turn := 3
  answers := [("name", ⟨.string "Ada", 1, .ofNat 1⟩)]
  context := [("plan", .string "trial")]

theorem seated_fits : seated.Fits where
  version := by decide
  path := ⟨List.pairwise_singleton _ _, by decide +kernel⟩
  turn := by decide
  keys := List.pairwise_singleton _ _
  answers := List.forall_mem_singleton.2 ⟨rfl, by decide, by decide +kernel, by decide +kernel⟩
  context := rfl

/-- A flow with a subgraph and a conversation are found again. -/
theorem restores_detour :
    (detour 1).Fits ∧ (detour 1).toJson.IsLegible ∧ seated.Fits ∧ seated.toJson.IsLegible ∧
      Flow.reader.ofJson (detour 1).toJson = .ok (detour 1) ∧
      Store.kept { backend := .sqlite } (detour 1) = .ok (detour 1) ∧
      Conversation.reader.ofJson seated.toJson = .ok seated ∧
      Store.keptConversation { backend := .sqlite } seated = .ok seated := by
  have hdetour : (detour 1).toJson.IsLegible := by decide +kernel
  have hseated : seated.toJson.IsLegible := by decide +kernel
  obtain ⟨hflow, hconversation⟩ := Store.restores_iff { backend := .sqlite }
  obtain ⟨hread, hkept⟩ := hflow (detour 1) detour_fits
  obtain ⟨hread', hkept'⟩ := hconversation seated seated_fits
  exact ⟨detour_fits, hdetour, seated_fits, hseated, hread,
    (hkept hdetour).2 (.inr (by decide)), hread', (hkept' hseated).2 (.inr (by decide +kernel))⟩

/-- An empty box in so many boxes. -/
def boxes : Nat → Json
  | 0 => .array []
  | n + 1 => .array [boxes n]

/-- A flow with boxes in its presentation. -/
def boxed (n : Nat) : Flow where
  id := "boxed"
  version := 1
  nodes := [{ Node.terminal "end" with ui := some [("boxes", boxes n)] }]

theorem sorted_boxes (n : Nat) : (boxes n).sorted = boxes n := by
  induction n with
  | zero => rfl
  | succ n ih => rw [boxes, sorted, sortedItems, sortedItems, ih]

theorem numbers_boxes (n : Nat) : (boxes n).numbers = [] := by
  induction n with
  | zero => rfl
  | succ n ih => rw [boxes, numbers, numbersInItems, numbersInItems, ih, List.append_nil]

theorem depth_boxes (n : Nat) : (Document.ofJson (boxes n)).depth = n + 1 := by
  induction n with
  | zero => rfl
  | succ n ih => rw [boxes, Document.ofJson, Document.ofItems, Document.ofItems, Document.depth,
      Document.depthItems, Document.depthItems, ih, Nat.max_zero]

theorem boxed_fits (n : Nat) : (boxed n).Fits := by
  have hui : (Json.object [("boxes", boxes n)]).IsSorted := by
    rw [IsSorted, sorted, sortedMembers, sortedMembers, sorted_boxes]
    rfl
  exact .mk (by decide : 1 < 2 ^ 64)
    (List.forall_mem_singleton.2 ⟨nofun, fun members h => Option.some.inj h ▸ hui⟩)
    nofun nofun .nil nofun

theorem toJson_boxed (n : Nat) :
    (boxed n).toJson = .object [("id", .string "boxed"), ("version", .nat 1),
      ("nodes", .array [.object [("id", .string "end"), ("type", .string NodeKind.terminal.name),
      ("ui", .object [("boxes", boxes n)])]]), ("edges", .array [])] := by
  rfl

theorem boxed_legible (n : Nat) : (boxed n).toJson.IsLegible := by
  have hnumbers : (boxed n).toJson.numbers = [.int 1] := by
    simp [toJson_boxed, Json.nat, numbers, numbersInMembers, numbersInItems, numbers_boxes]
  intro m hm
  rw [hnumbers] at hm
  obtain rfl := List.mem_singleton.1 hm
  exact readsBack_nat (by decide)

theorem depth_boxed (n : Nat) : (Document.ofJson (boxed n).toJson).depth = n + 5 := by
  rw [toJson_boxed]
  simp only [Json.nat, Document.ofJson, Document.ofItems, Document.ofMembers, Document.depth,
    Document.depthItems, Document.depthMembers, depth_boxes]
  omega

/-- The store after a flow with a good many boxes was published. -/
def boxStore : Store := { backend := .sqlite, flows := [(⟨"acme", "boxed"⟩, [boxed 123])] }

/-- The flow is published, and it is never found. -/
theorem published_not_found :
    (boxed 123).Fits ∧ (boxed 123).toJson.IsLegible ∧
      Store.publish { backend := .sqlite } "acme" (boxed 123) none = .ok (boxStore, .published) ∧
      ∀ found, boxStore.latest ⟨"acme", "boxed"⟩ ≠ .ok found := by
  refine ⟨boxed_fits 123, boxed_legible 123, rfl, fun found hfound => ?_⟩
  have hlatest : (some (boxed 123)).mapM boxStore.kept = .ok found := hfound
  rcases option_mapM_eq_ok.1 hlatest with ⟨hnone, -⟩ | ⟨f, f', hf, hkept, -⟩
  · cases hnone
  · cases hf
    obtain ⟨hdepth, -⟩ := (Store.kept_sqlite_iff rfl (boxed_fits 123) (boxed_legible 123)).1 hkept
    rw [depth_boxed] at hdepth
    exact absurd hdepth (by decide)

end Samples

end Parley
