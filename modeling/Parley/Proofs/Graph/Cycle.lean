import Parley.Graph.Cycle
import Parley.Proofs.Checked

/-!
# The search for cycles

A search finds a closed walk, or it leaves its points in an order in which arcs lead onward only.
So it finds nothing just when no point can be come back to.

* `Arc`, `ClosedWalk.IsGenuine`: walks along arcs;
* `Settled`, `pointsAfter`: the order that a search leaves, and how far from its end a point stands;
* `visit_spec`, `findCycle_spec`: what a search does;
* `findCycle_eq_ok_iff`, `exists_rank_of_findCycle`.
-/

namespace Parley

variable {α β : Type} {arcs : α → List (β × α)}

/-- One point has an arc to another. -/
def Arc (arcs : α → List (β × α)) (a b : α) : Prop := ∃ label, (label, b) ∈ arcs a

/-! ### Closed walks -/

/-- The points of a closed walk follow each other along arcs, and the arc with its label leads from
the last of them back to the first. -/
structure ClosedWalk.IsGenuine (arcs : α → List (β × α)) (w : ClosedWalk α β) : Prop where
  chain : w.points.IsChain (Arc arcs)
  first : w.points.head? = some w.closing
  last : ∃ a, w.points.getLast? = some a ∧ (w.label, w.closing) ∈ arcs a

/-- Whoever goes around a closed walk comes back. -/
theorem ClosedWalk.IsGenuine.transGen {w : ClosedWalk α β} (h : w.IsGenuine arcs) :
    Relation.TransGen (Arc arcs) w.closing w.closing := by
  obtain ⟨hchain, hfirst, a, hlast, harc⟩ := h
  have hne : w.points ≠ [] := by
    intro hnil
    rw [hnil] at hfirst
    cases hfirst
  have hwalk := List.relationReflTransGen_of_exists_isChain w.points hchain hne
  rw [List.head?_eq_some_head hne, Option.some.injEq] at hfirst
  rw [List.getLast?_eq_some_getLast hne, Option.some.injEq] at hlast
  rw [hfirst, hlast] at hwalk
  exact Relation.TransGen.tail' hwalk ⟨w.label, harc⟩

/-! ### Orders without arcs back -/

/-- Points of which each stands before all points that it has arcs to. -/
def Settled (arcs : α → List (β × α)) : List α → Prop
  | [] => True
  | a :: r => a ∉ r ∧ (∀ b, Arc arcs a b → b ∈ r) ∧ Settled arcs r

variable [DecidableEq α]

/-- How many points stand after a point. -/
def pointsAfter : List α → α → ℕ
  | [], _ => 0
  | a :: r, b => if a = b then r.length else pointsAfter r b

theorem pointsAfter_lt {order : List α} {a : α} (ha : a ∈ order) :
    pointsAfter order a < order.length := by
  induction order with
  | nil => cases ha
  | cons c r ih =>
    rw [pointsAfter]
    split_ifs with hc
    · exact Nat.lt_succ_self _
    · have hr := ih ((List.mem_cons.1 ha).resolve_left (Ne.symm hc))
      exact Nat.lt_succ_of_lt hr

omit [DecidableEq α] in
theorem Settled.nodup {order : List α} (h : Settled arcs order) : order.Nodup := by
  induction order with
  | nil => exact List.nodup_nil
  | cons a r ih => exact List.nodup_cons.2 ⟨h.1, ih h.2.2⟩

/-- Arcs lead toward the end of the order. -/
theorem Settled.arc {order : List α} (h : Settled arcs order) {a b : α} (ha : a ∈ order)
    (hab : Arc arcs a b) :
    b ∈ order ∧ pointsAfter order b < pointsAfter order a := by
  induction order with
  | nil => cases ha
  | cons c r ih =>
    obtain ⟨hc, harcs, hr⟩ := h
    rcases List.mem_cons.1 ha with rfl | ha
    · have hb := harcs b hab
      have hne : a ≠ b := fun heq => hc (heq ▸ hb)
      rw [pointsAfter, pointsAfter, if_neg hne, if_pos rfl]
      exact ⟨List.mem_cons_of_mem _ hb, pointsAfter_lt hb⟩
    · obtain ⟨hb, hlt⟩ := ih hr ha
      have hca : c ≠ a := fun heq => hc (heq ▸ ha)
      have hcb : c ≠ b := fun heq => hc (heq ▸ hb)
      rw [pointsAfter, pointsAfter, if_neg hca, if_neg hcb]
      exact ⟨List.mem_cons_of_mem _ hb, hlt⟩

/-- No point of such an order can be come back to. -/
theorem Settled.not_transGen {order : List α} (h : Settled arcs order) {a : α} (ha : a ∈ order) :
    ¬ Relation.TransGen (Arc arcs) a a := by
  intro hwalk
  have honward : ∀ b, Relation.TransGen (Arc arcs) a b →
      b ∈ order ∧ pointsAfter order b < pointsAfter order a := by
    intro b hb
    induction hb with
    | single hab => exact h.arc ha hab
    | tail _ hbc ih =>
      obtain ⟨hc, hlt⟩ := h.arc ih.1 hbc
      exact ⟨hc, hlt.trans ih.2⟩
  exact absurd (honward a hwalk).2 (lt_irrefl _)

/-! ### One visit -/

/-- Points that are being visited, the last one first: each was come to from the next one in the
list. -/
structure IsTrail (arcs : α → List (β × α)) (points stack : List α) : Prop where
  chain : stack.IsChain fun b a => Arc arcs a b
  nodup : stack.Nodup
  mem : ∀ a ∈ stack, a ∈ points

/-- What is done by a search: an order of some points, of which none is still being visited. -/
structure IsDone (arcs : α → List (β × α)) (points stack done : List α) : Prop where
  settled : Settled arcs done
  mem : ∀ a ∈ done, a ∈ points
  apart : ∀ a ∈ stack, a ∉ done

variable {points stack done : List α} {a b : α}

omit [DecidableEq α] in
/-- An arc that can be followed makes the points that are being visited one more. -/
theorem IsTrail.cons (h : IsTrail arcs points (a :: stack)) (hab : Arc arcs a b) (hb : b ∈ points)
    (hnew : b ∉ a :: stack) : IsTrail arcs points (b :: a :: stack) where
  chain := List.isChain_cons_cons.2 ⟨hab, h.chain⟩
  nodup := List.nodup_cons.2 ⟨hnew, h.nodup⟩
  mem := List.forall_mem_cons.2 ⟨hb, h.mem⟩

omit [DecidableEq α] in
/-- There are no more points being visited than points. -/
theorem IsTrail.length_le (h : IsTrail arcs points stack) : stack.length ≤ points.length :=
  (List.subperm_of_subset h.nodup h.mem).length_le

/-- An arc to a point that is still being visited closes a walk. -/
theorem IsTrail.isGenuine (h : IsTrail arcs points (a :: stack)) {label : β}
    (harc : (label, b) ∈ arcs a) (hb : b ∈ a :: stack) :
    ClosedWalk.IsGenuine arcs ⟨b :: ((a :: stack).takeWhile (· ≠ b)).reverse, b, label⟩ := by
  obtain ⟨inner, outer, hsplit, hinner⟩ := List.eq_append_cons_of_mem hb
  have htake : (a :: stack).takeWhile (· ≠ b) = inner := by
    rw [hsplit, List.takeWhile_append_of_pos, List.takeWhile_cons_of_neg, List.append_nil]
    · simp
    · intro c hc
      simpa using fun heq : c = b => hinner (heq ▸ hc)
  have hpoints : b :: ((a :: stack).takeWhile (· ≠ b)).reverse = (inner ++ [b]).reverse := by
    rw [htake, List.reverse_append]
    rfl
  refine ⟨?_, rfl, a, ?_, harc⟩
  · have hprefix : inner ++ [b] <:+: a :: stack := ⟨[], outer, by simp [hsplit]⟩
    rw [hpoints, List.isChain_reverse]
    exact h.chain.infix hprefix
  · -- the walk ends where the visits have got to
    rw [hpoints, List.getLast?_reverse]
    cases inner with
    | nil =>
      rw [List.nil_append, List.cons.injEq] at hsplit
      rw [hsplit.1]
      rfl
    | cons c r =>
      rw [List.cons_append, List.cons.injEq] at hsplit
      rw [hsplit.1]
      rfl

/-- Going through a point closes a walk, or it leaves the point done with all that can be got to
from it. -/
theorem visit_spec (hclosed : ∀ a ∈ points, ∀ b, Arc arcs a b → b ∈ points) {n : ℕ}
    (htrail : IsTrail arcs points (a :: stack)) (hdone : IsDone arcs points (a :: stack) done)
    (hbound : points.length ≤ n + stack.length) :
    Ends (fun done' => IsDone arcs points stack done' ∧ a ∈ done' ∧ ∀ c ∈ done, c ∈ done')
      (fun w => w.IsGenuine arcs ∧ w.closing ∈ points) (visit arcs n stack done a) := by
  induction n generalizing a stack done with
  | zero =>
    -- the bound is not reached, as more points would be visited than there are
    have hlength := htrail.length_le
    rw [List.length_cons] at hlength
    omega
  | succ n ih =>
    have ha := htrail.mem a List.mem_cons_self
    rw [visit]
    refine Ends.bind (foldlM_ends (P := fun passed done' => IsDone arcs points (a :: stack) done' ∧
      (∀ c ∈ done, c ∈ done') ∧ ∀ b ∈ passed.map Prod.snd, b ∈ done') ?_
        ⟨hdone, fun _ h => h, nofun⟩) ?_
    · -- one arc: it closes a walk, leads to a point that is done, or to one that is visited next
      rintro passed ⟨label, b⟩ done' harc ⟨hdone', hkeeps, hpassed⟩
      have hb := hclosed a ha b ⟨label, harc⟩
      simp only [List.map_append, List.map_singleton, List.forall_mem_append,
        List.forall_mem_singleton]
      split_ifs with hopen hold
      · exact ⟨htrail.isGenuine harc hopen, hb⟩
      · exact ⟨hdone', hkeeps, hpassed, hold⟩
      · have hnext : IsDone arcs points (b :: a :: stack) done' :=
          ⟨hdone'.settled, hdone'.mem, List.forall_mem_cons.2 ⟨hold, hdone'.apart⟩⟩
        refine (ih (htrail.cons ⟨label, harc⟩ hb hopen) hnext ?_).imp ?_
        · rw [List.length_cons]
          omega
        · rintro done'' ⟨hdone'', hmem, hmore⟩
          exact ⟨hdone'', fun c hc => hmore c (hkeeps c hc),
            fun c hc => hmore c (hpassed c hc), hmem⟩
    · rintro done' ⟨⟨hsettled, hmem, hapart⟩, hkeeps, hall⟩
      obtain ⟨hnew, hstack⟩ := List.forall_mem_cons.1 hapart
      obtain ⟨hfresh, -⟩ := List.nodup_cons.1 htrail.nodup
      have harcs : ∀ b, Arc arcs a b → b ∈ done' := by
        rintro b ⟨label, harc⟩
        exact hall b (List.mem_map_of_mem harc)
      refine ⟨⟨⟨hnew, harcs, hsettled⟩, List.forall_mem_cons.2 ⟨ha, hmem⟩, fun c hc => ?_⟩,
        List.mem_cons_self, fun c hc => List.mem_cons_of_mem _ (hkeeps c hc)⟩
      rw [List.mem_cons, not_or]
      exact ⟨fun heq => hfresh (heq ▸ hc), hstack c hc⟩

/-! ### Whole searches -/

/-- **A search finds a walk that closes, or it orders its points so that arcs lead onward only.** -/
theorem findCycle_spec {starts : List α} {bound : ℕ}
    (hclosed : ∀ a ∈ starts, ∀ b, Arc arcs a b → b ∈ starts) (hbound : starts.length ≤ bound) :
    Ends (fun _ => ∃ order, Settled arcs order ∧ ∀ a, a ∈ order ↔ a ∈ starts)
      (fun w => w.IsGenuine arcs ∧ w.closing ∈ starts) (findCycle arcs bound starts) := by
  unfold findCycle
  refine Ends.bind
    (foldlM_ends (P := fun passed done => IsDone arcs starts [] done ∧ ∀ a ∈ passed, a ∈ done) ?_
    ⟨⟨trivial, nofun, nofun⟩, nofun⟩) ?_
  · rintro passed a done ha ⟨hdone, hpassed⟩
    simp only [List.forall_mem_append, List.forall_mem_singleton]
    split_ifs with hold
    · exact ⟨hdone, hpassed, hold⟩
    · have htrail : IsTrail arcs starts [a] :=
        ⟨.singleton a, List.nodup_singleton a, by simpa using ha⟩
      have hfresh : IsDone arcs starts [a] done := ⟨hdone.settled, hdone.mem, by simpa using hold⟩
      refine (visit_spec hclosed htrail hfresh (by simpa using hbound)).imp ?_
      rintro done' ⟨hdone', hmem, hmore⟩
      exact ⟨hdone', fun c hc => hmore c (hpassed c hc), hmem⟩
  · rintro order ⟨hdone, hall⟩
    exact ⟨order, hdone.settled, fun a => ⟨hdone.mem a, hall a⟩⟩

/-- **A search finds nothing just when no point can be come back to.** -/
theorem findCycle_eq_ok_iff {starts : List α} {bound : ℕ}
    (hclosed : ∀ a ∈ starts, ∀ b, Arc arcs a b → b ∈ starts) (hbound : starts.length ≤ bound) :
    findCycle arcs bound starts = .ok () ↔ ∀ a ∈ starts, ¬ Relation.TransGen (Arc arcs) a a := by
  rcases (findCycle_spec hclosed hbound).cases with
    ⟨⟨⟩, hok, order, hsettled, hmem⟩ | ⟨w, hfound, hgenuine, hw⟩
  · exact iff_of_true hok fun a ha => hsettled.not_transGen ((hmem a).2 ha)
  · rw [hfound]
    exact iff_of_false nofun fun h => h _ hw hgenuine.transGen

/-- A search that finds nothing ranks its points: arcs lead to points of lower rank. -/
theorem exists_rank_of_findCycle {starts : List α} {bound : ℕ}
    (hclosed : ∀ a ∈ starts, ∀ b, Arc arcs a b → b ∈ starts) (hbound : starts.length ≤ bound)
    (h : findCycle arcs bound starts = .ok ()) :
    ∃ rank : α → ℕ, (∀ a ∈ starts, rank a < starts.length) ∧
      ∀ a ∈ starts, ∀ b, Arc arcs a b → rank b < rank a := by
  have hspec := findCycle_spec hclosed hbound
  rw [h] at hspec
  obtain ⟨order, hsettled, hmem⟩ := hspec
  have hlength : order.length ≤ starts.length :=
    (List.subperm_of_subset hsettled.nodup fun a ha => (hmem a).1 ha).length_le
  refine ⟨pointsAfter order, fun a ha => ?_, fun a ha b hab => (hsettled.arc ((hmem a).2 ha) hab).2⟩
  exact (pointsAfter_lt ((hmem a).2 ha)).trans_le hlength

end Parley
