import Parley.Proofs.Service.Switchboard

/-!
# Lanes of one thread

As long as no lane is opened for a thread while something is left to do in the lanes before, only
the last lane of the thread has something to do, and it goes on where the others have ended.

* `Switchboard.IsSpent`: nothing is left to do in a lane;
* `Switchboard.TakesTurns`: lanes are opened for a thread one after another;
* `Switchboard.IsAligned`, `Switchboard.IsAligned.run`: what this keeps in order.
-/

namespace Parley

/-- The commands of a thread that a worker still has before it. -/
def Worker.pending (key : ThreadKey) (w : Worker) : List Ticket :=
  if w.key = key then w.lane.queue else []

namespace Switchboard

variable {capacity : ℕ} {x y : Switchboard} {e : Event} {i j k : ℕ} {c : Caller} {w w' : Worker}
    {t : Ticket}
  {key : ThreadKey} {stage : Stage} {lane : Lane Ticket} {events : List Event}

/-- The commands of a thread that still wait in lanes. -/
def pending (x : Switchboard) (key : ThreadKey) : List Ticket :=
  x.workers.flatMap (Worker.pending key)

/-- Nothing is left to do in a lane: it is empty, nothing in it is executed, and no caller is about
to use it. -/
structure IsSpent (x : Switchboard) (j : ℕ) : Prop where
  idle : ∀ w, x.workers[j]? = some w → w.lane.queue = [] ∧ w.running = none
  unsought : ∀ c ∈ x.callers, c.stage ≠ .sending j

/-- Only the last lane of a thread has something to do, and it goes on where the lanes before it
have ended. -/
structure IsAligned (x : Switchboard) (key : ThreadKey) : Prop where
  old : ∀ j k, x.keyOf j = some key → x.keyOf k = some key → j < k → x.IsSpent j
  order : x.accepted.filter (·.key = key) = x.begun.filter (·.key = key) ++ x.pending key
  alone : ∀ (j : ℕ) (w : Worker) t, x.workers[j]? = some w → w.key = key → w.running = some t →
    (x.begun.filter (·.key = key)).getLast? = some t

/-- A step opens a lane for a thread. -/
def Opens (x : Switchboard) (key : ThreadKey) (e : Event) : Prop :=
  ∃ i c, e = .lookUp i ∧ x.callers[i]? = some c ∧ c.stage = .looking ∧ c.key = key ∧
    x.laneOf? key = none

/-- Whenever a lane is opened for a thread, those opened for it before are spent. -/
def TakesTurns (capacity : ℕ) (key : ThreadKey) (events : List Event) : Prop :=
  ∀ past e x, past ++ [e] <+: events → run? capacity past = some x → x.Opens key e →
    ∀ j, x.keyOf j = some key → x.IsSpent j

/-! ### Commands that wait -/

theorem pending_split (hw : x.workers[j]? = some w) (w' : Worker) :
    (x.employed j w').pending key = (x.workers.take j).flatMap (Worker.pending key) ++
      (w'.pending key ++ (x.workers.drop (j + 1)).flatMap (Worker.pending key)) := by
  obtain ⟨hj, -⟩ := List.getElem?_eq_some_iff.1 hw
  rw [pending, employed, List.set_eq_take_append_cons_drop, if_pos hj, List.flatMap_append,
    List.flatMap_cons]

theorem employed_self (hw : x.workers[j]? = some w) : x.employed j w = x := by
  obtain ⟨hj, rfl⟩ := List.getElem?_eq_some_iff.1 hw
  rw [employed, List.set_getElem_self]

theorem pending_employed (hw : x.workers[j]? = some w) (hsame : w'.pending key = w.pending key) :
    (x.employed j w').pending key = x.pending key := by
  rw [pending_split hw, hsame, ← pending_split hw, employed_self hw]

/-- If all other lanes of a thread are empty, the commands that wait are those in one of them. -/
theorem pending_employed_eq (hw : x.workers[j]? = some w) (hkey : w'.key = key)
    (hothers : ∀ k, k ≠ j → x.keyOf k = some key → x.IsSpent k) :
    (x.employed j w').pending key = w'.lane.queue := by
  have hnone : ∀ k v, k ≠ j → x.workers[k]? = some v → v.pending key = [] := by
    intro k v hne hv
    unfold Worker.pending
    split_ifs with hkey'
    · exact ((hothers k hne (by rw [keyOf, hv, Option.map_some, hkey'])).idle v hv).1
    · rfl
  have hfront : (x.workers.take j).flatMap (Worker.pending key) = [] := by
    refine List.flatMap_eq_nil_iff.2 fun v hv => ?_
    obtain ⟨k, hk⟩ := List.mem_iff_getElem?.1 hv
    have hlt : k < j := (List.getElem?_eq_some_iff.1 hk).1.trans_le (List.length_take_le _ _)
    exact hnone k v hlt.ne ((List.getElem?_take_of_lt hlt).symm.trans hk)
  have hback : (x.workers.drop (j + 1)).flatMap (Worker.pending key) = [] := by
    refine List.flatMap_eq_nil_iff.2 fun v hv => ?_
    obtain ⟨k, hk⟩ := List.mem_iff_getElem?.1 hv
    rw [List.getElem?_drop] at hk
    exact hnone _ v (by omega) hk
  rw [pending_split hw, hfront, hback, List.nil_append, List.append_nil, Worker.pending,
    if_pos hkey]

/-! ### What steps keep of one thread -/

theorem IsSpent.staged (h : x.IsSpent j) (hstage : stage ≠ .sending j) :
    (x.staged i stage).IsSpent j where
  idle := h.idle
  unsought := by
    intro c hc
    rcases mem_callers_staged hc with hc | ⟨d, -, rfl⟩
    · exact h.unsought c hc
    · exact hstage

theorem IsSpent.employed (h : x.IsSpent k) (hw : x.workers[j]? = some w)
    (hidle : j = k → w'.lane.queue = [] ∧ w'.running = none) : (x.employed j w').IsSpent k where
  idle := by
    intro v hv
    rw [getElem?_employed hw] at hv
    split_ifs at hv with hk
    · cases hv
      exact hidle hk
    · exact h.idle v hv
  unsought := h.unsought

theorem IsSpent.opened (h : x.IsSpent j) (hj : x.keyOf j = some key) (capacity : ℕ)
    (key' : ThreadKey) :
    (x.opened capacity key').IsSpent j where
  idle := by
    intro w hw
    rw [getElem?_opened, if_neg (lt_of_keyOf hj).ne] at hw
    exact h.idle w hw
  unsought := h.unsought

namespace IsAligned

theorem fresh (key : ThreadKey) : IsAligned {} key where
  old := nofun
  order := rfl
  alone := nofun

theorem staged (h : x.IsAligned key) (hlast : ∀ j k, stage = .sending j → x.keyOf j = some key →
    x.keyOf k = some key → k ≤ j) : (x.staged i stage).IsAligned key where
  old := by
    intro j k hj hk hlt
    exact (h.old j k hj hk hlt).staged fun hstage => hlt.not_ge (hlast j k hstage hj hk)
  order := h.order
  alone := h.alone

/-- A caller that goes to a stage at which it sends nothing changes nothing. -/
theorem staged_of_ne (h : x.IsAligned key) (hstage : ∀ j, stage ≠ .sending j) :
    (x.staged i stage).IsAligned key :=
  h.staged fun j _ hj => absurd hj (hstage j)

theorem call (h : x.IsAligned key) (key' : ThreadKey) (command : Command) :
    IsAligned { x with callers := x.callers ++ [{ key := key', command }] } key where
  old := by
    intro j k hj hk hlt
    have hspent := h.old j k hj hk hlt
    refine ⟨hspent.idle, fun c hc => ?_⟩
    rcases List.mem_append.1 hc with hc | hc
    · exact hspent.unsought c hc
    · rw [List.mem_singleton.1 hc]
      nofun
  order := h.order
  alone := h.alone

theorem unregistered (h : x.IsAligned key) (key' : ThreadKey) :
    (x.unregistered key').IsAligned key :=
  ⟨fun j k hj hk hlt => ⟨(h.old j k hj hk hlt).idle, (h.old j k hj hk hlt).unsought⟩,
    h.order, h.alone⟩

theorem opened (h : x.IsAligned key) (capacity : ℕ) {key' : ThreadKey}
    (hspent : key' = key → ∀ j, x.keyOf j = some key → x.IsSpent j) :
    (x.opened capacity key').IsAligned key where
  old := by
    intro j k hj hk hlt
    rw [keyOf_opened] at hj hk
    split_ifs at hk with hnew
    · rw [if_neg (hlt.trans_eq hnew).ne] at hj
      exact (hspent (Option.some.inj hk) j hj).opened hj capacity key'
    · rw [if_neg (hlt.trans (lt_of_keyOf hk)).ne] at hj
      exact (h.old j k hj hk hlt).opened hj capacity key'
  order := by
    have hpending : (x.opened capacity key').pending key = x.pending key := by
      rw [pending, Switchboard.opened, List.flatMap_append, List.flatMap_singleton,
        Worker.pending, ite_self, List.append_nil]
      rfl
    rw [hpending]
    exact h.order
  alone := by
    intro j w t hw hkey ht
    rw [getElem?_opened] at hw
    split_ifs at hw with hj
    · cases hw
      cases ht
    · exact h.alone j w t hw hkey ht

theorem employed (h : x.IsAligned key) (hw : x.workers[j]? = some w) (hkey : w'.key = w.key)
    (hqueue : w'.lane.queue = w.lane.queue)
    (hrunning : ∀ t, w'.running = some t → w.running = some t) :
    (x.employed j w').IsAligned key where
  old := by
    rw [keyOf_employed hw hkey]
    intro m k hm hk hlt
    refine (h.old m k hm hk hlt).employed hw fun hjm => ?_
    obtain ⟨hempty, hidle⟩ := (h.old m k hm hk hlt).idle w (hjm ▸ hw)
    refine ⟨hqueue.trans hempty, Option.eq_none_iff_forall_ne_some.2 fun t ht => ?_⟩
    rw [hrunning t ht] at hidle
    cases hidle
  order := by
    rw [pending_employed hw (by rw [Worker.pending, Worker.pending, hkey, hqueue])]
    exact h.order
  alone := by
    intro k v t hv hkey' ht
    rw [getElem?_employed hw] at hv
    split_ifs at hv with hk
    · cases hv
      exact h.alone j w t hw (hkey.symm.trans hkey') (hrunning t ht)
    · exact h.alone k v t hv hkey' ht

/-- Where the lanes of a thread are spent but for the last one, that one holds all commands of the
thread that wait. -/
theorem pending_employed_eq (h : x.IsAligned key) (hw : x.workers[j]? = some w)
    (hkey : x.keyOf j = some key) (hlast : ∀ k, x.keyOf k = some key → k ≤ j)
    (hkey' : w'.key = key) :
    (x.employed j w').pending key = w'.lane.queue :=
  Switchboard.pending_employed_eq hw hkey' fun k hne hk =>
    h.old k j hk hkey (lt_of_le_of_ne (hlast k hk) hne)

theorem accepting (h : x.IsAligned key) (hw : x.workers[t.lane]? = some w) (hkey : w.key = t.key)
    (hlast : t.key = key → ∀ k, x.keyOf k = some key → k ≤ t.lane)
    (hqueue : lane.queue = w.lane.queue ++ [t]) :
    (x.accepting w lane t).IsAligned key := by
  have htkey : x.keyOf t.lane = some t.key := by rw [keyOf, hw, Option.map_some, hkey]
  have hsame : (x.accepting w lane t).keyOf = x.keyOf := keyOf_accepting hw
  have haccepted : (x.accepting w lane t).accepted = x.accepted ++ [t] := rfl
  have hpending : (x.accepting w lane t).pending key =
      (x.employed t.lane { w with lane }).pending key := rfl
  refine ⟨fun m k hm hk hlt => ?_, ?_, fun k v u hv hkey' hu => ?_⟩
  · rw [hsame] at hm hk
    have hspent : (x.employed t.lane { w with lane }).IsSpent m := by
      refine (h.old m k hm hk hlt).employed hw fun hlane => ?_
      rw [← hlane, htkey] at hm
      exact absurd (hlast (Option.some.inj hm) k hk) (hlane ▸ hlt).not_ge
    exact ⟨hspent.idle, hspent.unsought⟩
  · rw [haccepted, hpending]
    by_cases ht : t.key = key
    · have hbefore : x.pending key = w.lane.queue := by
        rw [← h.pending_employed_eq hw (ht ▸ htkey) (hlast ht) (hkey.trans ht), employed_self hw]
      have hafter : (x.employed t.lane { w with lane }).pending key = lane.queue :=
        h.pending_employed_eq hw (ht ▸ htkey) (hlast ht) (hkey.trans ht)
      rw [filter_concat_of_pos (by simpa using ht), h.order, hbefore, hafter, hqueue,
        List.append_assoc]
      rfl
    · rw [filter_concat_of_neg (by simpa using ht), pending_employed hw]
      · exact h.order
      · rw [Worker.pending, Worker.pending, if_neg (hkey ▸ ht), if_neg (hkey ▸ ht)]
  · replace hv := (getElem?_employed hw).symm.trans hv
    split_ifs at hv with hk
    · cases hv
      exact h.alone _ w u hw hkey' hu
    · exact h.alone k v u hv hkey' hu

theorem beginning (h : x.IsAligned key) (hw : x.workers[j]? = some w) (hkey : w.key = t.key)
    (hqueue : w.lane.queue = t :: lane.queue) : (x.beginning j w lane t).IsAligned key := by
  have htkey : x.keyOf j = some t.key := by rw [keyOf, hw, Option.map_some, hkey]
  have hsame : (x.beginning j w lane t).keyOf = x.keyOf := keyOf_beginning hw
  have hbegun : (x.beginning j w lane t).begun = x.begun ++ [t] := rfl
  have hpending : (x.beginning j w lane t).pending key =
      (x.employed j { w with lane, running := some t }).pending key := rfl
  -- a lane with a command in it is not spent
  have hbusy : ¬ x.IsSpent j := by
    intro hspent
    rw [(hspent.idle w hw).1] at hqueue
    cases hqueue
  have hlast : t.key = key → ∀ k, x.keyOf k = some key → k ≤ j := fun ht k hk =>
    not_lt.1 fun hlt => hbusy (h.old j k (ht ▸ htkey) hk hlt)
  refine ⟨fun m k hm hk hlt => ?_, ?_, fun k v u hv hkey' hu => ?_⟩
  · rw [hsame] at hm hk
    have hspent : (x.employed j { w with lane, running := some t }).IsSpent m :=
      (h.old m k hm hk hlt).employed hw fun hlane => absurd (h.old m k hm hk hlt) (hlane ▸ hbusy)
    exact ⟨hspent.idle, hspent.unsought⟩
  · rw [hbegun, hpending]
    by_cases ht : t.key = key
    · have hbefore : x.pending key = w.lane.queue := by
        rw [← h.pending_employed_eq hw (ht ▸ htkey) (hlast ht) (hkey.trans ht), employed_self hw]
      have hafter : (x.employed j { w with lane, running := some t }).pending key = lane.queue :=
        h.pending_employed_eq hw (ht ▸ htkey) (hlast ht) (hkey.trans ht)
      rw [filter_concat_of_pos (by simpa using ht), List.append_assoc, hafter]
      exact h.order.trans (by rw [hbefore, hqueue]; rfl)
    · rw [filter_concat_of_neg (by simpa using ht), pending_employed hw]
      · exact h.order
      · rw [Worker.pending, Worker.pending, if_neg (hkey ▸ ht), if_neg (hkey ▸ ht)]
  · rw [hbegun]
    replace hv := (getElem?_employed hw).symm.trans hv
    split_ifs at hv with hk
    · cases hv
      cases hu
      rw [filter_concat_of_pos (by simpa using hkey.symm.trans hkey'), List.getLast?_concat]
    · have hvkey : x.keyOf k = some key := by rw [keyOf, hv, Option.map_some, hkey']
      by_cases ht : t.key = key
      · -- no other lane of the thread has something to do
        have hspent := h.old k j hvkey (ht ▸ htkey) (lt_of_le_of_ne (hlast ht k hvkey) (Ne.symm hk))
        rw [(hspent.idle v hv).2] at hu
        cases hu
      · rw [filter_concat_of_neg (by simpa using ht)]
        exact h.alone k v u hv hkey' hu

theorem step (h : x.IsAligned key) (hx : x.IsSound) (hstep : x.step? capacity e = some y)
    (hspent : x.Opens key e → ∀ j, x.keyOf j = some key → x.IsSpent j) : y.IsAligned key := by
  cases Step.of_eq_some hstep with
  | call key' command => exact h.call key' command
  | @found i j c hc hstage hlane =>
    refine h.staged fun j' k hj' hj hk => ?_
    cases hj'
    obtain ⟨hj', hlast⟩ := hx.registered c.key j (Option.filter_eq_some_iff.1 hlane).1
    cases hj'.symm.trans hj
    exact hlast k hk
  | @opened i c hc hstage hlane =>
    have hopened : (x.opened capacity c.key).IsAligned key :=
      h.opened capacity fun hkey => hspent ⟨i, c, rfl, hc, hstage, hkey, hkey ▸ hlane⟩
    refine hopened.staged fun j k hj _ hk => ?_
    cases hj
    have hlt := lt_of_keyOf hk
    rw [Switchboard.opened, List.length_append, List.length_singleton] at hlt
    exact Nat.le_of_lt_succ hlt
  | @accepted i j c w lane hc hstage hw hlane =>
    have hmem := List.mem_of_getElem? hc
    have hkey := hx.sought c hmem j hstage
    have hwaiting : (x.staged i .waiting).IsAligned key := h.staged_of_ne (by simp)
    refine hwaiting.accepting hw ?_ (fun hkey' k hk => ?_) (Lane.queue_of_enqueue hlane)
    · rw [keyOf, hw, Option.map_some] at hkey
      exact Option.some.inj hkey
    · -- a lane that is about to be used is the last one
      refine not_lt.1 fun hlt => ?_
      exact (h.old j k (hkey.trans (congrArg some hkey')) hk hlt).unsought c hmem hstage
  | refused hc hstage hw hlane => exact h.staged_of_ne (by simp)
  | left hc hstage => exact (h.unregistered _).staged_of_ne (by simp)
  | begun hw hrunning hlane =>
    have hqueue := Lane.queue_of_take? hlane
    exact h.beginning hw (hx.of_mem_queue hw (hqueue ▸ List.mem_cons_self)).2.2 hqueue
  | @finished j w t c hw ht hc =>
    have hidle : (x.employed j { w with running := none }).IsAligned key :=
      h.employed hw rfl rfl fun _ hnone => by cases hnone
    exact hidle.staged fun j k hj => absurd (.inr ⟨j, hj⟩) c.answered_not_isEarly
  | expired hw hrunning hopen => exact h.employed hw rfl rfl fun _ => id
  | retired hw hrunning hclosed hqueue => exact h.employed hw rfl rfl fun _ => id
  | @removed j w hw hrunning hclosed hqueue hlane =>
    have hended : (x.employed j { w with ended := true }).IsAligned key :=
      h.employed hw rfl rfl fun _ => id
    exact hended.unregistered _

end IsAligned

/-! ### Whole runs -/

theorem IsAligned.run (h : run? capacity events = some x)
    (hturns : TakesTurns capacity key events) :
    x.IsAligned key :=
  run_induction (P := fun y => y.IsAligned key) (.fresh key)
    (fun past e y _ hinit hy hstep ih => ih.step (.run hy) hstep (hturns past e y hinit hy)) h

end Switchboard

end Parley
