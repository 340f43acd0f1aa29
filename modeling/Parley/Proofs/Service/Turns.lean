import Parley.Proofs.Service.Alignment

/-!
# Lanes opened one after another

There are two ways to see to it that no lane is opened for a thread while something is left to do in
another one: the lane stays open and registered, or each call of the thread waits for the end of the
one before.

* `Switchboard.StaysOpen`, `Switchboard.StaysOpen.takesTurns`: no call closes the conversation, and
  no lane expires;
* `Switchboard.CallsInTurn`, `Switchboard.CallsInTurn.takesTurns`: no two calls overlap;
* `Switchboard.Waits`: who has a command in a lane waits for its answer.
-/

namespace Parley

/-- A command has been put into the lane of a worker, and its execution has not ended. -/
def Worker.Holds (w : Worker) (t : Ticket) : Prop := t ∈ w.lane.queue ∨ w.running = some t

namespace Switchboard

variable {capacity : ℕ} {x y : Switchboard} {e : Event} {i j k : ℕ} {c : Caller} {w w' : Worker}
    {t : Ticket}
  {key : ThreadKey} {stage : Stage} {lane : Lane Ticket} {events : List Event}

/-! ### Threads whose lane stays open -/

/-- No conversation of a thread is closed, and no lane of it expires. -/
structure StaysOpen (capacity : ℕ) (key : ThreadKey) (events : List Event) : Prop where
  call : .call key .close ∉ events
  expire : ∀ past j x, past ++ [.expire j] <+: events → run? capacity past = some x →
      x.keyOf j ≠ some key

/-- All lanes of a thread are open, one of them is registered, and none will be taken out of the
registry. -/
structure IsKept (x : Switchboard) (key : ThreadKey) : Prop where
  isOpen : ∀ (j : ℕ) (w : Worker), x.workers[j]? = some w → w.key = key → w.lane.isOpen = true
  stays : ∀ c ∈ x.callers, c.key = key → c.command ≠ .close ∧ c.stage ≠ .leaving
  registered : ∀ j, x.keyOf j = some key → ∃ k, x.registry.get? key = some k

namespace IsKept

theorem fresh (key : ThreadKey) : IsKept {} key where
  isOpen := nofun
  stays := nofun
  registered := nofun

theorem staged (h : x.IsKept key) (hc : x.callers[i]? = some c)
    (hstage : c.key = key → stage ≠ .leaving) :
    (x.staged i stage).IsKept key where
  isOpen := h.isOpen
  stays := by
    intro d hd hkey
    rcases mem_callers_staged hd with hd | ⟨d, hd', rfl⟩
    · exact h.stays d hd hkey
    · cases hc.symm.trans hd'
      exact ⟨(h.stays c (List.mem_of_getElem? hc) hkey).1, hstage hkey⟩
  registered := h.registered

theorem employed (h : x.IsKept key) (hw : x.workers[j]? = some w) (hkey : w'.key = w.key)
    (hopen : w.key = key → w'.lane.isOpen = true) : (x.employed j w').IsKept key where
  isOpen := by
    intro k v hv hkey'
    rw [getElem?_employed hw] at hv
    split_ifs at hv with hk
    · cases hv
      exact hopen (hkey.symm.trans hkey')
    · exact h.isOpen k v hv hkey'
  stays := h.stays
  registered := by
    rw [keyOf_employed hw hkey]
    exact h.registered

theorem unregistered (h : x.IsKept key) {key' : ThreadKey} (hne : key' ≠ key) :
    (x.unregistered key').IsKept key where
  isOpen := h.isOpen
  stays := h.stays
  registered := by
    intro j hj
    rw [Switchboard.unregistered, Table.get?_erase, if_neg hne]
    exact h.registered j hj

theorem opened (h : x.IsKept key) (capacity : ℕ) (key' : ThreadKey) :
    (x.opened capacity key').IsKept key where
  isOpen := by
    intro j w hw hkey
    rw [getElem?_opened] at hw
    split_ifs at hw
    · cases hw
      rfl
    · exact h.isOpen j w hw hkey
  stays := h.stays
  registered := by
    intro j hj
    rw [Switchboard.opened, Table.get?_set]
    split_ifs with hkey
    · exact ⟨_, rfl⟩
    · rw [keyOf_opened] at hj
      split_ifs at hj
      · exact absurd (Option.some.inj hj) hkey
      · exact h.registered j hj

theorem step (h : x.IsKept key) (hstep : x.step? capacity e = some y) (hcall : e ≠ .call key .close)
    (hexpire : ∀ j, e = .expire j → x.keyOf j ≠ some key) : y.IsKept key := by
  cases Step.of_eq_some hstep with
  | call key' command =>
    refine ⟨h.isOpen, fun c hc hkey => ?_, h.registered⟩
    rcases List.mem_append.1 hc with hc | hc
    · exact h.stays c hc hkey
    · rw [List.mem_singleton.1 hc] at hkey ⊢
      refine ⟨?_, nofun⟩
      rintro rfl
      exact hcall (congrArg (Event.call · _) hkey)
  | found hc hstage hlane => exact h.staged hc nofun
  | opened hc hstage hlane => exact (h.opened capacity _).staged hc nofun
  | @accepted i j c w lane hc hstage hw hlane =>
    have hwaiting : (x.staged i .waiting).IsKept key := h.staged hc nofun
    have hput : ((x.staged i .waiting).employed j { w with lane }).IsKept key :=
      hwaiting.employed hw rfl fun hkey => (Lane.isOpen_of_enqueue hlane).trans
        (h.isOpen j w hw hkey)
    exact ⟨hput.isOpen, hput.stays, hput.registered⟩
  | refused hc hstage hw hlane => exact h.staged hc nofun
  | @left i c hc hstage =>
    -- of this thread nobody leaves
    have hne : c.key ≠ key := fun hkey => (h.stays c (List.mem_of_getElem? hc) hkey).2 hstage
    exact (h.unregistered hne).staged hc nofun
  | @begun j w t lane hw hrunning hlane =>
    have htaken : (x.employed j { w with lane, running := some t }).IsKept key :=
      h.employed hw rfl fun hkey => (Lane.isOpen_of_take? hlane).trans (h.isOpen j w hw hkey)
    exact ⟨htaken.isOpen, htaken.stays, htaken.registered⟩
  | @finished j w t c hw ht hc =>
    have hidle : (x.employed j { w with running := none }).IsKept key :=
      h.employed hw rfl (h.isOpen j w hw)
    refine hidle.staged hc fun hkey => ?_
    rw [Caller.answered_of_ne_close (h.stays c (List.mem_of_getElem? hc) hkey).1]
    nofun
  | @expired j w hw hrunning hopen =>
    refine h.employed hw rfl fun hkey => absurd ?_ (hexpire j rfl)
    rw [keyOf, hw, Option.map_some, hkey]
  | @retired j w hw hrunning hclosed hqueue => exact h.employed hw rfl (h.isOpen j w hw)
  | @removed j w hw hrunning hclosed hqueue hlane =>
    have hne : w.key ≠ key := by
      intro hkey
      rw [h.isOpen j w hw hkey] at hclosed
      cases hclosed
    have hended : (x.employed j { w with ended := true }).IsKept key :=
      h.employed hw rfl (h.isOpen j w hw)
    exact hended.unregistered hne

theorem run (h : run? capacity events = some x) (hstays : StaysOpen capacity key events) :
    x.IsKept key := by
  refine run_induction (P := fun y => y.IsKept key) (fresh key)
    (fun past e y z hinit hy hstep ih => ih.step hstep ?_ fun j hj => ?_) h
  · rintro rfl
    exact hstays.call (hinit.subset (List.mem_append_right _ List.mem_cons_self))
  · exact hstays.expire past j y (hj ▸ hinit) hy

/-- No second lane is opened for a thread whose lane is open and registered. -/
theorem not_opens (h : x.IsKept key) (hx : x.IsSound) (hj : x.keyOf j = some key) :
    ¬ x.Opens key e := by
  rintro ⟨i, c, -, -, -, -, hnone⟩
  obtain ⟨k, hk⟩ := h.registered j hj
  obtain ⟨w, hw, hkey⟩ := Option.map_eq_some_iff.1 (hx.registered key k hk).1
  rw [laneOf?, hk, Option.filter_some, hw, Option.any_some, h.isOpen k w hw hkey] at hnone
  cases hnone

end IsKept

/-- The lanes of a thread are opened one after another if it has only one. -/
theorem StaysOpen.takesTurns (h : StaysOpen capacity key events) :
    TakesTurns capacity key events := by
  intro past e x hinit hrun hopens j hj
  have hpast : past <+: events := (List.prefix_append past [e]).trans hinit
  have hstays : StaysOpen capacity key past :=
    ⟨fun hcall => h.call (hpast.subset hcall), fun past' j z hinit' =>
      h.expire past' j z (hinit'.trans hpast)⟩
  exact absurd hopens ((IsKept.run hrun hstays).not_opens (.run hrun) hj)

/-! ### Threads whose calls do not overlap -/

/-- A call of a thread is made when all calls of the thread before it have ended. -/
def CallsInTurn (capacity : ℕ) (key : ThreadKey) (events : List Event) : Prop :=
  ∀ past command x, past ++ [.call key command] <+: events → run? capacity past = some x →
    ∀ c ∈ x.callers, c.key = key → c.stage = .done

/-- Who has a command in a lane waits for its answer. -/
def Waits (x : Switchboard) : Prop :=
  ∀ w ∈ x.workers, ∀ t, w.Holds t → ∃ c, x.callers[t.caller]? = some c ∧ c.stage = .waiting

theorem IsSound.of_holds (h : x.IsSound) (hw : x.workers[j]? = some w) (ht : w.Holds t) :
    t ∈ x.accepted ∧ t.lane = j ∧ w.key = t.key := by
  rcases ht with ht | ht
  · exact h.of_mem_queue hw ht
  · obtain ⟨hbegun, hlane, hkey⟩ := h.of_running hw ht
    exact ⟨h.begun t hbegun, hlane, hkey⟩

namespace Waits

theorem fresh : Waits {} := nofun

/-- Of a caller that does not wait there is no command in a lane. -/
theorem caller_ne (h : x.Waits) (hc : x.callers[i]? = some c) (hstage : c.stage ≠ .waiting)
    (hw : w ∈ x.workers) (ht : w.Holds t) : t.caller ≠ i := by
  rintro rfl
  obtain ⟨d, hd, hwaits⟩ := h w hw t ht
  cases hc.symm.trans hd
  exact hstage hwaits

theorem staged (h : x.Waits) (hfree : ∀ w ∈ x.workers, ∀ t, w.Holds t → t.caller ≠ i) :
    (x.staged i stage).Waits := by
  intro w hw t ht
  obtain ⟨c, hc, hwaits⟩ := h w hw t ht
  exact ⟨c, by rw [getElem?_staged, hc, Option.map_some, if_neg (hfree w hw t ht).symm], hwaits⟩

theorem employed (h : x.Waits) (hw : x.workers[j]? = some w)
    (hheld : ∀ t, w'.Holds t → w.Holds t ∨ ∃ c, x.callers[t.caller]? = some c ∧
      c.stage = .waiting) :
    (x.employed j w').Waits := by
  intro v hv t ht
  rcases List.mem_or_eq_of_mem_set hv with hv | rfl
  · exact h v hv t ht
  · rcases hheld t ht with ht | hwaits
    · exact h w (List.mem_of_getElem? hw) t ht
    · exact hwaits

theorem step (h : x.Waits) (hx : x.IsSound) (hstep : x.step? capacity e = some y) : y.Waits := by
  cases Step.of_eq_some hstep with
  | call key' command =>
    intro w hw t ht
    obtain ⟨c, hc, hwaits⟩ := h w hw t ht
    exact ⟨c, (List.getElem?_append_left (List.getElem?_eq_some_iff.1 hc).1).trans hc, hwaits⟩
  | found hc hstage hlane =>
    exact h.staged fun w hw t ht => h.caller_ne hc (by rw [hstage]; nofun) hw ht
  | @opened i c hc hstage hlane =>
    have hopened : (x.opened capacity c.key).Waits := by
      intro w hw t ht
      rcases List.mem_append.1 hw with hw | hw
      · exact h w hw t ht
      · rw [List.mem_singleton.1 hw] at ht
        rcases ht with ht | ht <;> cases ht
    exact hopened.staged fun w hw t ht => hopened.caller_ne hc (by rw [hstage]; nofun) hw ht
  | @accepted i j c w lane hc hstage hw hlane =>
    have hwaiting : (x.staged i .waiting).Waits :=
      h.staged fun w hw t ht => h.caller_ne hc (by rw [hstage]; nofun) hw ht
    have hput : ((x.staged i .waiting).employed j { w with lane }).Waits := by
      refine hwaiting.employed hw fun t ht => ?_
      rcases ht with ht | ht
      · rw [Lane.queue_of_enqueue hlane] at ht
        rcases List.mem_append.1 ht with ht | ht
        · exact .inl (.inl ht)
        · rw [List.mem_singleton.1 ht]
          exact .inr ⟨{ c with stage := .waiting }, by
            rw [getElem?_staged, hc, Option.map_some, if_pos rfl], rfl⟩
      · exact .inl (.inr ht)
    exact hput
  | refused hc hstage hw hlane =>
    exact h.staged fun w hw t ht => h.caller_ne hc (by rw [hstage]; nofun) hw ht
  | @left i c hc hstage =>
    have hgone : (x.unregistered c.key).Waits := h
    exact hgone.staged fun w hw t ht => h.caller_ne hc (by rw [hstage]; nofun) hw ht
  | @begun j w t lane hw hrunning hlane =>
    have hqueue := Lane.queue_of_take? hlane
    have htaken : (x.employed j { w with lane, running := some t }).Waits := by
      refine h.employed hw fun u hu => .inl (.inl ?_)
      rw [hqueue]
      rcases hu with hu | hu
      · exact List.mem_cons_of_mem t hu
      · rw [← Option.some.inj hu]
        exact List.mem_cons_self
    exact htaken
  | @finished j w t c hw ht hc =>
    have hsound : (x.employed j { w with running := none }).IsSound :=
      hx.employed hw rfl rfl fun _ hnone => by cases hnone
    have hidle : (x.employed j { w with running := none }).Waits := by
      refine h.employed hw fun u hu => .inl (.inl ?_)
      rcases hu with hu | hu
      · exact hu
      · cases hu
    refine hidle.staged fun v hv u hu hcaller => ?_
    obtain ⟨k, hk⟩ := List.mem_iff_getElem?.1 hv
    obtain ⟨haccepted, hlane, -⟩ := hsound.of_holds hk hu
    obtain ⟨hbegun, htlane, -⟩ := hx.of_running hw ht
    -- the caller has no other ticket, and this one has left its lane
    obtain rfl := hx.caller_inj haccepted (hx.begun t hbegun) hcaller
    obtain rfl := hlane.symm.trans htlane
    replace hk := (getElem?_employed hw).symm.trans hk
    rw [if_pos rfl] at hk
    cases hk
    rcases hu with hu | hu
    · exact hx.not_mem_begun hw hu hbegun
    · cases hu
  | expired hw hrunning hopen => exact h.employed hw fun t ht => .inl ht
  | retired hw hrunning hclosed hqueue => exact h.employed hw fun t ht => .inl ht
  | @removed j w hw hrunning hclosed hqueue hlane =>
    have hended : (x.employed j { w with ended := true }).Waits := h.employed hw fun t ht => .inl ht
    exact hended

theorem run (h : run? capacity events = some x) : x.Waits :=
  run_induction fresh (fun _ _ _ _ _ hy hstep ih => ih.step (.run hy) hstep) h

end Waits

/-- At most one call of a thread has not ended. -/
def CallsAlone (x : Switchboard) (key : ThreadKey) : Prop :=
  ∀ (i k : ℕ) (c d : Caller), x.callers[i]? = some c → x.callers[k]? = some d → c.key = key →
    d.key = key →
    c.stage ≠ .done → d.stage ≠ .done → i = k

namespace CallsAlone

theorem fresh (key : ThreadKey) : CallsAlone {} key := by
  intro i k c d hc
  cases List.getElem?_nil.symm.trans hc

theorem staged (h : x.CallsAlone key) (hc : x.callers[i]? = some c) (hstage : c.stage ≠ .done) :
    (x.staged i stage).CallsAlone key := by
  -- a call that goes on has not ended before
  have hbefore : ∀ {k : ℕ} {d : Caller}, (x.staged i stage).callers[k]? = some d → d.stage ≠ .done →
      ∃ b, x.callers[k]? = some b ∧ b.key = d.key ∧ b.stage ≠ .done := by
    intro k d hd hgoes
    rw [getElem?_staged] at hd
    obtain ⟨b, hb, rfl⟩ := Option.map_eq_some_iff.1 hd
    split_ifs at hgoes ⊢ with hk
    · subst hk
      cases hc.symm.trans hb
      exact ⟨c, hc, rfl, hstage⟩
    · exact ⟨b, hb, rfl, hgoes⟩
  intro m k c' d' hc' hd' hkey hkey' hgoes hgoes'
  obtain ⟨b, hb, hbkey, hbgoes⟩ := hbefore hc' hgoes
  obtain ⟨b', hb', hbkey', hbgoes'⟩ := hbefore hd' hgoes'
  exact h m k b b' hb hb' (hbkey.trans hkey) (hbkey'.trans hkey') hbgoes hbgoes'

theorem call (h : x.CallsAlone key) {key' : ThreadKey} {command : Command}
    (hdone : key' = key → ∀ c ∈ x.callers, c.key = key → c.stage = .done) :
    CallsAlone { x with callers := x.callers ++ [{ key := key', command }] } key := by
  -- a call that goes on is an old one, of another thread than the new one, or it is the new one
  have hcases : ∀ {k : ℕ} {d : Caller}, (x.callers ++ [{ key := key', command }])[k]? = some d →
      d.key = key →
      d.stage ≠ .done → (x.callers[k]? = some d ∧ key' ≠ key) ∨
        (k = x.callers.length ∧ key' = key) := by
    intro k d hd hkey hgoes
    rw [List.getElem?_append] at hd
    split_ifs at hd with hlt
    · exact .inl ⟨hd, fun hkey' => hgoes (hdone hkey' d (List.mem_of_getElem? hd) hkey)⟩
    · obtain ⟨hk, rfl⟩ := List.getElem?_eq_some_iff.1 hd
      rw [List.length_singleton] at hk
      refine .inr ⟨by omega, ?_⟩
      rwa [List.getElem_singleton] at hkey
  intro i k c d hc hd hkey hkey' hgoes hgoes'
  rcases hcases hc hkey hgoes with ⟨hc, hne⟩ | ⟨rfl, hnew⟩ <;>
    rcases hcases hd hkey' hgoes' with ⟨hd, hne'⟩ | ⟨rfl, hnew'⟩
  · exact h i k c d hc hd hkey hkey' hgoes hgoes'
  · exact absurd hnew' hne
  · exact absurd hnew hne'
  · rfl

theorem step (h : x.CallsAlone key) (hwaits : x.Waits) (hstep : x.step? capacity e = some y)
    (hdone : ∀ command, e = .call key command → ∀ c ∈ x.callers, c.key = key → c.stage = .done) :
    y.CallsAlone key := by
  cases Step.of_eq_some hstep with
  | call key' command => exact h.call fun hkey => hdone command (hkey ▸ rfl)
  | found hc hstage hlane => exact h.staged hc (by rw [hstage]; nofun)
  | opened hc hstage hlane => exact staged (x := x.opened capacity _) h hc (by rw [hstage]; nofun)
  | accepted hc hstage hw hlane => exact h.staged hc (by rw [hstage]; nofun)
  | refused hc hstage hw hlane => exact h.staged hc (by rw [hstage]; nofun)
  | @left i c hc hstage => exact staged (x := x.unregistered c.key) h hc (by rw [hstage]; nofun)
  | begun hw hrunning hlane => exact h
  | @finished j w t c hw ht hc =>
    obtain ⟨d, hd, hwaiting⟩ := hwaits w (List.mem_of_getElem? hw) t (.inr ht)
    cases hc.symm.trans hd
    exact staged (x := x.employed j { w with running := none }) h hc (by rw [hwaiting]; nofun)
  | expired hw hrunning hopen => exact h
  | retired hw hrunning hclosed hqueue => exact h
  | removed hw hrunning hclosed hqueue hlane => exact h

theorem run (h : run? capacity events = some x) (hturns : CallsInTurn capacity key events) :
    x.CallsAlone key := by
  refine run_induction (P := fun y => y.CallsAlone key) (fresh key)
    (fun past e y z hinit hy hstep ih => ?_) h
  exact ih.step (.run hy) hstep fun command hcommand => hturns past command y (hcommand ▸ hinit) hy

/-- When the only call of a thread opens a lane, nothing is left to do in those before. -/
theorem isSpent (h : x.CallsAlone key) (hx : x.IsSound) (hwaits : x.Waits) (hopens : x.Opens key e)
    (hj : x.keyOf j = some key) : x.IsSpent j := by
  obtain ⟨i, c, -, hc, hstage, hkey, -⟩ := hopens
  have hlooks : c.stage ≠ .done := by simp [hstage]
  constructor
  · intro w hw
    have hnone : ∀ t, ¬ w.Holds t := by
      intro t ht
      obtain ⟨haccepted, -, htkey⟩ := hx.of_holds hw ht
      obtain ⟨-, d, hd, hdkey, -⟩ := hx.accepted t haccepted
      obtain ⟨d', hd', hwaiting⟩ := hwaits w (List.mem_of_getElem? hw) t ht
      cases hd.symm.trans hd'
      rw [keyOf, hw, Option.map_some, htkey, ← hdkey] at hj
      obtain rfl := h i t.caller c d hc hd hkey (Option.some.inj hj) hlooks (by simp [hwaiting])
      cases hc.symm.trans hd
      cases hstage.symm.trans hwaiting
    exact ⟨List.eq_nil_iff_forall_not_mem.2 fun t ht => hnone t (.inl ht),
      Option.eq_none_iff_forall_ne_some.2 fun t ht => hnone t (.inr ht)⟩
  · intro d hd hsends
    obtain ⟨k, hk⟩ := List.mem_iff_getElem?.1 hd
    have hdkey := Option.some.inj ((hx.sought d hd j hsends).symm.trans hj)
    obtain rfl := h i k c d hc hk hkey hdkey hlooks (by simp [hsends])
    cases hc.symm.trans hk
    cases hstage.symm.trans hsends

end CallsAlone

/-- Where no calls overlap, lanes are opened one after another. -/
theorem CallsInTurn.takesTurns (h : CallsInTurn capacity key events) :
    TakesTurns capacity key events := by
  intro past e x hinit hrun hopens j hj
  have hpast : past <+: events := (List.prefix_append past [e]).trans hinit
  have hcalls : CallsInTurn capacity key past := fun past' command z hinit' =>
    h past' command z (hinit'.trans hpast)
  exact (CallsAlone.run hrun hcalls).isSpent (.run hrun) (.run hrun) hopens hj

end Switchboard

end Parley
