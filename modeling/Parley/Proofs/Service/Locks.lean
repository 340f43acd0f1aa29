import Parley.Proofs.Conversation.Locking
import Parley.Proofs.Service.Accounts

/-!
# What is told of a locked path

A path that becomes locked is told of, and as long as the lock stays on it the last event of a lock
names it.  An override of a conversation whose path is locked already moves the lock without a word:
then what was told names the path that was locked before.

* `Operation.Moves.locked?_of_locked`: a lock stays, or an override moves it;
* `Service.Relocks`: inputs among which an override moves a lock;
* `Service.NamesLock`: what the last event of a lock says, kept by every operation;
* `Service.lock_told_or_moved`.
-/

namespace Parley

/-! ### Locks that move -/

namespace Operation.Moves

variable {policy : PolicySettings Binary64} {operation : Operation} {c c' : Conversation}

/-- A lock stays on its path, or an override moves it to its own. -/
theorem locked?_of_locked (h : operation.Moves policy c c') {path : PathId}
    (hc : c.path.locked? = some path) :
    c'.path.locked? = some path ∨
      ∃ path', operation = .overridePath path' ∧ c'.path.locked? = some path' := by
  rcases h.path with hpath | ⟨input, -, hpath⟩ | ⟨path', hoperation, hpath⟩
  · exact .inl (hpath ▸ hc)
  · rw [hpath, policy.observe_of_isLocked (PathState.locked?_eq_some.1 hc).1]
    exact .inl hc
  · rw [hpath]
    exact .inr ⟨path', hoperation, rfl⟩

/-- Whatever locks a path names it. -/
theorem locked?_isSome (h : operation.Moves policy c c')
    (hc : c.path.isLocked = true → c.path.locked?.isSome = true) (hc' : c'.path.isLocked = true) :
    c'.path.locked?.isSome = true := by
  rcases h.path with hpath | ⟨input, -, hpath⟩ | ⟨path, -, hpath⟩
  · rw [hpath] at hc' ⊢
    exact hc hc'
  · cases hlocked : c.path.isLocked with
    | true =>
      rw [hpath, policy.observe_of_isLocked hlocked]
      exact hc hlocked
    | false =>
      cases hsignal : input.path with
      | none =>
        rw [hpath, hsignal] at hc'
        simp [PolicySettings.observe, hlocked] at hc'
      | some signal =>
        have hvote : c'.path = (policy.vote c.path signal).1 := by
          rw [hpath, hsignal, PolicySettings.observe, if_neg (by simp [hlocked])]
        rw [PathState.locked?_eq_some.2 ⟨hc', hvote ▸ policy.active_vote c.path signal⟩]
        rfl
  · rw [hpath]
    rfl

end Operation.Moves

theorem Conversation.Agrees.locked? {c c' : Conversation} (h : c.Agrees c') :
    c'.path.locked? = c.path.locked? := by
  rw [PathState.locked?, PathState.locked?, h.isLocked, h.active]

namespace Service

variable {settings : ServiceSettings} {key : ThreadKey} {s : Service} {path : PathId}

/-- The path that is locked in the conversation of a thread. -/
def locked? (s : Service) (key : ThreadKey) : Option PathId :=
  (s.store.conversations.get? key).bind fun c => c.path.locked?

/-- Among inputs there is an override that moves the lock of a thread to a path from another one. -/
def Relocks (settings : ServiceSettings) (key : ThreadKey) (s : Service) (inputs : List Input)
    (path : PathId) : Prop :=
  ∃ earlier rest path', inputs = earlier ++ .command key (.operate (.overridePath path)) :: rest ∧
    path' ≠ path ∧
    (s.after settings earlier).locked? key = some path' ∧
    (s.after settings (earlier ++ [.command key (.operate (.overridePath path))])).locked?
      key = some path

theorem Relocks.concat {inputs : List Input} (h : Relocks settings key s inputs path)
    (input : Input) :
    Relocks settings key s (inputs ++ [input]) path := by
  obtain ⟨earlier, rest, path', rfl, h⟩ := h
  exact ⟨earlier, rest ++ [input], path', by rw [List.append_assoc, List.cons_append], h⟩

/-- The path that is locked is the last one that was told of, or an override has moved the lock to
it. -/
structure NamesLock (settings : ServiceSettings) (key : ThreadKey) (s : Service)
    (inputs : List Input)
    (c : Conversation) (told : List Event) : Prop where
  accounts : Accounts told c
  named : c.path.isLocked = true → c.path.locked?.isSome = true
  last : ∀ path, c.path.locked? = some path →
    (told.filterMap Event.lock?).getLast? = some path ∨ Relocks settings key s inputs path

namespace NamesLock

variable {inputs : List Input} {told : List Event} {c c' kept : Conversation}

theorem opened (hturn : c.turn = 0) (hpath : c.path = {}) :
    NamesLock settings key s [] c (news key none c) where
  accounts := accounts_news hturn hpath
  named h := by
    rw [hpath] at h
    cases h
  last path h := by
    rw [hpath] at h
    cases h

theorem concat (h : NamesLock settings key s inputs c told) (input : Input) :
    NamesLock settings key s (inputs ++ [input]) c told where
  accounts := h.accounts
  named := h.named
  last path hpath := (h.last path hpath).imp_right fun hmoved => hmoved.concat input

/-- An operation that is refused tells nothing of locks. -/
theorem lost {operation : Operation} (h : NamesLock settings key s inputs kept told)
    (hagrees : kept.Agrees c) (hmoves : operation.Moves settings.engine.policy c c')
    (input : Input) :
    NamesLock settings key s (inputs ++ [input]) kept (told ++ turnEvents key (some c) c') where
  accounts := h.accounts.lost hagrees hmoves
  named := h.named
  last path hpath := by
    rw [List.filterMap_append, (filterMap_turnEvents key (some c) c').2.1, List.append_nil]
    exact (h.last path hpath).imp_right fun hmoved => hmoved.concat input

/-- **An operation keeps it so.**  A path that becomes locked is told of at once, and a lock that
moves was moved by the operation. -/
theorem moved {operation : Operation} (h : NamesLock settings key s inputs kept told)
    (hkept : (s.after settings inputs).store.conversations.get? key = some kept)
    (hkept' :
      (s.after settings (inputs ++ [.command key (.operate operation)])).store.conversations.get?
        key = some c')
    (hagrees : kept.Agrees c) (hmoves : operation.Moves settings.engine.policy c c') :
    NamesLock settings key s (inputs ++ [.command key (.operate operation)]) c'
      (told ++ news key (some c) c') where
  accounts := h.accounts.moved hagrees hmoves
  named := by
    refine hmoves.locked?_isSome fun hlocked => ?_
    rw [hagrees.locked?]
    exact h.named (hagrees.isLocked ▸ hlocked)
  last path hpath := by
    rw [List.filterMap_append, locks_news]
    cases hlocked : c.path.isLocked with
    | false =>
      rw [h.accounts.unlocked (hagrees.isLocked ▸ hlocked), if_neg (by simp [hlocked]), hpath]
      exact .inl rfl
    | true =>
      rw [if_pos (by simpa using hlocked), List.append_nil]
      obtain ⟨before, hbefore⟩ := Option.isSome_iff_exists.1 (h.named (hagrees.isLocked ▸ hlocked))
      rcases hmoves.locked?_of_locked (hagrees.locked?.trans hbefore) with
        hsame | ⟨path', rfl, hpath'⟩
      · obtain rfl : before = path := Option.some.inj (hsame.symm.trans hpath)
        exact (h.last before hbefore).imp_right fun hmoved => hmoved.concat _
      · obtain rfl : path' = path := Option.some.inj (hpath'.symm.trans hpath)
        by_cases hsame : before = path'
        · subst hsame
          exact (h.last before hbefore).imp_right fun hmoved => hmoved.concat _
        · refine .inr ⟨inputs, [], before, rfl, hsame, ?_, ?_⟩
          · rwa [locked?, hkept, Option.bind_some]
          · rwa [locked?, hkept', Option.bind_some]

end NamesLock

/-- **A locked path is told of, but not that a lock has moved.**  After any inputs since a thread
was opened, and until it is closed, the last event of a lock names the path that is locked, or an
override of this path came while another one was locked. -/
theorem lock_told_or_moved (settings : ServiceSettings) (s : Service) (key : ThreadKey)
    (flow : FlowId) (context : Dict Json) {reply : CommandReply}
    (hstart : (s.execute settings key (.start flow context)).2 = .ok reply) (inputs : List Input)
    (hopen : .command key .close ∉ inputs) :
    let opened := (s.execute settings key (.start flow context)).1
    let s' := opened.after settings inputs
    ∃ told, s'.told key = s.told key ++ told ∧
      ∀ path, s'.locked? key = some path →
        (told.filterMap Event.lock?).getLast? = some path ∨
        Relocks settings key opened inputs path := by
  intro opened s'
  obtain ⟨c, told, hc, htold, hnames⟩ := told_induction (P := NamesLock settings key opened) hstart
    (fun c hturn hpath => .opened hturn hpath) (fun inputs input c told h _ => h.concat input)
    (fun inputs operation reason kept c c' told h _ _ hagrees hmoves => h.lost hagrees hmoves _)
    (fun inputs operation kept c c' told h hkept hkept' hagrees hmoves =>
      h.moved hkept hkept' hagrees hmoves)
    inputs hopen
  refine ⟨told, htold, fun path hpath => hnames.last path ?_⟩
  rwa [locked?, hc, Option.bind_some] at hpath

end Service

open Samples in
/-- The signals for a path lock it, and the event names it. -/
theorem Service.lock_told_junction :
    (∃ reply, boarded.2 = .ok reply) ∧ .command ada .close ∉ turnings ∧
      let s := boarded.1.after attended turnings
      s.locked? ada = some "right" ∧ ((s.told ada).filterMap Event.lock?).getLast? =
        some "right" := by
  have hopen : (.command ada .close : Input) ∉ turnings := by simp [turnings]
  have hlocked : (boarded.1.after attended turnings).locked? ada = some "right" := by decide +kernel
  obtain ⟨reply, hreply⟩ := boarded_ok
  have htold := lock_told_or_moved attended junctionService ada "junction" [] hreply turnings hopen
  rw [← boarded] at htold
  obtain ⟨told, happended, hlast⟩ := htold
  rw [junctionService_told, List.nil_append] at happended
  refine ⟨⟨reply, hreply⟩, hopen, hlocked, ?_⟩
  rw [happended]
  refine (hlast "right" hlocked).resolve_right ?_
  -- there is no override among the turns
  rintro ⟨earlier, rest, -, hinputs, -⟩
  have hmem : (.command ada (.operate (.overridePath "right")) : Input) ∈ turnings := by
    rw [hinputs]
    exact List.mem_append_right earlier List.mem_cons_self
  simp [turnings] at hmem

namespace Samples

/-- A path is overridden while another one is locked. -/
def overrides : List Service.Input := [
  .command ada (.operate (.overridePath "left")),
  .command ada (.operate (.overridePath "right"))]

/-- The second override moves the lock, and only the first one is told of. -/
theorem overrides_not_told :
    Host.builtin.compile junction = .ok junctionGraph ∧ (∃ reply, boarded.2 = .ok reply) ∧
      .command ada .close ∉ overrides ∧
      let s := boarded.1.after attended overrides
      s.locked? ada = some "right" ∧ s.told ada = junctionService.told ada ++
        [.pathLocked ada "left"] :=
  ⟨compile_junction, boarded_ok, by simp [overrides], by decide +kernel, by decide +kernel⟩

end Samples

end Parley
