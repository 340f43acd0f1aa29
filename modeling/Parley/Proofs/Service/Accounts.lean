import Parley.Proofs.Service.Events

/-!
# The account of a conversation

The events of a thread since it was opened can be read as the history of its conversation: the turns
in their order, the lock once, and the end last of all turns.  But a turn is told of before it is
stored.  When the store refuses it, its number is told again with the next turn.

* `Service.CountsTo`: numbers that are told in order, some of them perhaps more than once;
* `Service.Accounts`: what has been told matches the conversation that is stored;
* `Service.Accounts.moved`, `Service.Accounts.lost`: what is told of an operation goes on with what
  was told before;
* `Service.told_induction`: from one operation to all inputs until the thread is closed;
* `Service.Misreports`: inputs among which a turn was told of and refused;
* `Service.told_in_order`, `Samples.refused_told_again`.
-/

namespace Parley

namespace Service

/-! ### Accounts -/

/-- Numbers that count up to a number.  They never go back and leave none out, and at most the next
number is among them too early. -/
structure CountsTo (numbers : List ℕ) (n : ℕ) : Prop where
  rising : numbers.Pairwise (· ≤ ·)
  bounded : ∀ k ∈ numbers, 1 ≤ k ∧ k ≤ n + 1
  complete : ∀ k, 1 ≤ k → k ≤ n → k ∈ numbers

namespace CountsTo

variable {numbers : List ℕ} {n : ℕ}

theorem zero : CountsTo [] 0 := ⟨.nil, nofun, fun _ hpos hle => absurd hpos (by omega)⟩

/-- The next number is told, but the count stays. -/
theorem again (h : CountsTo numbers n) : CountsTo (numbers ++ [n + 1]) n where
  rising := List.pairwise_append.2
    ⟨h.rising, List.pairwise_singleton _ _, fun k hk _ hnext =>
      List.mem_singleton.1 hnext ▸ (h.bounded k hk).2⟩
  bounded k hk := by
    rcases List.mem_append.1 hk with hk | hk
    · exact h.bounded k hk
    · rw [List.mem_singleton.1 hk]
      omega
  complete k hpos hle := List.mem_append_left _ (h.complete k hpos hle)

/-- The next number is told, and the count goes on. -/
theorem next (h : CountsTo numbers n) : CountsTo (numbers ++ [n + 1]) (n + 1) where
  rising := h.again.rising
  bounded k hk := ⟨(h.again.bounded k hk).1, (h.again.bounded k hk).2.trans (Nat.le_succ _)⟩
  complete k hpos hle := by
    rcases Nat.le_or_eq_of_le_succ hle with hle | rfl
    · exact h.again.complete k hpos hle
    · exact List.mem_append_right _ (List.mem_singleton_self _)

end CountsTo

/-- What has been told of a conversation matches it as it is stored. -/
structure Accounts (told : List Event) (c : Conversation) : Prop where
  turns : CountsTo (told.filterMap Event.turn?) c.turn
  locks : (told.filterMap Event.lock?).length ≤ 1
  unlocked : c.path.isLocked = false → told.filterMap Event.lock? = []
  ends : (told.filterMap Event.end?).length ≤ 1
  running : c.status.isTerminal = false → told.filterMap Event.end? = []
  last : told.Pairwise fun e e' => e.end? ≠ none → e'.turn? = none

section Accounts

variable {key : ThreadKey} {before : Option Conversation} {c c' kept : Conversation}
    {told : List Event}

theorem filterMap_turnEvents (key : ThreadKey) (before : Option Conversation) (c : Conversation) :
    (turnEvents key before c).filterMap Event.turn? =
      (if before.all fun b => b.turn = c.turn then [] else [c.turn]) ∧
      (turnEvents key before c).filterMap Event.lock? = [] ∧
      (turnEvents key before c).filterMap Event.end? = [] := by
  unfold turnEvents
  split_ifs <;> exact ⟨rfl, rfl, rfl⟩

theorem filterMap_lockEvents (key : ThreadKey) (before : Option Conversation) (c : Conversation) :
    (lockEvents key before c).filterMap Event.turn? = [] ∧
      (lockEvents key before c).filterMap Event.lock? =
        (if before.any fun b => b.path.isLocked then [] else c.path.locked?.toList) ∧
      (lockEvents key before c).filterMap Event.end? = [] := by
  unfold lockEvents
  split_ifs
  · exact ⟨rfl, rfl, rfl⟩
  · cases c.path.locked? <;> exact ⟨rfl, rfl, rfl⟩

theorem filterMap_statusEvents (key : ThreadKey) (before : Option Conversation) (status : Status) :
    (statusEvents key before status).filterMap Event.turn? = [] ∧
      (statusEvents key before status).filterMap Event.lock? = [] ∧
      ((statusEvents key before status).filterMap Event.end?).length ≤ 1 ∧
      ((before.any fun b => b.status = status) = true ∨ status.isTerminal = false →
        (statusEvents key before status).filterMap Event.end? = []) := by
  unfold statusEvents
  split_ifs with hsame
  · exact ⟨rfl, rfl, Nat.zero_le _, fun _ => rfl⟩
  · cases status with
    | awaitingInput => exact ⟨rfl, rfl, Nat.zero_le _, fun _ => rfl⟩
    | escalated reason => exact ⟨rfl, rfl, Nat.zero_le _, fun _ => rfl⟩
    | terminal node => exact ⟨rfl, rfl, le_rfl, fun h => absurd (h.resolve_right nofun) hsame⟩

theorem turns_news (key : ThreadKey) (before : Option Conversation) (c : Conversation) :
    (news key before c).filterMap Event.turn? =
      if before.all fun b => b.turn = c.turn then [] else [c.turn] := by
  rw [news, List.filterMap_append, List.filterMap_append, (filterMap_turnEvents key before c).1,
    (filterMap_lockEvents key before c).1, (filterMap_statusEvents key before c.status).1,
    List.append_nil, List.append_nil]

theorem locks_news (key : ThreadKey) (before : Option Conversation) (c : Conversation) :
    (news key before c).filterMap Event.lock? =
      if before.any fun b => b.path.isLocked then [] else c.path.locked?.toList := by
  rw [news, List.filterMap_append, List.filterMap_append, (filterMap_turnEvents key before c).2.1,
    (filterMap_lockEvents key before c).2.1, (filterMap_statusEvents key before c.status).2.1,
    List.nil_append, List.append_nil]

theorem ends_news (key : ThreadKey) (before : Option Conversation) (c : Conversation) :
    (news key before c).filterMap Event.end? =
      (statusEvents key before c.status).filterMap Event.end? := by
  rw [news, List.filterMap_append, List.filterMap_append, (filterMap_turnEvents key before c).2.2,
    (filterMap_lockEvents key before c).2.2, List.nil_append, List.nil_append]

/-- A turn is told of before the end to which it leads. -/
theorem news_inOrder (key : ThreadKey) (before : Option Conversation) (c : Conversation) :
    (news key before c).Pairwise fun e e' => e.end? ≠ none → e'.turn? = none := by
  have hfirst : ∀ e ∈ turnEvents key before c, e.end? = none :=
    List.filterMap_eq_nil_iff.1 (filterMap_turnEvents key before c).2.2
  have hthen : ∀ e ∈ lockEvents key before c ++ statusEvents key before c.status,
      e.turn? = none := by
    refine List.filterMap_eq_nil_iff.1 ?_
    rw [List.filterMap_append, (filterMap_lockEvents key before c).1,
      (filterMap_statusEvents key before c.status).1, List.append_nil]
  refine List.pairwise_append.2 ⟨?_, ?_, fun e _ e' he' _ => hthen e' he'⟩
  · exact List.pairwise_of_forall_mem_list fun e he _ _ hend => absurd (hfirst e he) hend
  · exact List.pairwise_of_forall_mem_list fun _ _ e' he' _ => hthen e' he'

/-- What is told of a conversation that is opened. -/
theorem accounts_news (hturn : c.turn = 0) (hpath : c.path = {}) :
    Accounts (news key none c) c := by
  obtain ⟨-, -, hends, hrunning⟩ := filterMap_statusEvents key none c.status
  have hlocks : (news key none c).filterMap Event.lock? = [] := by
    rw [locks_news, hpath]
    rfl
  exact {
    turns := by
      rw [turns_news, hturn]
      exact .zero
    locks := by rw [hlocks]; exact Nat.zero_le _
    unlocked := fun _ => hlocks
    ends := by rwa [ends_news]
    running := fun h => by rw [ends_news, hrunning (.inr h)]
    last := news_inOrder key none c }

/-- Once the end has been told of, no operation tells of a turn. -/
theorem Accounts.no_turn {policy : PolicySettings Binary64} {operation : Operation}
    (h : Accounts told kept) (hagrees : kept.Agrees c) (hmoves : operation.Moves policy c c')
    {e : Event} (he : e ∈ told) (hend : e.end? ≠ none) :
    ∀ e' ∈ news key (some c) c', e'.turn? = none := by
  have hended : c.status.isTerminal = true := by
    by_contra hstatus
    have hnone := h.running (hagrees.status ▸ Bool.eq_false_iff.2 hstatus)
    exact hend (List.filterMap_eq_nil_iff.1 hnone e he)
  have hturns := turns_news key (some c) c'
  rw [if_pos (by simp [hmoves.turn_of_ended hended])] at hturns
  exact List.filterMap_eq_nil_iff.1 hturns

/-- **What is told of an operation goes on with what was told before.** -/
theorem Accounts.moved {policy : PolicySettings Binary64} {operation : Operation}
    (h : Accounts told kept) (hagrees : kept.Agrees c) (hmoves : operation.Moves policy c c') :
    Accounts (told ++ news key (some c) c') c' := by
  have hends : c.status.isTerminal = true → (news key (some c) c').filterMap Event.end? = [] := by
    intro hended
    rw [ends_news]
    exact (filterMap_statusEvents key (some c) c'.status).2.2.2
      (.inl (by simp [hmoves.ended hended]))
  have hrunning : c'.status.isTerminal = false → c.status.isTerminal = false := fun hstatus => by
    by_contra hended
    rw [Bool.not_eq_false] at hended
    rw [hmoves.ended hended, hended] at hstatus
    cases hstatus
  constructor
  case turns =>
    have hturns := h.turns
    rw [List.filterMap_append, turns_news]
    rw [← hagrees.turn] at hturns
    rcases hmoves.turn with hturn | ⟨-, -, hturn⟩
    · rwa [if_pos (by simp [hturn]), List.append_nil, hturn]
    · rw [if_neg (by simp [hturn]), hturn]
      exact hturns.next
  case locks =>
    rw [List.filterMap_append, locks_news]
    cases hlocked : c.path.isLocked with
    | true =>
      rw [if_pos (by simpa using hlocked), List.append_nil]
      exact h.locks
    | false =>
      rw [h.unlocked (hagrees.isLocked ▸ hlocked), List.nil_append, if_neg (by simp [hlocked])]
      cases c'.path.locked? <;> simp
  case unlocked =>
    intro hopen
    have hlocked : c.path.isLocked = false := by
      by_contra hlocked
      rw [hmoves.isLocked (Bool.not_eq_false _ ▸ hlocked)] at hopen
      cases hopen
    rw [List.filterMap_append, locks_news, h.unlocked (hagrees.isLocked ▸ hlocked),
      if_neg (by simp [hlocked]), PathState.locked?, hopen]
    rfl
  case ends =>
    rw [List.filterMap_append]
    cases hstatus : c.status.isTerminal with
    | true =>
      rw [hends hstatus, List.append_nil]
      exact h.ends
    | false =>
      rw [h.running (hagrees.status ▸ hstatus), List.nil_append, ends_news]
      exact (filterMap_statusEvents key (some c) c'.status).2.2.1
  case running =>
    intro hstatus
    rw [List.filterMap_append, h.running (hagrees.status ▸ hrunning hstatus),
      List.nil_append, ends_news]
    exact (filterMap_statusEvents key (some c) c'.status).2.2.2 (.inr hstatus)
  case last =>
    refine List.pairwise_append.2 ⟨h.last, news_inOrder key (some c) c', fun e he e' he' hend => ?_⟩
    exact h.no_turn hagrees hmoves he hend e' he'

/-- What is told of an operation that is then refused leaves the conversation accounted for as it is
stored. -/
theorem Accounts.lost {policy : PolicySettings Binary64} {operation : Operation}
    (h : Accounts told kept) (hagrees : kept.Agrees c) (hmoves : operation.Moves policy c c') :
    Accounts (told ++ turnEvents key (some c) c') kept := by
  obtain ⟨hturns, hlocks, hends⟩ := filterMap_turnEvents key (some c) c'
  constructor
  case turns =>
    rw [List.filterMap_append, hturns]
    rcases hmoves.turn with hturn | ⟨-, -, hturn⟩
    · rw [if_pos (by simp [hturn]), List.append_nil]
      exact h.turns
    · rw [if_neg (by simp [hturn]), hturn, hagrees.turn]
      exact h.turns.again
  case locks =>
    rw [List.filterMap_append, hlocks, List.append_nil]
    exact h.locks
  case unlocked =>
    rw [List.filterMap_append, hlocks, List.append_nil]
    exact h.unlocked
  case ends =>
    rw [List.filterMap_append, hends, List.append_nil]
    exact h.ends
  case running =>
    rw [List.filterMap_append, hends, List.append_nil]
    exact h.running
  case last =>
    have hfirst : ∀ e ∈ turnEvents key (some c) c', e.end? = none :=
      List.filterMap_eq_nil_iff.1 hends
    refine List.pairwise_append.2 ⟨h.last, ?_, fun e he e' he' hend => ?_⟩
    · exact List.pairwise_of_forall_mem_list fun e he _ _ hend => absurd (hfirst e he) hend
    · exact h.no_turn hagrees hmoves he hend e' (turnEvents_subset _ _ _ he')

end Accounts

/-! ### Histories of a thread -/

section Histories

variable {settings : ServiceSettings} {s : Service} {key : ThreadKey} {flow : FlowId}
    {context : Dict Json}
  {reply : CommandReply}

theorem after_concat (settings : ServiceSettings) (s : Service) (inputs : List Input)
    (input : Input) :
    s.after settings (inputs ++ [input]) = (s.after settings inputs).handle settings input :=
  List.foldl_concat ..

/-- A thread that could be opened holds a new conversation. -/
theorem start_opens (h : (s.execute settings key (.start flow context)).2 = .ok reply) :
    ∃ c, c.turn = 0 ∧ c.path = {} ∧
      (s.execute settings key (.start flow context)).1.store.conversations.get? key = some c ∧
      (s.execute settings key (.start flow context)).1.told key = s.told key ++
        news key none c := by
  rcases execute_cases settings s key (.start flow context) none with
    ⟨-, -, hdoes⟩ | ⟨⟨failure, hfailure⟩, -⟩ | ⟨reason, -, hrefusal, -⟩
  · cases hdoes with
    | started hnone hturn hpath hstore hevents =>
      refine ⟨_, hturn, hpath, ?_, told_of_subset (List.Subset.refl _) hevents⟩
      rw [hstore, Store.save, Table.get?_set, if_pos rfl]
  · rw [h] at hfailure
    cases hfailure
  · cases hrefusal

/-- What holds of a new conversation and what is told of it, and is kept by every operation, also by
one that is refused, holds until the thread is closed.  It may depend on the inputs so far. -/
theorem told_induction {P : List Input → Conversation → List Event → Prop}
    (hstart : (s.execute settings key (.start flow context)).2 = .ok reply)
    (hopened : ∀ c : Conversation, c.turn = 0 → c.path = {} → P [] c (news key none c))
    (hpassed : ∀ inputs input c told, P inputs c told →
      let opened := (s.execute settings key (.start flow context)).1
      (opened.after settings (inputs ++ [input])).told key =
        (opened.after settings inputs).told key →
      P (inputs ++ [input]) c told)
    (hlost : ∀ inputs operation reason kept c c' told, P inputs kept told →
      let opened := (s.execute settings key (.start flow context)).1
      let refused := .command key (.operate operation) (some reason)
      ((opened.after settings inputs).execute settings key (.operate operation) (some reason)).2 =
        .error (.unwritten reason) →
      (opened.after settings (inputs ++ [refused])).told key =
        (opened.after settings inputs).told key ++ turnEvents key (some c) c' →
      kept.Agrees c → operation.Moves settings.engine.policy c c' →
      P (inputs ++ [refused]) kept (told ++ turnEvents key (some c) c'))
    (hmoved : ∀ inputs operation kept c c' told, P inputs kept told →
      let opened := (s.execute settings key (.start flow context)).1
      (opened.after settings inputs).store.conversations.get? key = some kept →
      (opened.after settings
        (inputs ++ [.command key (.operate operation)])).store.conversations.get? key = some c' →
      kept.Agrees c → operation.Moves settings.engine.policy c c' →
      P (inputs ++ [.command key (.operate operation)]) c' (told ++ news key (some c) c'))
    (inputs : List Input) (hopen : .command key .close ∉ inputs) :
    let s' := (s.execute settings key (.start flow context)).1.after settings inputs
    ∃ c told, s'.store.conversations.get? key = some c ∧ s'.told key = s.told key ++ told ∧
      P inputs c told := by
  induction inputs using List.reverseRecOn with
  | nil =>
    obtain ⟨c, hturn, hpath, hc, htold⟩ := start_opens hstart
    exact ⟨c, _, hc, htold, hopened c hturn hpath⟩
  | append_singleton inputs input ih =>
    rw [List.mem_append, not_or] at hopen
    obtain ⟨c, told, hc, htold, hP⟩ := ih hopen.1
    rw [after_concat]
    rcases handle_cases settings _ key input with
      hpasses | ⟨command, rfl, hdoes⟩ | ⟨command, reason, rfl, hfailed, hloses⟩
    · refine ⟨c, told, hpasses.held.trans hc, hpasses.told.trans htold,
        hpassed inputs input c told hP ?_⟩
      rw [after_concat]
      exact hpasses.told
    · cases hdoes with
      | closed => exact absurd (List.mem_singleton_self _) hopen.2
      | started hnone =>
        rw [hc] at hnone
        cases hnone
      | moved hkept hagrees hmoves hstore hevents =>
        rw [hc, Option.some.injEq] at hkept
        subst hkept
        have hc' := congrArg (fun store => store.conversations.get? key) hstore
        rw [Store.save, Table.get?_set, if_pos rfl] at hc'
        refine ⟨_, told ++ news key _ _, hc', ?_,
          hmoved inputs _ c _ _ told hP hc ?_ hagrees hmoves⟩
        · rw [told_of_subset (List.Subset.refl _) hevents, htold, List.append_assoc]
        · rw [after_concat]
          exact hc'
    · cases hloses with
      | unwritten hkept hagrees hmoves hstore hevents =>
        rw [hc, Option.some.injEq] at hkept
        subst hkept
        have hgrows := told_of_subset (turnEvents_subset _ _ _) hevents
        refine ⟨c, told ++ turnEvents key _ _, by rw [hstore, hc], ?_,
          hlost inputs _ reason c _ _ told hP hfailed ?_ hagrees hmoves⟩
        · rw [hgrows, htold, List.append_assoc]
        · rw [after_concat]
          exact hgrows

/-- Closing a thread drops its conversation and tells nothing. -/
theorem close_drops (settings : ServiceSettings) (s : Service) (key : ThreadKey) :
    (s.execute settings key .close).1.store.conversations.get? key = none ∧
      (s.execute settings key .close).1.told key = s.told key := by
  rcases execute_cases settings s key .close none with
    ⟨-, -, hdoes⟩ | ⟨⟨failure, hfailure⟩, -⟩ | ⟨reason, -, hrefusal, -⟩
  · cases hdoes with
    | closed hstore hevents =>
      refine ⟨?_, by rw [told, told, hevents]⟩
      rw [hstore, Store.delete, Table.get?_erase, if_pos rfl]
  · cases hfailure
  · cases hrefusal

/-- Nothing is told of a thread that holds no conversation until it is opened. -/
theorem told_of_absent (hnone : s.store.conversations.get? key = none) (idle : List Input)
    (hidle : ∀ flow context, .command key (.start flow context) ∉ idle) :
    (s.after settings idle).store.conversations.get? key = none ∧
    (s.after settings idle).told key = s.told key := by
  induction idle using List.reverseRecOn with
  | nil => exact ⟨hnone, rfl⟩
  | append_singleton idle input ih =>
    obtain ⟨habsent, htold⟩ :=
      ih fun flow context h => hidle flow context (List.mem_append_left _ h)
    rw [after_concat]
    rcases handle_cases settings (s.after settings idle) key input with
      hpasses | ⟨command, rfl, hdoes⟩ | ⟨command, reason, rfl, -, hloses⟩
    · exact ⟨hpasses.held.trans habsent, hpasses.told.trans htold⟩
    · cases hdoes with
      | closed hstore hevents =>
        refine ⟨?_, by rw [told, hevents, ← told, htold]⟩
        rw [hstore, Store.delete, Table.get?_erase, if_pos rfl]
      | started => exact absurd (List.mem_append_right _ (List.mem_singleton_self _)) (hidle _ _)
      | moved hkept =>
        rw [habsent] at hkept
        cases hkept
    · cases hloses with
      | unwritten hkept =>
        rw [habsent] at hkept
        cases hkept

/-- A command of a thread is refused by the store, but something has been told of it. -/
def ToldOfRefused (settings : ServiceSettings) (key : ThreadKey) (s : Service) (input : Input) :
    Prop :=
  ∃ command reason, input = .command key command (some reason) ∧
    (s.execute settings key command (some reason)).2 = .error (.unwritten reason) ∧
    (s.handle settings input).told key ≠ s.told key

/-- Among inputs there is a command of a thread that was told of and refused. -/
def Misreports (settings : ServiceSettings) (key : ThreadKey) (s : Service) (inputs : List Input) :
    Prop :=
  ∃ earlier input rest, inputs = earlier ++ input :: rest ∧
    ToldOfRefused settings key (s.after settings earlier) input

theorem misreports_concat {inputs : List Input} {input : Input} :
    Misreports settings key s (inputs ++ [input]) ↔
      Misreports settings key s inputs ∨ ToldOfRefused settings key
        (s.after settings inputs) input := by
  constructor
  · rintro ⟨earlier, refused, rest, hinputs, htold⟩
    cases rest using List.reverseRecOn with
    | nil =>
      obtain ⟨rfl, rfl⟩ := List.append_singleton_inj.1 hinputs
      exact .inr htold
    | append_singleton rest last =>
      rw [← List.cons_append, ← List.append_assoc] at hinputs
      obtain ⟨rfl, rfl⟩ := List.append_singleton_inj.1 hinputs
      exact .inl ⟨earlier, refused, rest, rfl, htold⟩
  · rintro (⟨earlier, refused, rest, rfl, htold⟩ | htold)
    · exact ⟨earlier, refused, rest ++ [input], by rw [List.append_assoc, List.cons_append], htold⟩
    · exact ⟨inputs, input, [], rfl, htold⟩

/-- The numbers of turns are told once each, unless a turn has been told of and refused: then there
are too many. -/
structure Numbers (settings : ServiceSettings) (key : ThreadKey) (s : Service) (inputs : List Input)
    (c : Conversation) (told : List Event) : Prop where
  accounts : Accounts told c
  once : ¬ Misreports settings key s inputs → told.filterMap Event.turn? = List.range' 1 c.turn
  more : Misreports settings key s inputs → c.turn < (told.filterMap Event.turn?).length

namespace Numbers

variable {inputs : List Input} {told : List Event} {c c' kept : Conversation}

theorem opened (hturn : c.turn = 0) (hpath : c.path = {}) :
    Numbers settings key s [] c (news key none c) where
  accounts := accounts_news hturn hpath
  once _ := by
    rw [turns_news, hturn]
    rfl
  more := by
    rintro ⟨earlier, input, rest, hinputs, -⟩
    cases List.append_eq_nil_iff.1 hinputs.symm |>.2

/-- An input that tells nothing of the thread. -/
theorem passed {input : Input} (h : Numbers settings key s inputs c told)
    (hsame : (s.after settings (inputs ++ [input])).told key = (s.after settings inputs).told key) :
    Numbers settings key s (inputs ++ [input]) c told := by
  have hnot : ¬ ToldOfRefused settings key (s.after settings inputs) input := by
    rintro ⟨-, -, -, -, hne⟩
    rw [after_concat] at hsame
    exact hne hsame
  refine ⟨h.accounts, fun hnone => h.once fun hsome => hnone (misreports_concat.2 (.inl hsome)),
    fun hsome => ?_⟩
  exact h.more ((misreports_concat.1 hsome).resolve_right hnot)

/-- An operation that is stored is told of once. -/
theorem moved {operation : Operation} (h : Numbers settings key s inputs kept told)
    (hagrees : kept.Agrees c) (hmoves : operation.Moves settings.engine.policy c c') :
    Numbers settings key s (inputs ++ [.command key (.operate operation)]) c'
      (told ++ news key (some c) c') := by
  have hnot : ¬ ToldOfRefused settings key (s.after settings inputs)
      (.command key (.operate operation)) := by
    rintro ⟨command, reason, hinput, -⟩
    cases hinput
  refine ⟨h.accounts.moved hagrees hmoves, fun hnone => ?_, fun hsome => ?_⟩
  · have honce := h.once fun hsome => hnone (misreports_concat.2 (.inl hsome))
    rw [List.filterMap_append, honce, turns_news, ← hagrees.turn]
    rcases hmoves.turn with hturn | ⟨-, -, hturn⟩
    · rw [if_pos (by simp [hturn]), List.append_nil, hturn]
    · rw [if_neg (by simp [hturn]), hturn, List.range'_1_concat, Nat.add_comm]
  · have hmore := h.more ((misreports_concat.1 hsome).resolve_right hnot)
    rw [← hagrees.turn] at hmore
    rw [List.filterMap_append, List.length_append, turns_news]
    rcases hmoves.turn with hturn | ⟨-, -, hturn⟩
    · rw [hturn]
      omega
    · rw [if_neg (by simp [hturn]), hturn]
      exact Nat.succ_lt_succ hmore

/-- A turn that is counted and then refused is told of once too often. -/
theorem lost {operation : Operation} {reason : String} (h : Numbers settings key s inputs kept told)
    (hfailed :
      ((s.after settings inputs).execute settings key (.operate operation) (some reason)).2 =
      .error (.unwritten reason))
    (hgrows : (s.after settings (inputs ++ [.command key (.operate operation) (some reason)])).told
      key =
      (s.after settings inputs).told key ++ turnEvents key (some c) c')
    (hagrees : kept.Agrees c) (hmoves : operation.Moves settings.engine.policy c c') :
    Numbers settings key s (inputs ++ [.command key (.operate operation) (some reason)]) kept
      (told ++ turnEvents key (some c) c') := by
  by_cases hsilent : turnEvents key (some c) c' = []
  · rw [hsilent, List.append_nil] at hgrows ⊢
    exact h.passed hgrows
  · have hsome : Misreports settings key s
        (inputs ++ [.command key (.operate operation) (some reason)]) := by
      refine misreports_concat.2 (.inr ⟨_, reason, rfl, hfailed, ?_⟩)
      rw [← after_concat, hgrows]
      simpa using hsilent
    refine ⟨h.accounts.lost hagrees hmoves, fun hnone => absurd hsome hnone, fun _ => ?_⟩
    have hlength : kept.turn ≤ (told.filterMap Event.turn?).length := by
      by_cases hbefore : Misreports settings key s inputs
      · exact (h.more hbefore).le
      · rw [h.once hbefore, List.length_range']
    obtain ⟨hturns, -, -⟩ := filterMap_turnEvents key (some c) c'
    have hcounted : ¬ (some c).all (fun b => b.turn = c'.turn) = true :=
      fun hsame => hsilent (if_pos hsame)
    rw [List.filterMap_append, List.length_append, hturns, if_neg hcounted]
    exact Nat.lt_succ_of_le hlength

end Numbers

/-- **What is told of a conversation is its history, unless a turn was told of and refused.**  Since
a thread was opened, and until it is closed, the turns that are told of are numbered from one to the
stored count if and only if the store has refused none of them.  In any case the numbers count up to
that of the conversation in the store, some of them perhaps more than once; a path is locked once at
most, and the end comes once at most and after the last turn.  Once the thread is closed nothing is
told of it before it is opened again. -/
theorem told_in_order (settings : ServiceSettings) (s : Service) (key : ThreadKey) (flow : FlowId)
    (context : Dict Json) {reply : CommandReply}
    (hstart : (s.execute settings key (.start flow context)).2 = .ok reply) (inputs : List Input)
    (hopen : .command key .close ∉ inputs) :
    let opened := (s.execute settings key (.start flow context)).1
    let s' := opened.after settings inputs
    ∃ c told, s'.store.conversations.get? key = some c ∧ s'.told key = s.told key ++ told ∧
      (told.filterMap Event.turn? = List.range' 1 c.turn ↔
        ¬ Misreports settings key opened inputs) ∧
      CountsTo (told.filterMap Event.turn?) c.turn ∧
      (told.filterMap Event.lock?).length ≤ 1 ∧
      (told.filterMap Event.end?).length ≤ 1 ∧
      (told.Pairwise fun e e' => e.end? ≠ none → e'.turn? = none) ∧
      ∀ idle : List Input, (∀ flow context, .command key (.start flow context) ∉ idle) →
        ((s'.execute settings key .close).1.after settings idle).told key = s'.told key := by
  intro opened s'
  obtain ⟨c, told, hc, htold, hnumbers⟩ := told_induction (P := Numbers settings key opened) hstart
    (fun c hturn hpath => .opened hturn hpath) (fun inputs input c told h hsame => h.passed hsame)
    (fun inputs operation reason kept c c' told h hfailed hgrows hagrees hmoves =>
      h.lost hfailed hgrows hagrees hmoves)
    (fun inputs operation kept c c' told h _ _ hagrees hmoves => h.moved hagrees hmoves)
      inputs hopen
  have haccounts := hnumbers.accounts
  refine ⟨c, told, hc, htold, ⟨fun horder hmisreports => ?_, hnumbers.once⟩, haccounts.turns,
    haccounts.locks, haccounts.ends, haccounts.last, fun idle hidle => ?_⟩
  · have hmore := hnumbers.more hmisreports
    rw [horder, List.length_range'] at hmore
    exact lt_irrefl _ hmore
  · obtain ⟨hnone, hsame⟩ := close_drops settings s' key
    exact (told_of_absent hnone idle hidle).2.trans hsame

end Histories

end Service

/-! ### A conversation at a junction -/

namespace Samples

/-- A fork with two paths: along one a question is asked, along the other only an action is run. -/
def junction : Flow where
  id := "junction"
  version := 1
  nodes := [.pathFork "fork" ["left", "right"] "Which way?", .terminal "end"]
  edges := [.always "fork" "end"]
  subgraphs := [
    ("left", { nodes := [.question "where" "place" "Where to?"], edges := [.exit "where"] }),
    ("right", { nodes := [.action "wave"], edges := [.exit "wave"] })]

/-- The graph of `junction`. -/
def junctionGraph : Graph where
  flow := junction
  areas := [
    { id := .root
      entry := "fork"
      steps := [
        ⟨.pathFork "fork" ["left", "right"] "Which way?", none, none, none,
          [("left", ⟨"left"⟩), ("right", ⟨"right"⟩)]⟩,
        ⟨.terminal "end", none, none, none, []⟩]
      links := [⟨0, "fork", .node "end", .always, false⟩]
      invalidTargets := [] },
    { id := ⟨"left"⟩
      entry := "where"
      steps := [⟨.question "where" "place" "Where to?", none, none, none, []⟩]
      links := [⟨0, "where", .exit, .always, false⟩]
      invalidTargets := [] },
    { id := ⟨"right"⟩
      entry := "wave"
      steps := [⟨.action "wave", none, none, none, []⟩]
      links := [⟨0, "wave", .exit, .always, false⟩]
      invalidTargets := [] }]
  warnings := []
  predicates := .builtin

theorem compile_junction : Host.builtin.compile junction = .ok junctionGraph :=
  Host.compile_of_passes rfl rfl (by decide) (by with_unfolding_all rfl) rfl rfl rfl

/-- A service that has compiled `junction`, the only version in its store. -/
def junctionService : Service where
  store := { flows := [(⟨"acme", "junction"⟩, [junction])] }
  graphs := [(⟨⟨"acme", "junction"⟩, 1⟩, junctionGraph)]

/-- A thread that is free. -/
def ada : ThreadKey := ⟨"acme", "ada"⟩

theorem junctionService_told : junctionService.told ada = [] := rfl

/-- The thread is opened on `junction`. -/
def boarded : Service × Except Failure CommandReply :=
  junctionService.execute attended ada (.start "junction" [])

theorem boarded_ok : ∃ reply, boarded.2 = .ok reply := exists_of_isOk (by decide +kernel)

/-- Two signals for the path without a question, and a turn after the end. -/
def turnings : List Service.Input := [
  .command ada (.operate (.turn { path := some "right" })),
  .command ada (.operate (.turn { path := some "right" })),
  .command ada (.operate (.turn {}))]

/-- What is told of them. -/
def turningsTold : List Event := [
  .turnProcessed ada 1 "fork",
  .turnProcessed ada 2 "end",
  .pathLocked ada "right",
  .ended ada "end"]

end Samples

open Samples in
/-- Two turns lead to the end, and neither a further turn nor what comes after the thread is closed
is told of. -/
theorem Service.told_in_order_junction :
    (∃ reply, boarded.2 = .ok reply) ∧ .command ada .close ∉ turnings ∧
      let s := boarded.1.after attended turnings
      s.told ada = turningsTold ∧ (∃ c, s.store.conversations.get? ada = some c ∧ c.turn = 2) ∧
      ∀ idle : List Input, (∀ flow context, .command ada (.start flow context) ∉ idle) →
        ((s.execute attended ada .close).1.after attended idle).told ada = turningsTold := by
  have hopen : (.command ada .close : Input) ∉ turnings := by simp [turnings]
  have htold : (boarded.1.after attended turnings).told ada = turningsTold := by decide +kernel
  obtain ⟨reply, hreply⟩ := boarded_ok
  have horder := told_in_order attended junctionService ada "junction" [] hreply turnings hopen
  rw [← boarded] at horder
  obtain ⟨c, told, hc, happended, hturns, -, -, -, -, hidle⟩ := horder
  rw [junctionService_told, List.nil_append] at happended
  have hlist : told = turningsTold := happended.symm.trans htold
  have hwritten : ¬ Misreports attended ada boarded.1 turnings := by
    -- nothing is refused
    rintro ⟨earlier, input, rest, hinputs, command, reason, rfl, -⟩
    have hmem : (.command ada command (some reason) : Input) ∈ turnings := by
      rw [hinputs]
      exact List.mem_append_right earlier List.mem_cons_self
    simp [turnings] at hmem
  have hturn : c.turn = 2 := by
    have horder := hturns.2 hwritten
    rw [hlist] at horder
    have hlength := congrArg List.length horder
    rw [List.length_range'] at hlength
    exact hlength.symm
  exact ⟨⟨reply, hreply⟩, hopen, htold, ⟨c, hc, hturn⟩,
    fun idle hnone => (hidle idle hnone).trans htold⟩

namespace Samples

/-- A signal for a path when the database is locked, and once more when it is not. -/
def refusedTurnings : List Service.Input := [
  .command ada (.operate (.turn { path := some "right" })) (some "database is locked"),
  .command ada (.operate (.turn { path := some "right" }))]

/-- The turn that is refused is told of as the first one, and so is the turn after it. -/
theorem refused_told_again :
    Host.builtin.compile junction = .ok junctionGraph ∧ (∃ reply, boarded.2 = .ok reply) ∧
      .command ada .close ∉ refusedTurnings ∧
      let s := boarded.1.after attended refusedTurnings
      (∃ c, s.store.conversations.get? ada = some c ∧ c.turn = 1) ∧
      s.told ada = junctionService.told ada ++
        [.turnProcessed ada 1 "fork", .turnProcessed ada 1 "fork"] := by
  refine ⟨compile_junction, boarded_ok, by simp [refusedTurnings], ?_, by decide +kernel⟩
  have hturn : ((boarded.1.after attended refusedTurnings).store.conversations.get? ada).map
      (·.turn) = some 1 := by
    decide +kernel
  exact Option.map_eq_some_iff.1 hturn

end Samples

end Parley
